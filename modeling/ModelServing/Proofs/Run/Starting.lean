import ModelServing.Proofs.Filesystem.PathLookup
import ModelServing.Proofs.Run.Failing

/-! Which file a server is started from. -/

namespace ModelServing

namespace Filesystem

open Entry (Covers covers_refl covers_set_none)

/-- The file system without the socket that a path names, if it names one and its removal is not
refused. -/
def withoutSocket (fs : Filesystem) (refused : Option Errno) (path : String) : Filesystem :=
  -- Only what the path itself names is removed, so a link at its end is left alone.
  match fs.find false path, refused with
  | .ok (names, .socket), none => fs.setAt names none
  | _, _ => fs

/-- The current directory stays where it is. -/
@[simp] theorem withoutSocket_current (fs : Filesystem) (refused : Option Errno) (path : String) :
    (fs.withoutSocket refused path).current = fs.current := by
  -- At most an entry of the tree is taken away.
  unfold withoutSocket
  split <;> rfl

/-- Without a socket, everything else is still there. -/
theorem covers_withoutSocket (fs : Filesystem) (refused : Option Errno) (path : String) :
    Covers fs.root (fs.withoutSocket refused path).root := by
  -- What is taken away is a socket, if anything is.
  unfold withoutSocket
  split
  · rename_i names found
    exact covers_set_none (at?_of_find found)
  · exact covers_refl fs.root

end Filesystem

namespace Run

open Filesystem (withoutSocket covers_withoutSocket)

/-- A removal leaves everything but the socket, and that as well if the system refuses it. -/
theorem removeStaleSocket_of_clean {fs : Filesystem} {path : String}
    (clean : Filesystem.hasNull path = false) (refused : Option Errno) :
    ∃ warnings, removeStaleSocket fs refused path = .ok (fs.withoutSocket refused path, warnings) := by
  -- Both look at what the path names, the last link not passed.
  cases reaches : fs.find false path with
  | error errno => simp [removeStaleSocket, withoutSocket, clean, reaches]
  | ok reached =>
    obtain ⟨names, entry⟩ := reached
    cases entry <;> cases refused <;> simp [removeStaleSocket, withoutSocket, clean, reaches]

/-- A removal fails only for a path that the system cannot take. -/
theorem removeStaleSocket_eq_ok {fs left : Filesystem} {refused : Option Errno} {path : String}
    {warnings : List LogRecord} (cleared : removeStaleSocket fs refused path = .ok (left, warnings)) :
    Filesystem.hasNull path = false ∧ left = fs.withoutSocket refused path := by
  -- A path without a null character can always be cleared, with a warning at worst.
  cases clean : Filesystem.hasNull path with
  | true => simp [removeStaleSocket, clean] at cleared
  | false =>
    obtain ⟨warnings, removed⟩ := removeStaleSocket_of_clean clean refused
    cases cleared.symm.trans removed
    exact ⟨rfl, rfl⟩

/-- Nothing is executed with arguments that are too long. -/
theorem load_oversized_ne_ok (fs : Filesystem) (path : String) (arguments : List String)
    (depth : Nat) (image : Image) : load fs true path arguments depth ≠ .ok image := by
  -- The arguments are looked at once the file is found, before its first line is.
  intro loaded
  cases depth with
  | zero => cases loaded
  | succ depth =>
    unfold load at loaded
    cases status : fs.status path with
    | error errno =>
      rw [status] at loaded
      cases loaded
    | ok entry =>
      rw [status] at loaded
      cases entry with
      | file file =>
        simp only [Bind.bind, Except.bind] at loaded
        split at loaded <;> cases loaded
      | _ => cases loaded

/-- What is executed is the same in a tree that holds everything but sockets. -/
theorem load_of_covers {fs other : Filesystem} (covers : Entry.Covers fs.root other.root)
    (same : other.current = fs.current) {path : String} {arguments : List String} {depth : Nat}
    {image : Image} (loaded : load fs false path arguments depth = .ok image) :
    load other false path arguments depth = .ok image := by
  -- Each file on the way to the last interpreter is found again.
  induction depth generalizing path arguments with
  | zero => cases loaded
  | succ depth ih =>
    unfold load at loaded ⊢
    cases status : fs.status path with
    | error errno =>
      rw [status] at loaded
      cases loaded
    | ok entry =>
      rw [status] at loaded
      cases entry with
      | file file =>
        have again := Filesystem.status_of_covers covers
          (show other.base path = fs.base path by simp only [Filesystem.base, same]) status
        rw [again]
        simp only [Bind.bind, Except.bind] at loaded ⊢
        split at loaded
        · cases loaded
        · rename_i executable
          simp only [executable, if_false, Bool.false_eq_true] at loaded ⊢
          split at loaded
          · exact loaded
          · exact ih loaded
          · cases loaded
      | _ => cases loaded

/-- A program with a slash in its name is executed from where that leads, if anything is. -/
theorem Request.image_eq_ok_iff {request : Request}
    (slash : request.program.toList.contains '/' = true) {fs : Filesystem} {image : Image} :
    request.image fs = .ok image ↔
      isOversized (request.program :: request.arguments) request.environment = false ∧
        load fs false request.program request.arguments interpreterLimit = .ok image := by
  -- It is not looked for anywhere else.
  have only : candidates request.environment request.program = [request.program] := if_pos slash
  simp only [Request.image, only, loadFirst]
  cases isOversized (request.program :: request.arguments) request.environment with
  | true =>
    cases loaded : load fs true request.program request.arguments interpreterLimit with
    | error errno => simp [Except.mapError]
    | ok other => exact absurd loaded (load_oversized_ne_ok fs _ _ _ other)
  | false =>
    cases load fs false request.program request.arguments interpreterLimit with
    | error errno => simp [Except.mapError]
    | ok other => simp [Except.mapError]

/-- A request that is bound to a directory and names its program with a slash is started exactly if
the system takes it, and can execute there what the name leads to from there. -/
theorem Request.start_eq_ok_iff {request : Request}
    (slash : request.program.toList.contains '/' = true) {path : String}
    (bound : request.directory = some path) {fs seen : Filesystem} {there : List String}
    {entries : List (String × Entry)} (found : fs.find true path = .ok (there, .directory entries))
    {image : Image} :
    request.start fs = .ok (seen, image) ↔
      request.check = .ok () ∧
        isOversized (request.program :: request.arguments) request.environment = false ∧
        seen = { fs with current := there } ∧
        load seen false request.program request.arguments interpreterLimit = .ok image := by
  -- The three parts of a start: the checks, the change of directory, and the search for the file.
  have entered : request.enter fs = .ok { fs with current := there } := by
    simp [Request.enter, bound, Filesystem.enter, found, Entry.isDirectory, Bind.bind, Except.bind,
      Pure.pure, Except.pure, Except.mapError]
  have started : request.start fs = .ok (seen, image) ↔
      request.check = .ok () ∧ request.image { fs with current := there } = .ok image ∧
        seen = { fs with current := there } := by
    simp only [Request.start, entered, Bind.bind, Except.bind, Pure.pure, Except.pure]
    cases request.check with
    | error failure => simp
    | ok passed =>
      cases request.image { fs with current := there } with
      | error failure => simp
      | ok other => simp [eq_comm, and_comm]
  rw [started, request.image_eq_ok_iff slash]
  constructor
  · rintro ⟨taken, ⟨short, loaded⟩, rfl⟩
    exact ⟨taken, short, rfl, loaded⟩
  · rintro ⟨taken, short, rfl, loaded⟩
    exact ⟨taken, ⟨short, loaded⟩, rfl⟩

namespace Server

/-- Whether a server whose program is named with a slash is started from a file, in a directory that
some names lead to. -/
def Starts (server : Server) (refused : Option Errno) (host : Host) (file : File)
    (there : List String) : Prop :=
  -- The path is looked up where the process starts, which is why the directory is told.
  server.program.toList.contains '/' = true ∧
    ∃ left warnings seen image,
      removeStaleSocket host.fs refused server.socket = .ok (left, warnings) ∧
        (server.request host).start left = .ok (seen, image) ∧ seen.current = there ∧
        seen.status server.program = .ok (.file file)

/-- A server that is started fails later at most at a line that is too long, or when it is given up
with a grace period that is too long for the clock. -/
theorem failed_of_starts {server : Server} {refused : Option Errno} {host : Host} {file : File}
    {there : List String} (starts : server.Starts refused host file there) {programs : Programs}
    {settings : Settings} {deadline : Option (Deadline LineSink)} {sink : LineSink}
    {failure : Failure}
    (failed : (server.runWith programs refused settings logSink deadline sink host).outcome
      = some (.failed failure)) : failure = .overlongLine ∨ failure = .hugeDelay := by
  -- What can still go wrong is what happens to its output, and the log refuses nothing.
  obtain ⟨-, left, warnings, seen, image, cleared, started, -⟩ := starts
  simp only [runWith, cleared, started] at failed
  exact (server.failed_of_attend settings (logSink_refuses fun _ => False) deadline sink _
    failed).imp_right fun later => later.resolve_right id

/-- The files as a server sees them that is started in a directory. -/
def sight (server : Server) (refused : Option Errno) (host : Host) (there : List String) :
    Filesystem :=
  { host.fs.withoutSocket refused server.socket with current := there }

/-- What it takes to start a server from a file in a directory. -/
structure Startable (server : Server) (refused : Option Errno) (host : Host) (file : File)
    (there : List String) : Prop where
  /-- The socket's path can be looked at. -/
  clean : Filesystem.hasNull server.socket = false
  /-- The system takes the texts of the request. -/
  taken : (server.request host).check = .ok ()
  short : isOversized (server.program :: server.arguments) (server.fullEnvironment host) = false
  /-- The name of the program leads to the file from the directory. -/
  again : (server.sight refused host there).status server.program = .ok (.file file)
  /-- What the name of the program leads to can be executed. -/
  executable : ∃ image, load (server.sight refused host there) false server.program
    server.arguments interpreterLimit = .ok image

/-- A server that is bound to a directory is started from a file exactly if the system takes the
request, and the name of its program leads from there to that file, which can be executed. -/
theorem starts_iff {server : Server} {refused : Option Errno} {host : Host} {file : File}
    {path : String} {there : List String} {entries : List (String × Entry)}
    (slash : server.program.toList.contains '/' = true) (bound : server.directory? = some path)
    (found : host.fs.find true path = .ok (there, .directory entries)) :
    server.Starts refused host file there ↔ server.Startable refused host file there := by
  -- The directory is still there when the socket is gone.
  obtain ⟨kept, reached, alike⟩ := Filesystem.find_of_covers
    (covers_withoutSocket host.fs refused server.socket) (by simp [Filesystem.base]) found rfl
  obtain ⟨others, rfl⟩ := alike.exists_directory
  constructor
  · rintro ⟨-, left, warnings, seen, image, cleared, started, -, again⟩
    -- What is left after the removal is what the server sees, once it is in its directory.
    obtain ⟨clean, rfl⟩ := removeStaleSocket_eq_ok cleared
    obtain ⟨taken, short, rfl, loaded⟩ := (Request.start_eq_ok_iff slash bound reached).mp started
    exact ⟨clean, taken, short, again, image, loaded⟩
  · rintro ⟨clean, taken, short, again, image, loaded⟩
    obtain ⟨warnings, cleared⟩ := removeStaleSocket_of_clean clean refused
    exact ⟨slash, _, warnings, _, image, cleared,
      (Request.start_eq_ok_iff slash bound reached).mpr ⟨taken, short, rfl, loaded⟩, rfl, again⟩

end Server

end Run

end ModelServing
