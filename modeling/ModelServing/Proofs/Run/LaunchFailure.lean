import ModelServing.Proofs.Run.ExitReport
import ModelServing.Proofs.Run.Starting

/-! What is told of a server that could not be started. -/

namespace ModelServing.Run

/-- Why the system does not carry out a request that it takes: the directory to run in cannot be
entered, or nothing can be executed there. -/
inductive Request.Fails (request : Request) (fs : Filesystem) : SystemError → Prop
  | directory {path : String} {errno : Errno} (bound : request.directory = some path)
    (refused : fs.enter path = .error errno) : Fails request fs ⟨errno, path⟩
  | program {seen : Filesystem} {errno : Errno} (entered : request.enter fs = .ok seen)
    (refused : request.image seen = .error (.system ⟨errno, request.program⟩)) :
    Fails request fs ⟨errno, request.program⟩

namespace Request

/-- The texts of a request are its program, its arguments, its directory, and the names and values
of its variables. -/
theorem mem_texts_iff {request : Request} {text : String} :
    text ∈ request.texts ↔
      text = request.program ∨ text ∈ request.arguments ∨ request.directory = some text ∨
        ∃ entry ∈ request.environment, text = entry.1 ∨ text = entry.2 := by
  -- These are all the places where a request keeps a text.
  simp [texts]

/-- The system takes a request if no variable has an equals sign in its name, and no text a null
character in it. -/
theorem check_eq_ok_iff {request : Request} :
    request.check = .ok () ↔ (∀ entry ∈ request.environment, '=' ∉ entry.1.toList) ∧
      ∀ text ∈ request.texts, Filesystem.hasNull text = false := by
  -- Each check passes exactly if there is nothing of what it looks for.
  unfold check
  split
  · rename_i named
    simp only [List.any_eq_true, List.contains_iff_mem] at named
    obtain ⟨entry, member, equals⟩ := named
    simp only [reduceCtorEq, false_iff, not_and]
    exact fun clean => absurd equals (clean entry member)
  · rename_i unnamed
    split
    · rename_i null
      simp only [List.any_eq_true] at null
      obtain ⟨text, member, holds⟩ := null
      simp only [reduceCtorEq, false_iff, not_and]
      intro _ clean
      rw [clean text member] at holds
      cases holds
    · rename_i clean
      simpa using ⟨by simpa using unnamed, by simpa using clean⟩

/-- A request that the system does not take fails for one of two reasons. -/
theorem check_error {request : Request} {failure : Failure}
    (refused : request.check = .error failure) :
    failure = .nullCharacter ∨ failure = .variableName := by
  -- There are two checks, of the names of variables and of null characters.
  unfold check at refused
  split at refused
  · cases refused
    exact .inr rfl
  · split at refused
    · cases refused
      exact .inl rfl
    · cases refused

/-- A directory that cannot be entered is told with its path. -/
theorem enter_error {request : Request} {fs : Filesystem} {failure : Failure}
    (failed : request.enter fs = .error failure) :
    ∃ path errno, request.directory = some path ∧ fs.enter path = .error errno ∧
      failure = .system ⟨errno, path⟩ := by
  -- A request without a directory of its own enters none.
  unfold enter at failed
  split at failed
  · cases failed
  · rename_i path bound
    cases refused : fs.enter path with
    | error errno =>
      rw [refused] at failed
      cases failed
      exact ⟨path, errno, bound, refused, rfl⟩
    | ok inside =>
      rw [refused] at failed
      cases failed

/-- A program that cannot be executed is told with its name. -/
theorem image_error {request : Request} {fs : Filesystem} {failure : Failure}
    (failed : request.image fs = .error failure) :
    ∃ errno, failure = .system ⟨errno, request.program⟩ := by
  -- The search tells an error number only, and the program is the one of the request.
  simp only [image] at failed
  -- Whatever the search comes to, the name stands beside it.
  generalize loadFirst fs _ _ _ _ = loaded at failed
  cases loaded with
  | error errno =>
    cases failed
    exact ⟨errno, rfl⟩
  | ok image => cases failed

/-- A request that the system takes and does not carry out fails for one of the reasons there
are. -/
theorem fails_of_start_error {request : Request} (taken : request.check = .ok ())
    {fs : Filesystem} {failure : Failure} (failed : request.start fs = .error failure) :
    ∃ cause, failure = .system cause ∧ request.Fails fs cause := by
  -- A start has two parts behind the checks, each of which may be the last.
  simp only [start, taken, Bind.bind, Except.bind] at failed
  cases entered : request.enter fs with
  | error refusal =>
    obtain ⟨path, errno, bound, refused, rfl⟩ := enter_error entered
    rw [entered] at failed
    cases failed
    exact ⟨⟨errno, path⟩, rfl, .directory bound refused⟩
  | ok seen =>
    rw [entered] at failed
    cases loaded : request.image seen with
    | error refusal =>
      obtain ⟨errno, rfl⟩ := image_error loaded
      simp only [loaded] at failed
      cases failed
      exact ⟨⟨errno, request.program⟩, rfl, .program entered loaded⟩
    | ok image => simp [loaded, Pure.pure, Except.pure] at failed

end Request

namespace Server

/-- A server is started if the path of its socket can be cleared, and the system carries out its
request then. -/
def IsStarted (server : Server) (refused : Option Errno) (host : Host) : Prop :=
  -- What the host would refuse is part of the start, so that this is decided before anything runs.
  ∃ left warnings seen image,
    removeStaleSocket host.fs refused server.socket = .ok (left, warnings) ∧
      (server.request host).start left = .ok (seen, image)

/-- The system can take a server: its texts hold no null character, and the names of its variables
no equals sign. -/
structure Takable (server : Server) (host : Host) : Prop where
  socket : '\x00' ∉ server.socket.toList
  program : '\x00' ∉ server.program.toList
  arguments : ∀ argument ∈ server.arguments, '\x00' ∉ argument.toList
  directory : ∀ path, server.directory? = some path → '\x00' ∉ path.toList
  environment : ∀ entry ∈ server.fullEnvironment host,
    '=' ∉ entry.1.toList ∧ '\x00' ∉ entry.1.toList ∧ '\x00' ∉ entry.2.toList

/-- The system can take a server if it can look at its socket's path and take its request. -/
theorem takable_iff {server : Server} {host : Host} :
    server.Takable host ↔
      Filesystem.hasNull server.socket = false ∧ (server.request host).check = .ok () := by
  -- The request is made from the server and its host, so that their texts have to be compared place
  -- by place.
  rw [Request.check_eq_ok_iff]
  simp only [Filesystem.hasNull_eq_false_iff]
  constructor
  · -- Each text of the request is one of the server's.
    intro takable
    refine ⟨takable.socket, fun entry member => (takable.environment entry member).1, ?_⟩
    intro text member
    rcases Request.mem_texts_iff.mp member with rfl | argument | bound | ⟨entry, listed, rfl | rfl⟩
    · exact takable.program
    · exact takable.arguments text argument
    · exact takable.directory text bound
    · exact (takable.environment entry listed).2.1
    · exact (takable.environment entry listed).2.2
  · rintro ⟨socket, names, texts⟩
    have clean {text : String} (among : text ∈ (server.request host).texts) :
        '\x00' ∉ text.toList := texts text among
    refine ⟨socket, ?_, ?_, ?_, ?_⟩
    · exact clean (Request.mem_texts_iff.mpr (.inl rfl))
    · exact fun argument member => clean (Request.mem_texts_iff.mpr (.inr (.inl member)))
    · exact fun path bound => clean (Request.mem_texts_iff.mpr (.inr (.inr (.inl bound))))
    · intro entry member
      have name : entry.1 ∈ (server.request host).texts :=
        Request.mem_texts_iff.mpr (.inr (.inr (.inr ⟨entry, member, .inl rfl⟩)))
      have value : entry.2 ∈ (server.request host).texts :=
        Request.mem_texts_iff.mpr (.inr (.inr (.inr ⟨entry, member, .inr rfl⟩)))
      exact ⟨names entry member, clean name, clean value⟩

/-- A server is started if its socket's path can be looked at, and its request is carried out once
no socket is there. -/
theorem isStarted_iff {server : Server} {refused : Option Errno} {host : Host} :
    server.IsStarted refused host ↔ Filesystem.hasNull server.socket = false ∧
      ∃ seen image, (server.request host).start (host.fs.withoutSocket refused server.socket)
        = .ok (seen, image) := by
  -- A path that can be looked at is cleared, whether the removal is refused or not.
  constructor
  · rintro ⟨left, warnings, seen, image, cleared, started⟩
    obtain ⟨clean, rfl⟩ := removeStaleSocket_eq_ok cleared
    exact ⟨clean, seen, image, started⟩
  · rintro ⟨clean, seen, image, started⟩
    obtain ⟨warnings, cleared⟩ := removeStaleSocket_of_clean clean refused
    exact ⟨_, warnings, seen, image, cleared, started⟩

/-- Nothing is started from texts that the system cannot take. -/
theorem takable_of_isStarted {server : Server} {refused : Option Errno} {host : Host}
    (started : server.IsStarted refused host) : server.Takable host := by
  -- Checking comes before everything else that a request does.
  obtain ⟨clean, seen, image, carried⟩ := isStarted_iff.mp started
  refine takable_iff.mpr ⟨clean, ?_⟩
  -- A request that has been carried out has passed its checks.
  cases checked : (server.request host).check with
  | ok passed => rfl
  | error failure =>
    simp [Request.start, checked, Bind.bind, Except.bind] at carried

/-- The run of a server that is not started ends at once: with the failure of a text that the system
cannot take, or as one that could not be launched. -/
theorem runWith_of_unstarted {σ : Type} {server : Server} {refused : Option Errno} {host : Host}
    (unstarted : ¬server.IsStarted refused host) (programs : Programs) (settings : Settings)
    (ops : Sink σ) (deadline : Option (Deadline σ)) (sink : σ) :
    let outcome := (server.runWith programs refused settings ops deadline sink host).outcome
    (¬server.Takable host ∧
        (outcome = some (.failed .nullCharacter) ∨ outcome = some (.failed .variableName))) ∨
      server.Takable host ∧
        ∃ cause, outcome = some (.failed (.backend (.launchFailed server.name cause))) ∧
          (server.request host).Fails (host.fs.withoutSocket refused server.socket) cause := by
  -- A start can fail at the socket, at the check of the request or at carrying it out, and each is
  -- told in its own way.
  intro outcome
  rw [takable_iff]
  rw [isStarted_iff] at unstarted
  cases clean : Filesystem.hasNull server.socket with
  | true =>
    -- The path of the socket is looked at before everything else.
    have told : outcome = some (.failed .nullCharacter) := by
      simp [outcome, runWith, removeStaleSocket, clean]
    exact .inl ⟨by simp, .inl told⟩
  | false =>
    obtain ⟨warnings, cleared⟩ := @removeStaleSocket_of_clean host.fs _ clean refused
    cases started : (server.request host).start (host.fs.withoutSocket refused server.socket) with
    | ok image => exact absurd ⟨clean, _, _, started⟩ unstarted
    | error failure =>
      have told : outcome = some (.failed (server.startFailure failure)) := by
        simp [outcome, runWith, cleared, started]
      cases checked : (server.request host).check with
      | error refusal =>
        have same : refusal = failure := by
          simpa [Request.start, checked, Bind.bind, Except.bind] using started
        subst same
        refine .inl ⟨by simp, ?_⟩
        rcases Request.check_error checked with rfl | rfl
        · exact .inl told
        · exact .inr told
      | ok passed =>
        -- Only a failure of the system is left, and that is told as the failure of the launch.
        obtain ⟨cause, rfl, fails⟩ := Request.fails_of_start_error checked started
        exact .inr ⟨⟨rfl, rfl⟩, cause, told, fails⟩

/-- A server that is not started is told as one that could not be launched, with the reason of the
system, exactly if the system can take all its texts. Otherwise the failure of a text is told as it
is. -/
theorem launch_failure_told_iff {σ : Type} {server : Server} {refused : Option Errno} {host : Host}
    (unstarted : ¬server.IsStarted refused host) (programs : Programs) (settings : Settings)
    (ops : Sink σ) (deadline : Option (Deadline σ)) (sink : σ) :
    let outcome := (server.runWith programs refused settings ops deadline sink host).outcome
    ((∃ cause, outcome = some (.failed (.backend (.launchFailed server.name cause))) ∧
        (server.request host).Fails (host.fs.withoutSocket refused server.socket) cause) ↔
      server.Takable host) ∧
    (¬server.Takable host →
      outcome = some (.failed .nullCharacter) ∨ outcome = some (.failed .variableName)) := by
  -- The reasons exclude each other, since a text at fault is found before anything is tried.
  intro outcome
  -- The two ways in which such a run ends tell the two sides of the equivalence.
  rcases runWith_of_unstarted unstarted programs settings ops deadline sink with
    ⟨untaken, told⟩ | ⟨taken, launch⟩
  · -- Neither of the two failures is one of a launch.
    refine ⟨iff_of_false ?_ untaken, fun _ => told⟩
    rintro ⟨cause, launch, -⟩
    rcases told with null | name
    · cases null.symm.trans launch
    · cases name.symm.trans launch
  · exact ⟨iff_of_true launch taken, fun untaken => absurd taken untaken⟩

/-- A server whose program does not exist. -/
def missingServer : Server where
  -- No file of that name is on the host.
  name := "Test"
  socket := "sock"
  program := "/missing"

/-- A program that is missing is told as a failure of the launch. -/
theorem launch_failure_told_of_missing_program :
    ¬missingServer.IsStarted none { fs := .host } ∧ missingServer.Takable { fs := .host } ∧
      ∃ cause, (missingServer.runWith hostPrograms none {} logSink none {} { fs := .host }).outcome
          = some (.failed (.backend (.launchFailed "Test" cause))) ∧
        (missingServer.request { fs := .host }).Fails .host cause := by
  -- The path leads to no entry of the host.
  have failed : (missingServer.request { fs := .host }).start
      (Filesystem.host.withoutSocket none missingServer.socket)
        = .error (.system ⟨.noEntry, "/missing"⟩) := rfl
  have unstarted : ¬missingServer.IsStarted none { fs := .host } := by
    rw [isStarted_iff]
    rintro ⟨-, seen, image, started⟩
    cases failed.symm.trans started
  have takable : missingServer.Takable { fs := .host } := takable_iff.mpr ⟨rfl, rfl⟩
  obtain ⟨told, _⟩ := launch_failure_told_iff unstarted hostPrograms {} logSink none {}
  exact ⟨unstarted, takable, told.mpr takable⟩

/-- A null character in an argument is not told as a failure of the launch. -/
theorem launch_failure_hidden_by_null :
    let server : Server := { echo with arguments := ["a\x00b"] }
    ¬server.IsStarted none { fs := .host } ∧
      (server.runWith hostPrograms none {} logSink none {} { fs := .host }).outcome
        = some (.failed .nullCharacter) := by
  -- The texts are taken as they are, so the null reaches the check of the request.
  intro server
  have unstarted : ¬server.IsStarted none { fs := .host } := fun started =>
    (takable_of_isStarted started).arguments "a\x00b" (by decide) (by decide)
  exact ⟨unstarted, by decide +kernel⟩

end Server

end ModelServing.Run
