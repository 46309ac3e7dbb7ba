import ModelServing.Filesystem.Errno
import ModelServing.Filesystem.Path
import ModelServing.Filesystem.Tree

/-! What a path leads to in a file system. -/

namespace ModelServing

/-- A file system as a process sees it: the whole tree, and the names that lead from its root to
the current directory. -/
structure Filesystem where
  root : Entry
  current : List String := []
  deriving Inhabited, Repr

namespace Filesystem

/-- Where a path leads: to an entry, or to a free name in a directory. Both are told by the names
that lead there from the root without passing a link. -/
inductive Place where
  | taken (names : List String) (entry : Entry)
  | free (names : List String)
  deriving Inhabited, Repr

/-- How many links one path may pass. -/
def linkLimit : Nat := 40

/-- How many bytes a path may have. -/
def pathLimit : Nat := 4095

/-- How many bytes a name may have. -/
def nameLimit : Nat := 255

/-- The names that a path spells, from the root if it is absolute. A slash at the end stands for the
directory itself. -/
def spelled (path : String) : List String :=
  let names := (Path.pieces path).filter (· != "")
  if Path.endsInSlash path then names ++ ["."] else names

/-- Walks along names from a directory. A link that has to be passed is handed over, with the
directory to go on from and the names that lie ahead then. The link at the end has to be passed only
where `follow` holds. -/
def advance (root : Entry) (follow : Bool)
    (pass : (reached ahead : List String) → Except Errno Place) (reached : List String) :
    (ahead : List String) → Except Errno Place
  -- The directory itself is asked for before each name, so a walk cannot go on from a file.
  | [] =>
    match root.at? reached with
    | some entry => .ok (.taken reached entry)
    | none => .error .noEntry
  | name :: rest =>
    match root.at? reached with
    | some (.directory _) =>
      if name == "." then advance root follow pass reached rest
      else if name == ".." then advance root follow pass reached.dropLast rest
      else if nameLimit < name.utf8ByteSize then .error .nameTooLong
      else
        match root.at? (reached ++ [name]) with
        | none => if rest.isEmpty then .ok (.free (reached ++ [name])) else .error .noEntry
        | some (.link target) =>
          if rest.isEmpty && !follow then .ok (.taken (reached ++ [name]) (.link target))
          else pass (if Path.isAbsolute target then [] else reached) (spelled target ++ rest)
        | some _ => advance root follow pass (reached ++ [name]) rest
    | some _ => .error .notDirectory
    | none => .error .noEntry

/-- Walks along names from a directory, through a number of links at most. -/
def walk (root : Entry) (follow : Bool) :
    (links : Nat) → (reached ahead : List String) → Except Errno Place
  | 0 => advance root follow fun _ _ => .error .tooManyLinks
  | links + 1 => advance root follow (walk root follow links)

/-- Where a path leads. -/
def place (fs : Filesystem) (follow : Bool) (path : String) : Except Errno Place :=
  -- An empty path leads nowhere, not even to where one is.
  if path.isEmpty then .error .noEntry
  else if pathLimit < path.utf8ByteSize then .error .nameTooLong
  else
    walk fs.root follow linkLimit (if Path.isAbsolute path then [] else fs.current) (spelled path)

/-- The entry that a path leads to, with the names that lead there. -/
def find (fs : Filesystem) (follow : Bool) (path : String) :
    Except Errno (List String × Entry) := do
  match ← fs.place follow path with
  | .taken names entry => return (names, entry)
  | .free _ => throw .noEntry

/-- The entry that a path leads to, every link passed. -/
def status (fs : Filesystem) (path : String) : Except Errno Entry :=
  (fs.find true path).map (·.2)

/-- The entry that a path leads to, the last link not passed. -/
def linkStatus (fs : Filesystem) (path : String) : Except Errno Entry :=
  (fs.find false path).map (·.2)

/-- A path cannot hold a null character. -/
def hasNull (path : String) : Bool := path.toList.contains '\x00'

/-- A path has no null character in it if it is not found to have one. -/
theorem hasNull_eq_false_iff {path : String} : hasNull path = false ↔ '\x00' ∉ path.toList := by
  -- Both sides ask whether the character is among those of the path.
  rw [Bool.eq_false_iff, hasNull, Ne, List.contains_iff_mem]

/-- Whether a path leads to an entry, every link passed. -/
def contains (fs : Filesystem) (path : String) : Bool :=
  !hasNull path && (fs.status path).isOk

/-- Whether a path leads to an entry, the last link not passed. -/
def containsEntry (fs : Filesystem) (path : String) : Bool :=
  !hasNull path && (fs.linkStatus path).isOk

/-- Whether a path leads to a directory. -/
def isDirectory (fs : Filesystem) (path : String) : Bool :=
  -- A path with a null character leads to nothing.
  !hasNull path &&
    match fs.status path with
    | .ok entry => entry.isDirectory
    | .error _ => false

/-- The content of the file that a path leads to. -/
def read (fs : Filesystem) (path : String) : Except Errno Content := do
  -- The status follows links, so one that is left over leads in circles.
  match ← fs.status path with
  | .file file => return file.content
  | .directory _ => throw .isDirectory
  | .link _ => throw .tooManyLinks
  | .pipe => return {}
  | .socket => throw .noDevice

/-- The current directory as a path. -/
def currentPath (fs : Filesystem) : String := "/" ++ Path.glue fs.current

/-- The file system with another current directory. -/
def enter (fs : Filesystem) (path : String) : Except Errno Filesystem := do
  let (names, entry) ← fs.find true path
  if entry.isDirectory then return { fs with current := names } else throw .notDirectory

end Filesystem

end ModelServing
