import ModelServing.Filesystem.Lookup

/-! Changes to a file system. -/

namespace ModelServing.Filesystem

/-- A file system with the entry at some names put, replaced or removed. -/
def setAt (fs : Filesystem) (names : List String) (entry : Option Entry) : Filesystem :=
  { fs with root := fs.root.set entry names }

/-- Creates an entry at a free name. -/
def create (fs : Filesystem) (path : String) (entry : Entry) : Except Errno Filesystem := do
  match ← fs.place false path with
  | .free names => return fs.setAt names (some entry)
  | .taken .. => throw .fileExists

/-- Creates the directories that lead to a name, those that are there already passed over. -/
def createNames (fs : Filesystem) (reached : List String) : (ahead : List String) → Filesystem
  -- Each name is asked for with those before it, since a directory has to be there for the next
  -- one.
  | [] => fs
  | name :: rest =>
    let reached := reached ++ [name]
    match fs.root.at? reached with
    | some _ => createNames fs reached rest
    | none => createNames (fs.setAt reached (some (.directory []))) reached rest

/-- Creates a directory and all those that lead to it. -/
def createDirectories (fs : Filesystem) (path : String) : Except Errno Filesystem := do
  -- The path is walked through from its start, one part more each time.
  let mut fs := fs
  for length in List.range (Path.pieces path).length do
    let start := Path.glue ((Path.pieces path).take (length + 1))
    unless start.isEmpty || fs.isDirectory start do
      fs ← fs.create start (.directory [])
  return fs

/-- Writes a file, at its end or in place of what it held, and creates it where there is none. -/
def write (fs : Filesystem) (path : String) (content : Content) (append : Bool) :
    Except Errno Filesystem := do
  -- Where the path leads decides: to a name that is free, to a file, or to something that is no
  -- file.
  match ← fs.place true path with
  | .free names =>
    return fs.setAt names (some (.file { identity := fs.root.freshIdentity, content }))
  | .taken _ (.file file) =>
    let content := if append then file.content.append content else content
    return { fs with root := fs.root.putFile { file with content } }
  | .taken _ (.directory _) => throw .isDirectory
  | .taken _ .socket => throw .noDevice
  | .taken .. => return fs

/-- Cuts off a file, or fills it up with zeros, to a size. -/
def resize (fs : Filesystem) (path : String) (size : Nat) : Except Errno Filesystem := do
  -- Anything but a file is left as it is.
  match ← fs.place true path with
  | .taken _ (.file file) =>
    return { fs with root := fs.root.putFile { file with content := file.content.resize size } }
  | _ => return fs

/-- Tells whether a file may be executed. -/
def setExecutable (fs : Filesystem) (path : String) (executable : Bool) :
    Except Errno Filesystem := do
  match ← fs.place true path with
  | .taken _ (.file file) => return { fs with root := fs.root.putFile { file with executable } }
  | _ => return fs

/-- Gives a file a further name. -/
def linkFile (fs : Filesystem) (path target : String) : Except Errno Filesystem := do
  match ← fs.linkStatus target with
  | .directory _ => throw .accessDenied
  | entry => fs.create path entry

/-- Removes an entry with all that is below it; a path that leads to none changes nothing. -/
def removeAll (fs : Filesystem) (path : String) : Filesystem :=
  match fs.place false path with
  | .ok (.taken names _) => fs.setAt names none
  | _ => fs

/-- Creates a chain of directories of one name, each in the one before it. -/
def createChain (fs : Filesystem) (path name : String) (count : Nat) : Except Errno Filesystem := do
  -- The chain is built from its inner end, and put in place once.
  let inner := Nat.repeat (fun entry => Entry.directory [(name, entry)]) count (.directory [])
  match ← fs.place true path with
  | .taken names (.directory entries) =>
    match inner.child? name with
    | some first =>
      return fs.setAt names (some (.directory (Entry.setChild name (some first) entries)))
    | none => return fs
  | _ => throw .notDirectory

end ModelServing.Filesystem
