import ModelServing.Error.Failure
import ModelServing.Filesystem.Lookup

/-! The size of all files below a directory. -/

namespace ModelServing.Filesystem

/-- Fails if a path is longer than the system takes. -/
def checkLength (path : String) : Except SystemError Unit :=
  if pathLimit < path.utf8ByteSize then .error ⟨.nameTooLong, path⟩ else .ok ()

/-- The size of the files that lie directly in a directory. -/
def filesSize (path : String) (entries : List (String × Entry)) : Except SystemError Nat := do
  -- Entries that are no directories are asked for their size one by one, so the first path that is
  -- too long ends it.
  let sizes ← (entries.filter fun child => !child.2.isDirectory).mapM fun (name, entry) => do
    checkLength (Path.join path name)
    return entry.fileSize
  return sizes.foldr (· + ·) 0

mutual

/-- The size of all files below a directory at a path. Links are neither followed nor counted. -/
def treeSize (path : String) : Entry → Except SystemError Nat
  | .directory entries => do
    checkLength path
    return (← filesSize path entries) + (← subtreesSize path entries)
  | _ => .ok 0

/-- The size of all files below the directories in a directory. -/
def subtreesSize (path : String) : List (String × Entry) → Except SystemError Nat
  | [] => .ok 0
  | (name, entry) :: rest => do
    return (← treeSize (Path.join path name) entry) + (← subtreesSize path rest)

end

/-- The size of all files below the directory that a path leads to. -/
def size (fs : Filesystem) (path : String) : Except SystemError Nat :=
  -- Only a directory has a tree below it, and links to it are followed.
  match fs.status path with
  | .error errno => .error ⟨errno, path⟩
  | .ok (.directory entries) => treeSize path (.directory entries)
  | .ok _ => .error ⟨.notDirectory, path⟩

/-- The size of all files below a directory, whose path may be any text. -/
def measure (fs : Filesystem) (path : String) : Except Failure Nat :=
  if hasNull path then .error .nullCharacter else (fs.size path).mapError .system

end ModelServing.Filesystem
