/-! Directory trees. -/

namespace ModelServing

/-- The content of a file: its bytes, then a number of zeros. -/
structure Content where
  bytes : List UInt8 := []
  zeros : Nat := 0
  deriving DecidableEq, Repr

namespace Content

/-- How many bytes a content has. -/
def size (content : Content) : Nat := content.bytes.length + content.zeros

/-- All bytes of a content. -/
def all (content : Content) : List UInt8 := content.bytes ++ List.replicate content.zeros 0

/-- A content cut off, or filled up with zeros, to a size. -/
def resize (size : Nat) (content : Content) : Content :=
  let bytes := content.bytes.take size
  ⟨bytes, size - bytes.length⟩

/-- A content with more at its end. -/
def append (content more : Content) : Content :=
  if more.bytes.isEmpty then { content with zeros := content.zeros + more.zeros }
  else ⟨content.all ++ more.bytes, more.zeros⟩

/-- A resized content has the size asked for. -/
@[simp] theorem resize_size (size : Nat) (content : Content) :
    (content.resize size).size = size := by
  -- A content is cut off or filled up, and its size is that of what is kept and of the zeros.
  simp only [resize, Content.size, List.length_take]
  omega

end Content

/-- A file. Entries that are links to one file share its identity. -/
structure File where
  identity : Nat
  content : Content := {}
  executable : Bool := false
  /-- The name of the system program that the file is, if it is one. -/
  program : Option String := none
  deriving DecidableEq, Repr

/-- What a name in a directory stands for. -/
inductive Entry where
  | file (file : File)
  | directory (entries : List (String × Entry))
  | link (target : String)
  /-- A pipe or a device, which holds no bytes of its own. -/
  | pipe
  | socket
  deriving Inhabited, Repr

namespace Entry

/-- Whether an entry is a directory. -/
def isDirectory : Entry → Bool
  | .directory _ => true
  | _ => false

/-- Whether an entry is a socket. -/
def isSocket : Entry → Bool
  | .socket => true
  | _ => false

/-- The entries of a directory, and none for anything else. -/
def entries : Entry → List (String × Entry)
  | .directory entries => entries
  | _ => []

/-- Whether an entry may be executed. -/
def isExecutable : Entry → Bool
  | .file leaf => leaf.executable
  | .directory _ => true
  | .socket => true
  | _ => false

/-- The size of a file, and zero for anything else. -/
def fileSize : Entry → Nat
  | .file leaf => leaf.content.size
  | _ => 0

/-- The entry of a name in a directory. -/
def child? (name : String) (entry : Entry) : Option Entry :=
  (entry.entries.find? fun child => child.1 == name).map (·.2)

/-- The entry that names lead to, links not followed. -/
def at? (entry : Entry) : List String → Option Entry
  | [] => some entry
  | name :: rest => (entry.child? name).bind fun child => child.at? rest

/-- A list of entries with the one of a name put, replaced or removed. -/
def setChild (name : String) (child : Option Entry) :
    List (String × Entry) → List (String × Entry)
  -- The first entry of the name is the one that counts, and a new name comes last.
  | [] =>
    match child with
    | some child => [(name, child)]
    | none => []
  | (other, old) :: rest =>
    if other == name then
      match child with
      | some child => (name, child) :: rest
      | none => rest
    else (other, old) :: setChild name child rest

/-- A tree with the entry at some names put, replaced or removed. Names that lead through no
directory change nothing. -/
def set (child : Option Entry) : (names : List String) → Entry → Entry
  -- The last name is set in its directory, and the directories on the way are put back around it.
  | [], entry => child.getD entry
  | [name], .directory entries => .directory (setChild name child entries)
  | name :: rest, .directory entries =>
    match entries.find? fun child => child.1 == name with
    | some (_, inner) => .directory (setChild name (some (set child rest inner)) entries)
    | none => .directory entries
  | _, entry => entry

mutual

/-- A tree with every entry that is the given file replaced by the file's new state. -/
def putFile (new : File) : Entry → Entry
  | .file old => .file (if old.identity == new.identity then new else old)
  | .directory entries => .directory (putFileIn new entries)
  | entry => entry

/-- The entries of a directory with every one that is the given file replaced. -/
def putFileIn (new : File) : List (String × Entry) → List (String × Entry)
  | [] => []
  | (name, entry) :: rest => (name, putFile new entry) :: putFileIn new rest

end

mutual

/-- The least number above the identities of all files. -/
def freshIdentity : Entry → Nat
  | .file leaf => leaf.identity + 1
  | .directory entries => freshIdentityIn entries
  | _ => 0

/-- The least number above the identities of all files below a directory. -/
def freshIdentityIn : List (String × Entry) → Nat
  | [] => 0
  | (_, entry) :: rest => max (freshIdentity entry) (freshIdentityIn rest)

end

end Entry

end ModelServing
