/-! Paths as text: how they are joined, cut and simplified without looking at any file. -/

namespace ModelServing.Path

/-- The parts of a path between slashes, empty ones included. -/
def pieces (path : String) : List String :=
  (path.toList.splitOn '/').map String.ofList

/-- Parts with slashes between them. -/
def glue (parts : List String) : String := "/".intercalate parts

/-- Whether a path starts at the root. -/
def isAbsolute (path : String) : Bool := path.toList.head? == some '/'

/-- Whether a path ends in a slash. -/
def endsInSlash (path : String) : Bool := path.toList.getLast? == some '/'

/-- A path seen from a directory. -/
def join (directory path : String) : String :=
  if isAbsolute path then path
  else if directory.isEmpty || endsInSlash directory then directory ++ path
  else directory ++ "/" ++ path

/-- What stands before the last slash, without the slashes at its end unless it has nothing else. -/
def directory (path : String) : String :=
  let head := (path.toList.reverse.dropWhile (· != '/')).reverse
  if head.all (· == '/') then String.ofList head
  else String.ofList (head.reverse.dropWhile (· == '/')).reverse

/-- What stands after the last slash. -/
def lastName (path : String) : String :=
  String.ofList (path.toList.reverse.takeWhile (· != '/')).reverse

/-- How many slashes a simplified path starts with: exactly two are kept as they are. -/
def rootSlashes (path : String) : String :=
  -- Three slashes and more count as one.
  match path.toList with
  | '/' :: '/' :: '/' :: _ => "/"
  | '/' :: '/' :: _ => "//"
  | '/' :: _ => "/"
  | _ => ""

/-- Adds a part to the simplified parts before it, which are kept in reverse. -/
def pushPart (rooted : Bool) (kept : List String) (part : String) : List String :=
  -- A double dot takes away a part, unless that is a double dot itself, or there is none.
  if part == "" || part == "." then kept
  else if part != ".." then part :: kept
  else
    match kept with
    | [] => if rooted then [] else [".."]
    | ".." :: _ => ".." :: kept
    | _ :: rest => rest

/-- A path without empty parts, without single dots, and with each double dot taken together with
the part before it. -/
def normalize (path : String) : String :=
  -- The parts are pushed from the left, and the root is put back in front of what they leave.
  let root := rootSlashes path
  let parts := ((pieces path).foldl (pushPart (!root.isEmpty)) []).reverse
  let text := root ++ glue parts
  if text.isEmpty then "." else text

/-- The names on a path: its parts that are neither empty nor a single dot. -/
def names (path : String) : List String :=
  (pieces path).filter fun part => part != "" && part != "."

/-- A path with some names that starts where another one starts. -/
def rooted (path : String) (names : List String) : String :=
  let text := rootSlashes path ++ glue names
  if text.isEmpty then "." else text

/-- A path without empty parts and single dots; double dots stay. -/
def plain (path : String) : String := rooted path (names path)

/-- The path of a directory's parent, where double dots count as names. -/
def parent (path : String) : String := rooted path (names path).dropLast

/-- A path below a directory, without empty parts and single dots. -/
def below (directory path : String) : String :=
  if isAbsolute path then plain path else rooted directory (names directory ++ names path)

end ModelServing.Path
