import ModelServing.Filesystem.Lookup
import ModelServing.Text.Utf8

/-! Environment variables, and what the system runs when it is asked to execute a file. -/

namespace ModelServing

/-- Environment variables with their values, in the order in which they were first set. -/
abbrev Environment := List (String × String)

namespace Environment

/-- Sets a variable: at its place if it is there, at the end otherwise. -/
def set (name value : String) : Environment → Environment
  | [] => [(name, value)]
  | (other, old) :: rest =>
    if other == name then (other, value) :: rest else (other, old) :: set name value rest

/-- The value of a variable. -/
def get? (environment : Environment) (name : String) : Option String :=
  (environment.find? fun entry => entry.1 == name).map (·.2)

/-- Sets several variables in order. -/
def setAll (more : Environment) (environment : Environment) : Environment :=
  more.foldl (fun environment entry => environment.set entry.1 entry.2) environment

/-- Where programs are looked for if the environment does not say. -/
def usualSearchPath : String := "/bin:/usr/bin"

/-- The directories in which programs are looked for. -/
def searchPath (environment : Environment) : String :=
  (environment.get? "PATH").getD usualSearchPath

end Environment

namespace Run

/-- A program that is about to run: the system program that runs in the end, and its arguments. -/
structure Image where
  program : String
  arguments : List String
  deriving DecidableEq, Repr

/-- How many interpreters may stand behind one another. -/
def interpreterLimit : Nat := 5

/-- How many bytes one argument or variable may have, with the byte that ends it. -/
def argumentLimit : Nat := 131072

/-- How many bytes all arguments and variables may have together. -/
def totalLimit : Nat := 2097152

/-- Whether arguments and variables are too long for the system. -/
def isOversized (arguments : List String) (environment : Environment) : Bool :=
  let sizes := arguments.map (·.utf8ByteSize + 1)
    ++ environment.map fun entry => entry.1.utf8ByteSize + entry.2.utf8ByteSize + 2
  sizes.any (argumentLimit < ·) || totalLimit < (sizes.map (· + 8)).foldr (· + ·) 0

/-- Whether a character separates the words of an interpreter line. -/
def isGap (c : Char) : Bool := c == ' ' || c == '\t'

/-- The interpreter that a file names in its first line, and the argument that it gives. -/
def interpreterLine? (content : Content) : Option (String × Option String) :=
  -- The first line is cut off after as many bytes as the system reads of it.
  match content.bytes with
  | 35 :: 33 :: rest =>
    let line := Text.Utf8.decodeLossy ((rest.take 253).takeWhile (· != 10))
    let line := (line.dropWhile isGap).reverse.dropWhile isGap |>.reverse
    let name := line.takeWhile fun c => !isGap c
    let argument := (line.dropWhile fun c => !isGap c).dropWhile isGap
    if name.isEmpty then none
    else some (String.ofList name,
      if argument.isEmpty then none else some (String.ofList argument))
  | _ => none

/-- Finds out what runs when a file is executed; a file that names an interpreter goes to it. -/
def load (fs : Filesystem) (oversized : Bool) (path : String) (arguments : List String) :
    (depth : Nat) → Except Errno Image
  -- Each step leads from a script to the interpreter that it names, and the depth bounds such
  -- steps.
  | 0 => .error .tooManyLinks
  | depth + 1 => do
    match ← fs.status path with
    | .file file =>
      if !file.executable then throw .accessDenied
      else if oversized then throw .argumentsTooLong
      else
        match file.program, interpreterLine? file.content with
        | some program, _ => return { program, arguments }
        | none, some (interpreter, argument) =>
          load fs false interpreter (argument.toList ++ path :: arguments) depth
        | none, none => throw .execFormat
    | _ => throw .accessDenied

/-- The paths at which a program is looked for. -/
def candidates (environment : Environment) (program : String) : List String :=
  if program.toList.contains '/' then [program]
  else (environment.searchPath.toList.splitOn ':').map fun directory =>
    Path.join (String.ofList directory) program

/-- Whether an error only says that there is nothing at a path. -/
def isAbsence (errno : Errno) : Bool := errno == .noEntry || errno == .notDirectory

/-- Tries paths in order until one can be executed. If none can, the first error that says more
than an absence is told, or else the last one. -/
def loadFirst (fs : Filesystem) (oversized : Bool) (arguments : List String) (worst : Option Errno) :
    List String → Except Errno Image
  -- Errors that only tell of an absence give way to any other one.
  | [] => .error (worst.getD .noEntry)
  | path :: rest =>
    match load fs oversized path arguments interpreterLimit with
    | .ok image => .ok image
    | .error errno =>
      let worst :=
        match worst with
        | some earlier => if isAbsence earlier then errno else earlier
        | none => errno
      loadFirst fs oversized arguments (some worst) rest

end Run

end ModelServing
