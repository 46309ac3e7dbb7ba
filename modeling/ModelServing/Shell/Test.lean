import ModelServing.Filesystem.Lookup
import ModelServing.Shell.Format

/-! Conditions on files and texts. -/

namespace ModelServing.Shell

/-- Whether a condition on one argument holds. -/
def unaryHolds? (fs : Filesystem) (operator argument : String) : Option Bool :=
  -- Links are followed by all conditions but those that ask for a link.
  let found? := (fs.status argument).toOption
  let isFile : Bool :=
    match found? with
    | some (.file _) => true
    | _ => false
  match operator with
  | "-e" | "-r" | "-w" => some found?.isSome
  | "-f" => some isFile
  | "-d" => some (fs.isDirectory argument)
  | "-s" => some ((found?.map fun entry => entry.isDirectory || entry.fileSize != 0).getD false)
  | "-x" => some ((found?.map fun entry =>
      match entry with
      | .file file => file.executable
      | entry => entry.isDirectory).getD false)
  | "-h" | "-L" => some (match fs.linkStatus argument with
      | .ok (.link _) => true
      | _ => false)
  | "-S" => some ((found?.map Entry.isSocket).getD false)
  | "-n" => some (!argument.isEmpty)
  | "-z" => some argument.isEmpty
  | _ => none

/-- Whether a condition on two arguments holds. -/
def binaryHolds? (left operator right : String) : Option Bool :=
  -- Texts are compared as texts, and the other operators read both as numbers.
  let a := argumentNumber left
  let b := argumentNumber right
  match operator with
  | "=" => some (left == right)
  | "!=" => some (left != right)
  | "-eq" => some (a == b)
  | "-ne" => some (a != b)
  | "-lt" => some (a < b)
  | "-le" => some (a ≤ b)
  | "-gt" => some (b < a)
  | "-ge" => some (b ≤ a)
  | _ => none

/-- Whether a condition without alternatives holds, and the words after it. -/
def primaryHolds (fs : Filesystem) : List String → Option (Bool × List String)
  -- Three words are tried as a condition on two arguments first.
  | [] => some (false, [])
  | "!" :: rest => (primaryHolds fs rest).map fun (holds, rest) => (!holds, rest)
  | first :: rest =>
    match rest with
    | operator :: right :: more =>
      match binaryHolds? first operator right with
      | some holds => some (holds, more)
      | none => (unaryHolds? fs first operator).map fun holds => (holds, right :: more)
    | [argument] => (unaryHolds? fs first argument).map fun holds => (holds, [])
    | [] => some (!first.isEmpty, [])

/-- Whether conditions joined by words for "and" and "or" hold. -/
def conditionHolds (fs : Filesystem) : (fuel : Nat) → List String → Option Bool
  -- Both joints bind alike, and to the right.
  | 0, _ => none
  | fuel + 1, words =>
    match primaryHolds fs words with
    | some (holds, []) => some holds
    | some (holds, "-a" :: rest) => (conditionHolds fs fuel rest).map (holds && ·)
    | some (holds, "-o" :: rest) => (conditionHolds fs fuel rest).map (holds || ·)
    | _ => none

/-- The status of a test: zero if it holds, one if not, two if it cannot be read. -/
def testStatus (fs : Filesystem) (words : List String) : Int :=
  match conditionHolds fs (words.length + 1) words with
  | some true => 0
  | some false => 1
  | none => 2

end ModelServing.Shell
