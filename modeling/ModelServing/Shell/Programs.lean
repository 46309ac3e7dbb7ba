import ModelServing.Shell.State
import ModelServing.Text.Lines
import ModelServing.Text.Utf8

/-! What the programs of a plain host make of their arguments and their input. -/

namespace ModelServing.Shell

/-- The milliseconds that a number of seconds spells. An infinite number is longer than anything
that is followed. -/
def milliseconds (seconds : String) : Nat :=
  -- Three digits behind the point are read, with zeros for those that are missing.
  let cs := seconds.toList
  if cs.take 3 == ['i', 'n', 'f'] then horizon + 1 else
  let whole := (String.toNat? (String.ofList (cs.takeWhile Char.isDigit))).getD 0
  let fraction := ((cs.dropWhile Char.isDigit).drop 1).takeWhile Char.isDigit
  let thousandths := (fraction ++ ['0', '0', '0']).take 3
  whole * 1000 + (String.toNat? (String.ofList thousandths)).getD 0

/-- What the program for plain output writes: escapes stay unless they are asked for. -/
def plainEchoed (arguments : List String) : List UInt8 :=
  match arguments with
  | "-n" :: words => bytesOf (" ".intercalate words)
  | "-e" :: words => echoed words
  | words => bytesOf (" ".intercalate words ++ "\n")

/-- What the program that counts writes for one input, each of several numbers with a width. -/
def counted (options : List String) (width : Nat) (bytes : List UInt8) : String :=
  -- Words are what stands between blanks, and lines are counted by their ends.
  let lines := (bytes.filter (· == 10)).length
  let isGap (c : Char) : Bool := c == ' ' || c == '\n' || c == '\t'
  let parts := (Text.Utf8.decodeLossy bytes).splitOnP isGap
  let words := (parts.filter fun word => !word.isEmpty).length
  let aligned (n : Nat) : String :=
    String.ofList (List.replicate (width - (toString n).length) ' ') ++ toString n
  match options with
  | ["-l"] => toString lines
  | ["-w"] => toString words
  | ["-c"] => toString bytes.length
  | _ => aligned lines ++ " " ++ aligned words ++ " " ++ aligned bytes.length

/-- What a part of an input is counted in. -/
inductive Portion where
  | lines
  | bytes
  deriving DecidableEq, Repr

/-- The first lines or bytes of an input. -/
def Portion.first (kind : Portion) (count : Nat) (input : List UInt8) : List UInt8 :=
  -- A last line without its end counts as a line, and gets none.
  match kind with
  | .bytes => input.take count
  | .lines =>
    let (whole, tail) := Text.splitEnds (· == 10) input
    (whole.take count).flatMap (· ++ [10]) ++ (if whole.length < count then tail else [])

/-- How much of an input the arguments ask for: ten lines if they do not say. -/
def headPart : List String → Portion × Nat
  -- The number may be a word of its own or belong to the option.
  | "-c" :: count :: _ => (.bytes, count.toNat?.getD 0)
  | "-n" :: count :: _ => (.lines, count.toNat?.getD 0)
  | first :: rest =>
    match first.toList with
    | '-' :: 'c' :: count => (.bytes, (String.ofList count).toNat?.getD 0)
    | '-' :: 'n' :: count => (.lines, (String.ofList count).toNat?.getD 0)
    | '-' :: count => (.lines, (String.ofList count).toNat?.getD 10)
    | _ => headPart rest
  | [] => (.lines, 10)

/-- The numbers from one on to another in steps. -/
def arithmeticRow (first step last : Int) : List Int :=
  if step == 0 then []
  else
    let count := if 0 < step then (last - first) / step + 1 else (first - last) / -step + 1
    (List.range count.toNat).map fun (index : Nat) => first + step * (index : Int)

end ModelServing.Shell
