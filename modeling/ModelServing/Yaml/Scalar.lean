import ModelServing.Number.Numeral
import ModelServing.Number.Reading
import ModelServing.Text.Base64
import ModelServing.Yaml.Implicit

/-! The value that a scalar spells under its tag. -/

namespace ModelServing.Yaml

open ModelServing.Number

/-- A spelling without underscores. -/
def dropUnderscores (content : String) : String :=
  String.ofList (content.toList.filter (· != '_'))

/-- The integer that a text spells in a base. -/
def integerIn (base : Nat) (cs : List Char) : Except Fault Int :=
  let s := String.ofList cs
  (Numeral.read base s).mapError fun fault => .misspelt (fault.message base s)

/-- The number that parts of base sixty spell, the most significant first. -/
def sixtyfold {α : Type} (times60 : α → α) (add : α → α → α) (start : α) (parts : List α) : α :=
  parts.foldl (fun total part => add (times60 total) part) start

/-- The integer that a scalar spells: binary, octal, hexadecimal, decimal or in base sixty. -/
def readInt (content : String) : Except Fault Int := do
  -- The sign is taken off first, then the base is told by what the digits begin with.
  let cs := (dropUnderscores content).toList
  let digits := dropSign cs
  let sign : Int := if cs.head? == some '-' then -1 else 1
  match digits with
  | [] => .error .emptyNumber
  | ['0'] => return 0
  | '0' :: 'b' :: rest => return sign * (← integerIn 2 rest)
  | '0' :: 'x' :: rest => return sign * (← integerIn 16 rest)
  | '0' :: _ => return sign * (← integerIn 8 digits)
  | _ =>
    let parts ← (digits.splitOn ':').mapM (integerIn 10)
    return sign * sixtyfold (· * 60) (· + ·) 0 parts

/-- The number that a text spells. -/
def floatPart (cs : List Char) : Except Fault Binary64 :=
  let s := String.ofList cs
  match Binary64.read? s with
  | some x => .ok x
  | none => .error (.misspelt ("could not convert string to float: " ++ Text.quoted s))

/-- The sum of parts in base sixty, the least significant first and each step rounded. It cannot be
told if the base of a part is too large for a floating-point number. -/
def sixtyfoldSum (base : Int) (total : Binary64) : List Binary64 → Except Fault Binary64
  | [] => .ok total
  | part :: rest =>
    let factor := Binary64.ofInt base
    if factor.isFinite then sixtyfoldSum (base * 60) (total.add (part.mul factor)) rest
    else .error .hugeNumber

/-- The floating-point number that a scalar spells. -/
def readFloat (content : String) : Except Fault Binary64 := do
  -- Infinite and undefined numbers have words of their own, and anything else is decimal or of base
  -- sixty.
  let cs := (dropUnderscores content).toList.map Char.toLower
  let digits := dropSign cs
  let signed (x : Binary64) : Binary64 := if cs.head? == some '-' then x.neg else x
  if cs.isEmpty then .error .emptyNumber
  else match digits with
  | ['.', 'i', 'n', 'f'] => return signed (.infinite false)
  | ['.', 'n', 'a', 'n'] => return .undefined
  | _ =>
    match digits.splitOn ':' with
    | [part] => return signed (← floatPart part)
    | parts =>
      let parts ← parts.mapM floatPart
      return signed (← sixtyfoldSum 1 (.zero false) parts.reverse)

/-- The truth value that a scalar spells. -/
def readTruth (content : String) : Except Fault Bool :=
  let word := String.ofList (content.toList.map Char.toLower)
  if ["yes", "true", "on"].contains word then .ok true
  else if ["no", "false", "off"].contains word then .ok false
  else .error .unknownTruth

/-- What is wrong with a text that has to be ASCII: its first run of other characters. -/
def notAscii (cs : List Char) : String :=
  -- The first character or run of characters that is not ASCII is told, with its place.
  let start := (cs.takeWhile fun c => c.toNat < 128).length
  let run := (cs.drop start).takeWhile fun c => 128 ≤ c.toNat
  let place :=
    if run.length == 1 then
      let code := (run.headD ' ').toNat
      let shown :=
        if code < 0x100 then '\\' :: 'x' :: Text.hexDigits 2 code
        else if code < 0x10000 then '\\' :: 'u' :: Text.hexDigits 4 code
        else '\\' :: 'U' :: Text.hexDigits 8 code
      "character '" ++ String.ofList shown ++ "' in position " ++ toString start
    else
      "characters in position " ++ toString start ++ "-" ++ toString (start + run.length - 1)
  "'ascii' codec can't encode " ++ place ++ ": ordinal not in range(128)"

/-- The bytes that a scalar spells. -/
def readBinary (content : String) : Except Fault (List UInt8) :=
  -- The text has to be ASCII before it is decoded at all.
  let cs := content.toList
  if cs.any fun c => 128 ≤ c.toNat then
    .error (.broken none ("failed to convert base64 data into ascii: " ++ notAscii cs))
  else
    (Text.Base64.decode cs).mapError fun fault =>
      .broken none ("failed to decode base64 data: " ++ fault.message)

/-- The date or time that a scalar spells. -/
def readTime (content : String) : Except Fault Value :=
  let cs := content.toList
  match Timestamp.parse? (if cs.getLast? == some '\n' then cs.dropLast else cs) with
  | some stamp => stamp.value
  | none => .error .notTime

/-- The fault of a tag that no value can have. -/
def unknownTag (tag : Tag) : Fault :=
  .broken none ("could not determine a constructor for the tag " ++ Text.quoted tag.name)

/-- The value of a scalar. -/
def readScalar (tag : Tag) (content : String) : Except Fault Value :=
  -- Collections cannot be read from a scalar, and each kind is refused in its own words.
  match tag with
  | .null => .ok .null
  | .truth => (readTruth content).map .bool
  | .int => (readInt content).map .int
  | .float => (readFloat content).map .float
  | .binary => (readBinary content).map .bytes
  | .time => readTime content
  | .text => .ok (.text content)
  | .orderedMap => .error (.broken (some "while constructing an ordered map")
      "expected a sequence, but found scalar")
  | .pairs => .error (.broken (some "while constructing pairs")
      "expected a sequence, but found scalar")
  | .set | .mapping => .error (.broken none "expected a mapping node, but found scalar")
  | .sequence => .error (.broken none "expected a sequence node, but found scalar")
  | tag => .error (unknownTag tag)

end ModelServing.Yaml
