import ModelServing.Text.Blank
import ModelServing.Text.Quoted

/-! The decimal digits of all scripts, and integers read from text. -/

namespace ModelServing

namespace Text

/-- The zero of each script's ten consecutive decimal digits. -/
def digitZeros : List Nat :=
  [48, 1632, 1776, 1984, 2406, 2534, 2662, 2790, 2918, 3046, 3174, 3302, 3430, 3558, 3664, 3792,
    3872, 4160, 4240, 6112, 6160, 6470, 6608, 6784, 6800, 6992, 7088, 7232, 7248, 42528, 43216,
    43264, 43472, 43504, 43600, 44016, 65296, 66720, 68912, 69734, 69872, 69942, 70096, 70384,
    70736, 70864, 71248, 71360, 71472, 71904, 72016, 72784, 73040, 73120, 73552, 92768, 92864,
    93008, 120782, 120792, 120802, 120812, 120822, 123200, 123632, 124144, 125264, 130032]

/-- The value of a decimal digit of any script. -/
def decimalDigit? (c : Char) : Option Nat :=
  digitZeros.findSome? fun first =>
    if first ≤ c.toNat && c.toNat < first + 10 then some (c.toNat - first) else none

/-- The value of a digit in a base up to 36, its letters in either case. -/
def digitInBase? (base : Nat) (c : Char) : Option Nat :=
  -- Letters count from ten on, so a digit may be out of reach for the base.
  let value? :=
    if 'a' ≤ c && c ≤ 'z' then some (c.toNat - 87)
    else if 'A' ≤ c && c ≤ 'Z' then some (c.toNat - 55)
    else decimalDigit? c
  value?.filter (· < base)

end Text

namespace Number.Numeral

/-- Why a text is not read as an integer. -/
inductive Fault where
  /-- The text does not spell an integer. -/
  | malformed
  /-- The text spells an integer of too many digits. -/
  | tooLong
  deriving DecidableEq, Repr

/-- The most digits that a decimal text may have. -/
def digitLimit : Nat := 4300

/-- The value of decimal digits after an already read number. -/
def digitsValueFrom (value : Nat) : List Char → Nat
  | [] => value
  | c :: rest => digitsValueFrom (value * 10 + (c.toNat - 48)) rest

/-- The value of decimal digits, most significant first. -/
def digitsValue (cs : List Char) : Nat := digitsValueFrom 0 cs

/-- Whether characters are one or more ASCII digits. -/
def isDigits (cs : List Char) : Bool := !cs.isEmpty && cs.all Char.isDigit

/-- Digits without their leading zeros and the single underscores between those; one zero stays
when nothing else would be left before the end or the point. -/
def dropLeadingZeros : List Char → List Char
  | '0' :: '_' :: c :: rest =>
    if c.isDigit then dropLeadingZeros (c :: rest) else '0' :: '_' :: c :: rest
  | '0' :: c :: rest => if c.isDigit then dropLeadingZeros (c :: rest) else '0' :: c :: rest
  | cs => cs

/-- A text without a point followed by one or more zeros at its end. -/
def dropPointZeros (cs : List Char) : List Char :=
  let fraction := (cs.dropWhile (· != '.')).drop 1
  if !fraction.isEmpty && fraction.all (· == '0') then cs.takeWhile (· != '.') else cs

/-- Digits without the single underscores between them; a text with an underscore elsewhere is
left as it is. -/
def dropUnderscores (cs : List Char) : List Char :=
  let doubled := (cs.zip (cs.drop 1)).any fun pair => pair.1 == '_' && pair.2 == '_'
  if cs.head? == some '_' || cs.getLast? == some '_' || doubled then cs
  else cs.filter (· != '_')

/-- Digits that start with a zero only when they are a single zero, read as a number. -/
def readCanonical (cs : List Char) : Except Fault Nat :=
  if !isDigits cs || (cs.length > 1 && cs.head? == some '0') then .error .malformed
  else if digitLimit < cs.length then .error .tooLong
  else .ok (digitsValue cs)

/-- Reads an integer field: blanks around it, a sign, leading zeros of an unsigned number, single
underscores between digits and a fraction of zeros are allowed. -/
def readField (s : String) : Except Fault Int :=
  match Text.trimBy Text.isWhite s.toList with
  | '-' :: rest => (readCanonical (dropUnderscores (dropPointZeros rest))).map fun n => -(n : Int)
  | '+' :: rest => unsigned rest
  | rest => unsigned rest
where
  /-- Reads an integer field after its optional plus sign. -/
  unsigned (cs : List Char) : Except Fault Int :=
    (readCanonical (dropUnderscores (dropPointZeros (dropLeadingZeros cs)))).map fun n => (n : Int)

/-- The digits of a number in a base, with single underscores between them. -/
def readDigits (base : Nat) : (value count : Nat) → List Char → Except Fault (Nat × Nat)
  -- An underscore has to stand between two digits.
  | value, count, [] => if count == 0 then .error .malformed else .ok (value, count)
  | value, count, '_' :: c :: rest =>
    match Text.digitInBase? base c with
    | some digit =>
      if count == 0 then .error .malformed else readDigits base (value * base + digit) (count + 1) rest
    | none => .error .malformed
  | value, count, c :: rest =>
    match Text.digitInBase? base c with
    | some digit => readDigits base (value * base + digit) (count + 1) rest
    | none => .error .malformed

/-- Digits without the prefix that names their base, and without one underscore after it. -/
def dropBasePrefix (base : Nat) : List Char → List Char
  -- The underscore behind the prefix is the only one that follows no digit.
  | '0' :: mark :: rest =>
    let letter := mark.toLower
    if (base == 2 && letter == 'b') || (base == 8 && letter == 'o') || (base == 16 && letter == 'x') then
      match rest with
      | '_' :: rest => rest
      | rest => rest
    else '0' :: mark :: rest
  | cs => cs

/-- Reads an integer in a base: blanks around it, a sign, the prefix of the base, digits of any
script and single underscores between them are allowed. Where the base is no power of two, the
number of digits is limited. -/
def read (base : Nat) (s : String) : Except Fault Int := do
  -- The blanks are dropped first, then the sign is taken, and then the prefix.
  let cs := Text.trimBy Text.isBlank s.toList
  let (negative, digits) := match cs with
    | '-' :: rest => (true, rest)
    | '+' :: rest => (false, rest)
    | rest => (false, rest)
  let (value, count) ← readDigits base 0 0 (dropBasePrefix base digits)
  if base == 10 && digitLimit < count then .error .tooLong
  else .ok (if negative then -(value : Int) else value)

/-- The wording of a failed reading in a base. -/
def Fault.message (fault : Fault) (base : Nat) (s : String) : String :=
  -- Only decimal digits count for the limit.
  match fault with
  | .malformed =>
    "invalid literal for int() with base " ++ toString base ++ ": " ++ Text.quoted s
  | .tooLong =>
    let count := (s.toList.filter fun c => (Text.decimalDigit? c).isSome).length
    "Exceeds the limit (" ++ toString digitLimit ++ " digits) for integer string conversion: value has "
      ++ toString count ++ " digits; use sys.set_int_max_str_digits() to increase the limit"

end Number.Numeral

end ModelServing
