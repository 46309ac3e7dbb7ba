import ModelServing.Text.Printable

/-! Quoted display of a text: every character stays recognisable between two quotation marks. -/

namespace ModelServing.Text

/-- The digit character of a number below sixteen, in lower case. -/
def hexDigit (n : Nat) : Char := if n < 10 then Char.ofNat (48 + n) else Char.ofNat (87 + n)

/-- The last `width` hexadecimal digits of a number, most significant first. -/
def hexDigits : (width : Nat) → Nat → List Char
  | 0, _ => []
  | width + 1, n => hexDigits width (n / 16) ++ [hexDigit (n % 16)]

/-- The mark around a text: the single one, unless the text holds it and holds no double one. -/
def quoteMark (cs : List Char) : Char :=
  if cs.contains '\'' && !cs.contains '"' then '"' else '\''

/-- How one character is written between quotation marks, by which characters can be printed. -/
def escapeBy (printable : Char → Bool) (mark c : Char) : List Char :=
  -- The shortest spelling that can hold the code is taken.
  if c == mark || c == '\\' then ['\\', c]
  else if c == '\n' then ['\\', 'n']
  else if c == '\r' then ['\\', 'r']
  else if c == '\t' then ['\\', 't']
  else if printable c then [c]
  else if c.toNat < 0x100 then '\\' :: 'x' :: hexDigits 2 c.toNat
  else if c.toNat < 0x10000 then '\\' :: 'u' :: hexDigits 4 c.toNat
  else '\\' :: 'U' :: hexDigits 8 c.toNat

/-- How one character of a text is written between quotation marks. -/
def escapeChar (mark c : Char) : List Char := escapeBy isPrintable mark c

/-- The characters of a quoted text. -/
def quotedChars (cs : List Char) : List Char :=
  let mark := quoteMark cs
  mark :: cs.flatMap (escapeChar mark) ++ [mark]

/-- A text in quotation marks, with line ends and unprintable characters escaped. -/
def quoted (s : String) : String := String.ofList (quotedChars s.toList)

/-- Bytes in quotation marks: those that are ASCII characters are written as such. -/
def quotedBytes (bytes : List UInt8) : String :=
  let cs := bytes.map fun byte => Char.ofNat byte.toNat
  let mark := quoteMark cs
  let isAscii (c : Char) : Bool := 0x20 ≤ c.toNat && c.toNat < 0x7f
  String.ofList (mark :: cs.flatMap (escapeBy isAscii mark) ++ [mark])

end ModelServing.Text
