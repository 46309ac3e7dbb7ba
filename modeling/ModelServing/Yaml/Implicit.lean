import ModelServing.Yaml.Tag
import ModelServing.Yaml.Timestamp

/-! The tag that a plain scalar has by its spelling. -/

namespace ModelServing.Yaml

/-- A text without its sign, when it has one. -/
def dropSign (cs : List Char) : List Char :=
  match cs with
  | '-' :: rest => rest
  | '+' :: rest => rest
  | rest => rest

/-- One or more digits and underscores of a base, from which at least the test must hold. -/
def allOf (test : Char → Bool) (cs : List Char) : Bool :=
  !cs.isEmpty && cs.all fun c => c == '_' || test c

/-- A digit, then digits and underscores. -/
def isDecimal (cs : List Char) : Bool :=
  match cs with
  | [] => false
  | c :: rest => c.isDigit && rest.all fun c => c == '_' || c.isDigit

/-- A part after a colon of a number in base sixty: one digit, or two up to 59. -/
def isSixtieth (cs : List Char) : Bool :=
  match cs with
  | [d] => d.isDigit
  | [t, d] => '0' ≤ t && t ≤ '5' && d.isDigit
  | _ => false

/-- Whether a text is spelt as an integer. -/
def spellsInt (cs : List Char) : Bool :=
  -- The base is told by what follows a zero, and numbers of base sixty by their colons.
  match dropSign cs with
  | ['0'] => true
  | '0' :: 'b' :: rest => allOf (fun c => c == '0' || c == '1') rest
  | '0' :: 'x' :: rest =>
    allOf (fun c => c.isDigit || ('a' ≤ c && c ≤ 'f') || ('A' ≤ c && c ≤ 'F')) rest
  | '0' :: rest => allOf (fun c => '0' ≤ c && c ≤ '7') rest
  | rest =>
    match rest.splitOn ':' with
    | [whole] => isDecimal whole
    | whole :: sixtieths => isDecimal whole && sixtieths.all isSixtieth
    | [] => false

/-- Whether a text is empty or a power of ten with its sign. -/
def spellsPower (cs : List Char) : Bool :=
  -- The power needs a sign and at least one digit.
  match cs with
  | [] => true
  | mark :: sign :: digits =>
    (mark == 'e' || mark == 'E') && (sign == '-' || sign == '+') && !digits.isEmpty
      && digits.all Char.isDigit
  | _ => false

/-- Whether a text is a fraction's digits and an optional power of ten. -/
def spellsFraction (cs : List Char) : Bool :=
  spellsPower (cs.dropWhile fun c => c == '_' || c.isDigit)

/-- Whether a text is spelt as a number with a point. -/
def spellsFloat (cs : List Char) : Bool :=
  -- A text without digits before the point is a word or a fraction.
  let body := dropSign cs
  let whole := body.takeWhile (· != '.')
  match body.dropWhile (· != '.') with
  | [] => false
  | _ :: fraction =>
    if whole.isEmpty then
      let word := String.ofList fraction
      ["inf", "Inf", "INF"].contains word
        || (body == cs && (["nan", "NaN", "NAN"].contains word
          || ((fraction.head?.map Char.isDigit).getD false && spellsFraction fraction)))
    else
      match whole.splitOn ':' with
      | [whole] => isDecimal whole && spellsFraction fraction
      | whole :: sixtieths =>
        isDecimal whole && sixtieths.all isSixtieth && fraction.all fun c => c == '_' || c.isDigit
      | [] => false

/-- The spellings of the truth values. -/
def truthWords : List String :=
  ["yes", "Yes", "YES", "no", "No", "NO", "true", "True", "TRUE", "false", "False", "FALSE",
    "on", "On", "ON", "off", "Off", "OFF"]

/-- The tag of a plain scalar. One line feed at the end of the text is passed over. -/
def implicitTag (content : String) : Tag :=
  -- The spellings are tried in the order in which they are known.
  let cs := content.toList
  let line := if 1 < cs.length && cs.getLast? == some '\n' then cs.dropLast else cs
  let word := String.ofList line
  if truthWords.contains word then .truth
  else if spellsFloat line then .float
  else if spellsInt line then .int
  else if word == "<<" then .merge
  else if ["", "~", "null", "Null", "NULL"].contains word then .null
  else if ((Timestamp.parse? line).map Timestamp.isCanonical).getD false then .time
  else if word == "=" then .default
  else .text

end ModelServing.Yaml
