import ModelServing.Number.Binary64
import ModelServing.Number.Numeral

/-! Binary floating-point numbers read from decimal text. -/

namespace ModelServing.Number

/-- The digits at the head of a text, of any script, and what follows them. -/
def takeDigits : List Char → List Nat × List Char
  -- The digits of every script are read by their values.
  | [] => ([], [])
  | c :: rest =>
    match Text.decimalDigit? c with
    | some digit =>
      let (digits, after) := takeDigits rest
      (digit :: digits, after)
    | none => ([], c :: rest)

/-- The number spelt by digits. -/
def ofDigits (digits : List Nat) : Nat := digits.foldl (fun n d => n * 10 + d) 0

/-- The power of ten at the end of a decimal: nothing, or a mark with a signed whole number. -/
def decimalPower? (cs : List Char) : Option Int :=
  -- A mark without any digit behind it is no power.
  match cs with
  | [] => some 0
  | mark :: rest =>
    if mark != 'e' && mark != 'E' then none
    else
      let (negative, rest) := match rest with
        | '-' :: rest => (true, rest)
        | '+' :: rest => (false, rest)
        | rest => (false, rest)
      match takeDigits rest with
      | ([], _) => none
      | (digits, []) => some (if negative then -(ofDigits digits : Int) else ofDigits digits)
      | _ => none

/-- Reads an unsigned number: an infinity, the undefined number, or a decimal with digits before
or after its point. -/
def readMagnitude? (negative : Bool) (cs : List Char) : Option Binary64 :=
  -- Words are tried first, and then digits on both sides of a point.
  let word := String.ofList (cs.map Char.toLower)
  if word == "inf" || word == "infinity" then some (.infinite negative)
  else if word == "nan" then some .undefined
  else
    let (whole, rest) := takeDigits cs
    let (fraction, rest) := match rest with
      | '.' :: rest => takeDigits rest
      | rest => ([], rest)
    if whole.isEmpty && fraction.isEmpty then none
    else
      (decimalPower? rest).map fun power =>
        Binary64.ofDecimal negative (ofDigits (whole ++ fraction)) (power - fraction.length)

/-- Reads a number with an optional sign and blanks around it. -/
def Binary64.read? (s : String) : Option Binary64 :=
  match Text.trimBy Text.isBlank s.toList with
  | '-' :: rest => readMagnitude? true rest
  | '+' :: rest => readMagnitude? false rest
  | rest => readMagnitude? false rest

end ModelServing.Number
