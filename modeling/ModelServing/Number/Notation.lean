import ModelServing.Number.Binary64

/-! Decimal text of binary floating-point numbers: the fewest digits that read back. -/

namespace ModelServing.Number

/-- A decimal, `digits * 10 ^ power`. -/
structure Decimal where
  digits : Nat
  power : Int
  deriving DecidableEq, Repr

namespace Decimal

/-- A decimal with the trailing zeros of its digits moved into the power. -/
def trim : (fuel : Nat) → Decimal → Decimal
  | 0, d => d
  | fuel + 1, d =>
    if d.digits != 0 && d.digits % 10 == 0 then trim fuel ⟨d.digits / 10, d.power + 1⟩ else d

/-- The digits of the shortest exponent text: at least two. -/
def exponentText (n : Nat) : String :=
  if n < 10 then "0" ++ toString n else toString n

/-- How a decimal is laid out: positionally where its leading digit stands between the fourth place
after the point and the sixteenth before it, and with a signed exponent elsewhere. -/
def layout (d : Decimal) : String :=
  -- The point is where the digits end, moved by the power.
  let digits := (toString d.digits).toList
  let point : Int := digits.length + d.power
  if -4 < point && point ≤ 16 then
    if point ≤ 0 then "0." ++ String.ofList (List.replicate (-point).toNat '0' ++ digits)
    else if d.power ≥ 0 then
      String.ofList (digits ++ List.replicate d.power.toNat '0') ++ ".0"
    else
      String.ofList (digits.take point.toNat) ++ "." ++ String.ofList (digits.drop point.toNat)
  else
    let exponent := point - 1
    let tail := digits.drop 1
    let mantissa :=
      String.ofList (digits.take 1) ++ (if tail.isEmpty then "" else "." ++ String.ofList tail)
    mantissa ++ "e" ++ (if exponent < 0 then "-" else "+") ++ exponentText exponent.natAbs

end Decimal

namespace Binary64

/-- The least `k` with `num / den < 10 ^ k`. -/
def decimalScale (num den : Nat) : Int :=
  -- The number of digits tells it where the value is at least one.
  if den ≤ num then ((toString (num / den)).length : Int)
  else
    match (List.range 400).find? fun j => den ≤ num * Nat.pow 10 (j + 1) with
    | some j => -(j : Int)
    | none => -400

/-- The decimal among `candidate` and its successor on one grid that reads back to the value, the
nearer one if both do, and the even one when they are equally near. -/
def onGrid? (num den : Nat) (power : Int) : Option Decimal :=
  -- Both neighbours on the grid are read back, since only a decimal that reads as the value
  -- identifies it.
  let scaledNum := num * Nat.pow 10 (-power).toNat
  let scaledDen := den * Nat.pow 10 power.toNat
  let low := scaledNum / scaledDen
  let target := ofRatio false num den
  let reads (digits : Nat) : Bool := ofDecimal false digits power == target
  let twice := 2 * (scaledNum % scaledDen)
  let lowNearer := twice < scaledDen || (twice == scaledDen && low % 2 == 0)
  if reads low && (lowNearer || !reads (low + 1)) then some ⟨low, power⟩
  else if reads (low + 1) then some ⟨low + 1, power⟩
  else none

/-- The decimal with the fewest digits that reads back to a positive value. -/
def shortest (num den : Nat) : Decimal :=
  let scale := decimalScale num den
  match (List.range 17).findSome? fun (n : Nat) => onGrid? num den (scale - (n + 1)) with
  | some d => d.trim 20
  | none => ⟨num / den, 0⟩

/-- The text of a number: the fewest digits that identify it. -/
def text : Binary64 → String
  -- The sign is written in front, and the digits are searched for the size alone.
  | .undefined => "nan"
  | .infinite negative => if negative then "-inf" else "inf"
  | .finite negative mantissa exponent =>
    let sign := if negative then "-" else ""
    if mantissa == 0 then sign ++ "0.0"
    else
      let num := mantissa * Nat.pow 2 exponent.toNat
      sign ++ (shortest num (Nat.pow 2 (-exponent).toNat)).layout

end Binary64

end ModelServing.Number
