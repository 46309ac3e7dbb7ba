
/-! Binary floating-point numbers with 53 significant bits, as exact values. -/

namespace ModelServing.Number

/-- A number of the binary64 format. A finite value is `mantissa * 2 ^ exponent`; the mantissa has
53 bits, or fewer at the least exponent, so that equal values are equal terms. -/
inductive Binary64 where
  | finite (negative : Bool) (mantissa : Nat) (exponent : Int)
  | infinite (negative : Bool)
  | undefined
  deriving DecidableEq, Repr

namespace Binary64

/-- The number of bits of a full mantissa. -/
def significantBits : Nat := 53

/-- The least exponent of a finite value. -/
def leastExponent : Int := -1074

/-- The greatest exponent of a finite value. -/
def greatestExponent : Int := 971

/-- The zero of either sign. -/
def zero (negative : Bool) : Binary64 := .finite negative 0 leastExponent

/-- A quotient rounded to the nearest natural number, an exact half to the even one. -/
def roundDiv (num den : Nat) : Nat :=
  let quotient := num / den
  let twice := 2 * (num % den)
  if twice < den || (twice == den && quotient % 2 == 0) then quotient else quotient + 1

/-- The quotient `num / den` divided by `2 ^ exponent` and rounded to a natural number. -/
def scaled (num den : Nat) (exponent : Int) : Nat :=
  roundDiv (num * Nat.pow 2 (-exponent).toNat) (den * Nat.pow 2 exponent.toNat)

/-- The exponent at which `num / den` has 53 bits before the point, or the least exponent. -/
def exponentOf (num den : Nat) : Int :=
  let low : Int := (num.log2 : Int) - (den.log2 : Int) - 53
  let fits :=
    (num * Nat.pow 2 (-low).toNat) / (den * Nat.pow 2 low.toNat) < Nat.pow 2 significantBits
  max leastExponent (if fits then low else low + 1)

/-- The number nearest to a quotient, an exact half going to the even mantissa. -/
def ofRatio (negative : Bool) (num den : Nat) : Binary64 :=
  -- Rounding may carry into one more digit, and then the exponent is adjusted.
  if num == 0 || den == 0 then zero negative
  else
    let exponent := exponentOf num den
    let mantissa := scaled num den exponent
    let (mantissa, exponent) :=
      if mantissa == Nat.pow 2 significantBits then
        (Nat.pow 2 (significantBits - 1), exponent + 1)
      else (mantissa, exponent)
    if greatestExponent < exponent then .infinite negative
    else if mantissa == 0 then zero negative
    else .finite negative mantissa exponent

/-- The number nearest to `digits * 10 ^ power`. -/
def ofDecimal (negative : Bool) (digits : Nat) (power : Int) : Binary64 :=
  -- Numbers that are far out of range are told apart before the powers get large.
  let size : Int := digits.log2 / 3 + 1 + power
  if digits == 0 then zero negative
  else if 800 < (digits.log2 : Int) / 4 + power then .infinite negative
  else if size < -800 then zero negative
  else ofRatio negative (digits * Nat.pow 10 power.toNat) (Nat.pow 10 (-power).toNat)

/-- The number nearest to an integer. -/
def ofInt (n : Int) : Binary64 := ofRatio (n < 0) n.natAbs 1

/-- A finite value as a signed numerator over a positive denominator. -/
def ratio? : Binary64 → Option (Int × Nat)
  | .finite negative mantissa exponent =>
    let num : Int := (mantissa * Nat.pow 2 exponent.toNat : Nat)
    some (if negative then -num else num, Nat.pow 2 (-exponent).toNat)
  | _ => none

/-- Whether a number is finite. -/
def isFinite : Binary64 → Bool
  | .finite .. => true
  | _ => false

/-- Whether a number is a zero of either sign. -/
def isZero : Binary64 → Bool
  | .finite _ 0 _ => true
  | _ => false

/-- The integer a number equals, if it equals one. -/
def toInt? (x : Binary64) : Option Int :=
  match x.ratio? with
  | some (num, den) => if num % den == 0 then some (num / den) else none
  | none => none

/-- The number nearest to a signed quotient; a zero takes the given sign. -/
def ofSigned (zeroNegative : Bool) (num : Int) (den : Nat) : Binary64 :=
  if num == 0 then zero zeroNegative else ofRatio (num < 0) num.natAbs den

/-- Whether the sign of a number is negative. -/
def isNegative : Binary64 → Bool
  | .finite negative .. => negative
  | .infinite negative => negative
  | .undefined => false

/-- The number of the opposite sign. -/
def neg : Binary64 → Binary64
  | .finite negative mantissa exponent => .finite (!negative) mantissa exponent
  | .infinite negative => .infinite (!negative)
  | .undefined => .undefined

/-- The rounded sum. -/
def add (x y : Binary64) : Binary64 :=
  -- Infinite and undefined numbers come first, so that the rest is exact arithmetic, rounded once.
  match x, y with
  | .undefined, _ => .undefined
  | _, .undefined => .undefined
  | .infinite s, .infinite t => if s == t then .infinite s else .undefined
  | .infinite s, _ => .infinite s
  | _, .infinite t => .infinite t
  | x, y =>
    match x.ratio?, y.ratio? with
    | some (a, b), some (c, d) =>
      ofSigned (x.isNegative && y.isNegative) (a * d + c * b) (b * d)
    | _, _ => .undefined

/-- The rounded product. -/
def mul (x y : Binary64) : Binary64 :=
  -- Infinite and undefined numbers come first, so that the rest is exact arithmetic, rounded once.
  let negative := x.isNegative != y.isNegative
  match x, y with
  | .undefined, _ => .undefined
  | _, .undefined => .undefined
  | .infinite _, y => if y.isZero then .undefined else .infinite negative
  | x, .infinite _ => if x.isZero then .undefined else .infinite negative
  | x, y =>
    match x.ratio?, y.ratio? with
    | some (a, b), some (c, d) => ofSigned negative (a * c) (b * d)
    | _, _ => .undefined

/-- Whether two numbers have the same value: zeros agree whatever their sign, and the undefined
number equals nothing. -/
def sameValue (x y : Binary64) : Bool :=
  match x, y with
  | .undefined, _ => false
  | _, .undefined => false
  | x, y => x == y || (x.isZero && y.isZero)

end Binary64

end ModelServing.Number
