/-! Bytes written in base 64. -/

namespace ModelServing.Text.Base64

/-- Why a text does not spell bytes. -/
inductive Fault where
  /-- The text ends inside a group of characters. -/
  | padding
  /-- The text ends after the first character of a group; how many characters came before. -/
  | lonely (count : Nat)
  deriving DecidableEq, Repr

/-- The wording of a fault. -/
def Fault.message : Fault → String
  | .padding => "Incorrect padding"
  | .lonely count =>
    "Invalid base64-encoded string: number of data characters (" ++ toString count
      ++ ") cannot be 1 more than a multiple of 4"

/-- The value of a character. -/
def sextet? (c : Char) : Option Nat :=
  if 'A' ≤ c && c ≤ 'Z' then some (c.toNat - 65)
  else if 'a' ≤ c && c ≤ 'z' then some (c.toNat - 71)
  else if c.isDigit then some (c.toNat + 4)
  else if c == '+' then some 62
  else if c == '/' then some 63
  else none

/-- The bytes of the sextets read so far, in groups of four; the last group may be short. -/
def bytesOf : List Nat → List UInt8
  -- Four sextets are three bytes, and a group without all of them gives fewer.
  | a :: b :: c :: d :: rest =>
    UInt8.ofNat (a * 4 + b / 16) :: UInt8.ofNat (b % 16 * 16 + c / 4)
      :: UInt8.ofNat (c % 4 * 64 + d)
      :: bytesOf rest
  | [a, b, c] => [UInt8.ofNat (a * 4 + b / 16), UInt8.ofNat (b % 16 * 16 + c / 4)]
  | [a, b] => [UInt8.ofNat (a * 4 + b / 16)]
  | _ => []

/-- The sextets up to the padding that completes a group, and whether there was such padding.
Characters outside the alphabet are passed over. -/
def sextets (count pads : Nat) : List Char → List Nat × Bool
  -- Padding counts only where a group has begun, and anything outside the alphabet is ignored.
  | [] => ([], false)
  | c :: rest =>
    if c == '=' then
      let pads := if 2 ≤ count % 4 then pads + 1 else pads
      if 2 ≤ count % 4 && 4 ≤ count % 4 + pads then ([], true) else sextets count pads rest
    else
      match sextet? c with
      | some value =>
        let (more, padded) := sextets (count + 1) 0 rest
        (value :: more, padded)
      | none => sextets count pads rest

/-- Reads bytes. -/
def decode (cs : List Char) : Except Fault (List UInt8) :=
  let (values, padded) := sextets 0 0 cs
  if padded || values.length % 4 == 0 then .ok (bytesOf values)
  else if values.length % 4 == 1 then .error (.lonely values.length)
  else .error .padding

end ModelServing.Text.Base64
