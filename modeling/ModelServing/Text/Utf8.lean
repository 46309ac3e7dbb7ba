/-! UTF-8 bytes to text, strictly or with one replacement for each maximal ill-formed part. -/

namespace ModelServing.Text.Utf8

/-- Why bytes are not UTF-8. -/
inductive Fault where
  /-- The byte begins no character. -/
  | invalidStart
  /-- A byte that had to continue a character does not. -/
  | invalidContinuation
  /-- The bytes end inside a character. -/
  | unexpectedEnd
  deriving DecidableEq, Repr

/-- What stands at the head of a byte sequence: a character, or an ill-formed part. -/
inductive Reading where
  | char (c : Char)
  | ill (fault : Fault)
  deriving DecidableEq, Repr

/-- The character a reading stands for when ill-formed parts are replaced. -/
def Reading.toChar : Reading → Char
  | .char c => c
  | .ill _ => '\ufffd'

/-- The permitted range of the second byte of a character, by its first byte. -/
def secondRange (lead : Nat) : Nat × Nat :=
  -- The bounds exclude overlong spellings, surrogates and what is beyond the last character.
  if lead == 0xE0 then (0xA0, 0xBF)
  else if lead == 0xED then (0x80, 0x9F)
  else if lead == 0xF0 then (0x90, 0xBF)
  else if lead == 0xF4 then (0x80, 0x8F)
  else (0x80, 0xBF)

/-- Collects `more` continuation bytes onto `value`; also tells how many bytes were taken. -/
def continuation (more : Nat) (range : Nat × Nat) (value taken : Nat) :
    List UInt8 → Reading × Nat
  -- Only the second byte has a range of its own, so the usual one applies from then on.
  | rest =>
    match more with
    | 0 => (.char (Char.ofNat value), taken)
    | more + 1 =>
      match rest with
      | [] => (.ill .unexpectedEnd, taken)
      | byte :: rest =>
        if range.1 ≤ byte.toNat && byte.toNat ≤ range.2 then
          continuation more (0x80, 0xBF) (value * 64 + byte.toNat % 64) (taken + 1) rest
        else (.ill .invalidContinuation, taken)

/-- Reads the head of a non-empty sequence, with the number of bytes taken after the first. -/
def read (first : UInt8) (rest : List UInt8) : Reading × Nat :=
  -- The first byte tells how many more there are, or that none begins here.
  let lead := first.toNat
  if lead < 0x80 then (.char (Char.ofNat lead), 0)
  else if lead < 0xC2 then (.ill .invalidStart, 0)
  else if lead < 0xE0 then continuation 1 (secondRange lead) (lead % 32) 0 rest
  else if lead < 0xF0 then continuation 2 (secondRange lead) (lead % 16) 0 rest
  else if lead < 0xF5 then continuation 3 (secondRange lead) (lead % 8) 0 rest
  else (.ill .invalidStart, 0)

/-- The readings of a whole byte sequence, each with its number of bytes. -/
def readings : List UInt8 → List (Reading × Nat)
  -- An ill-formed sequence takes the bytes that belong to it, and the next reading begins behind
  -- them.
  | [] => []
  | first :: rest =>
    let head := read first rest
    (head.1, head.2 + 1) :: readings (rest.drop head.2)
  termination_by bytes => bytes.length
  decreasing_by simp only [List.length_drop, List.length_cons]; omega

/-- Text from bytes, each maximal ill-formed part shown as the replacement character. -/
def decodeLossy (bytes : List UInt8) : List Char :=
  (readings bytes).map fun reading => reading.1.toChar

/-- An ill-formed part: where it starts, its length in bytes, its first byte and what is wrong. -/
structure IllFormed where
  position : Nat
  length : Nat
  byte : UInt8
  fault : Fault
  deriving DecidableEq, Repr

/-- Scans readings for the first ill-formed part, keeping the characters before it. -/
def collect (position : Nat) : List UInt8 → List (Reading × Nat) → Except IllFormed (List Char)
  | _, [] => .ok []
  | bytes, (.char c, size) :: more =>
    (collect (position + size) (bytes.drop size) more).map (c :: ·)
  | bytes, (.ill fault, size) :: _ =>
    .error { position, length := size, byte := bytes.headD 0, fault }

/-- Text from bytes that must be UTF-8. -/
def decode (bytes : List UInt8) : Except IllFormed (List Char) :=
  collect 0 bytes (readings bytes)

/-- The wording of a fault. -/
def Fault.message : Fault → String
  | .invalidStart => "invalid start byte"
  | .invalidContinuation => "invalid continuation byte"
  | .unexpectedEnd => "unexpected end of data"

/-- A byte as two lower-case hexadecimal digits. -/
def hexByte (byte : UInt8) : String :=
  let digit (n : Nat) : Char := if n < 10 then Char.ofNat (48 + n) else Char.ofNat (87 + n)
  String.ofList [digit (byte.toNat / 16), digit (byte.toNat % 16)]

/-- The wording of a decoding failure: which bytes, and what is wrong with them. A part cut off by
the end of the input is counted from its own first byte. -/
def IllFormed.message (ill : IllFormed) : String :=
  -- One byte is shown by its value, and several by their places.
  let start := if ill.fault == .unexpectedEnd then 0 else ill.position
  let place :=
    if ill.length == 1 then "byte 0x" ++ hexByte ill.byte ++ " in position " ++ toString start
    else "bytes in position " ++ toString start ++ "-" ++ toString (start + ill.length - 1)
  "'utf-8' codec can't decode " ++ place ++ ": " ++ ill.fault.message

end ModelServing.Text.Utf8
