/-! The texts that the commands for output write. -/

namespace ModelServing.Shell

/-- The bytes of a text. -/
def bytesOf (s : String) : List UInt8 := s.toUTF8.toList

/-- A byte by its character, for plain characters. -/
def byteOf (c : Char) : UInt8 := UInt8.ofNat c.toNat

/-- Whether a byte is an octal digit. -/
def isOctal (b : UInt8) : Bool := byteOf '0' ≤ b && b ≤ byteOf '7'

/-- Up to a number of octal digits at the start of a text, as a number, and what follows. -/
def takeOctal : (most value : Nat) → List UInt8 → Nat × List UInt8
  -- The number ends with the first byte that is no octal digit.
  | 0, value, rest => (value, rest)
  | most + 1, value, rest =>
    match rest with
    | b :: more =>
      if isOctal b then takeOctal most (value * 8 + (b.toNat - 48)) more else (value, rest)
    | [] => (value, [])

/-- The character that a letter after a backslash stands for. -/
def escapeLetter? (b : UInt8) : Option UInt8 :=
  ([('\\', 92), ('a', 7), ('b', 8), ('f', 12), ('n', 10), ('r', 13), ('t', 9), ('v', 11)].find?
    fun entry => byteOf entry.1 == b).map (·.2)

/-- What an escape stands for, given what follows its backslash. A backslash before anything else
stands for itself. -/
def escape (rest : List UInt8) : UInt8 × List UInt8 :=
  -- Digits are tried before letters.
  match rest with
  | [] => (byteOf '\\', [])
  | b :: more =>
    if isOctal b then
      let (value, rest) := takeOctal 3 0 rest
      (UInt8.ofNat value, rest)
    else
      match escapeLetter? b with
      | some byte => (byte, more)
      | none => (byteOf '\\', rest)

/-- Taking octal digits leaves no more than there was. -/
theorem takeOctal_length (most value : Nat) (rest : List UInt8) :
    (takeOctal most value rest).2.length ≤ rest.length := by
  -- Each step drops one byte or stops.
  induction most generalizing value rest with
  | zero => simp [takeOctal]
  | succ most ih =>
    unfold takeOctal
    split
    · split
      · exact Nat.le_succ_of_le (ih ..)
      · simp
    · simp

/-- An escape leaves no more than what follows its backslash. -/
theorem escape_length (rest : List UInt8) : (escape rest).2.length ≤ rest.length := by
  -- Every branch takes something or leaves the rest as it is.
  unfold escape
  split
  · simp
  · split
    · exact takeOctal_length ..
    · split <;> simp

/-- What follows a backslash, without a zero that only marks the octal digits after it. -/
def dropOctalMark : List UInt8 → List UInt8
  | zero :: next :: more =>
    if zero == byteOf '0' && isOctal next then next :: more else zero :: next :: more
  | rest => rest

/-- Dropping the mark leaves no more than there was. -/
theorem dropOctalMark_length (rest : List UInt8) : (dropOctalMark rest).length ≤ rest.length := by
  -- There is one mark to drop at most.
  unfold dropOctalMark
  split
  · split <;> simp
  · simp

/-- A text with its escapes replaced, and whether it goes on to the end: one escape cuts it off. -/
def unescape : List UInt8 → List UInt8 × Bool
  -- The mark that comes before octal digits is dropped, so that they are read as an escape.
  | [] => ([], true)
  | b :: rest =>
    if b != byteOf '\\' then
      let (more, whole) := unescape rest
      (b :: more, whole)
    else if rest.head? == some (byteOf 'c') then ([], false)
    else
      let (more, whole) := unescape (escape (dropOctalMark rest)).2
      ((escape (dropOctalMark rest)).1 :: more, whole)
  termination_by bytes => bytes.length
  decreasing_by
    · simp
    · have escaped := escape_length (dropOctalMark rest)
      have marked := dropOctalMark_length rest
      simp only [List.length_cons]
      omega

/-- What the command for plain output writes. -/
def echoed (arguments : List String) : List UInt8 :=
  -- A text that is cut off gets no line feed either.
  let (plain, words) :=
    match arguments with
    | "-n" :: words => (true, words)
    | words => (false, words)
  let (text, whole) := unescape (bytesOf (" ".intercalate words))
  if plain || !whole then text else text ++ [10]

/-- How a conversion is laid out. -/
structure Layout where
  left : Bool := false
  zeros : Bool := false
  plus : Bool := false
  space : Bool := false
  width : Nat := 0
  precision : Option Nat := none

namespace Layout

/-- A text padded to the width. -/
def padded (layout : Layout) (text : List UInt8) : List UInt8 :=
  let gap := List.replicate (layout.width - text.length) (byteOf ' ')
  if layout.left then text ++ gap else gap ++ text

/-- A number with its sign, padded to the width. -/
def number (layout : Layout) (negative : Bool) (digits : List UInt8) : List UInt8 :=
  -- Zeros are put between the sign and the digits, and blanks in front of both.
  let sign :=
    if negative then [byteOf '-']
    else if layout.plus then [byteOf '+']
    else if layout.space then [byteOf ' ']
    else []
  let digits :=
    match layout.precision with
    | some least => List.replicate (least - digits.length) (byteOf '0') ++ digits
    | none => digits
  if layout.zeros && !layout.left && layout.precision.isNone then
    sign ++ List.replicate (layout.width - sign.length - digits.length) (byteOf '0') ++ digits
  else layout.padded (sign ++ digits)

/-- Reads the flags of a conversion. -/
def flags (layout : Layout) : List Char → Layout × List Char
  -- Flags may be repeated, and come in any order.
  | '-' :: rest => flags { layout with left := true } rest
  | '0' :: rest => flags { layout with zeros := true } rest
  | '+' :: rest => flags { layout with plus := true } rest
  | ' ' :: rest => flags { layout with space := true } rest
  | '#' :: rest => flags layout rest
  | rest => (layout, rest)

/-- Reads a layout. -/
def read (cs : List Char) : Layout × List Char :=
  -- The width comes before the point, and the precision behind it.
  let (layout, rest) := flags {} cs
  let number (cs : List Char) : Nat := cs.foldl (fun n c => n * 10 + (c.toNat - 48)) 0
  let layout := { layout with width := number (rest.takeWhile Char.isDigit) }
  match rest.dropWhile Char.isDigit with
  | '.' :: rest =>
    ({ layout with precision := some (number (rest.takeWhile Char.isDigit)) },
      rest.dropWhile Char.isDigit)
  | rest => (layout, rest)

end Layout

/-- The number that an argument spells: decimal, octal after a zero, hexadecimal after `0x`, or the
code of the character after a quotation mark. -/
def argumentNumber (argument : String) : Int :=
  -- A sign may come before every spelling but that of a character.
  let (negative, digits) :=
    match argument.toList with
    | '-' :: rest => (true, rest)
    | '+' :: rest => (false, rest)
    | rest => (false, rest)
  let inBase (base : Nat) (cs : List Char) : Nat :=
    cs.foldl (fun n c =>
      n * base + (if c.isDigit then c.toNat - 48 else c.toLower.toNat - 87)) 0
  let size :=
    match digits with
    | '\'' :: c :: _ => c.toNat
    | '"' :: c :: _ => c.toNat
    | '0' :: 'x' :: rest =>
      inBase 16 (rest.takeWhile fun c => "0123456789abcdefABCDEF".toList.contains c)
    | '0' :: rest => inBase 8 (rest.takeWhile fun c => '0' ≤ c && c ≤ '7')
    | rest => inBase 10 (rest.takeWhile Char.isDigit)
  if negative then -size else size

/-- How many numbers an unsigned conversion tells apart. -/
def wordCount : Int := 18446744073709551616

/-- The digits of a number in a base. -/
def digitsOf (base n : Nat) : List UInt8 := (Nat.toDigits base n).map byteOf

/-- A conversion of one argument. -/
def convert (layout : Layout) (kind : Char) (argument : String) : List UInt8 × Bool :=
  let cut (text : List UInt8) : List UInt8 :=
    match layout.precision with
    | some most => text.take most
    | none => text
  let n := argumentNumber argument
  let unsigned (base : Nat) : List UInt8 := digitsOf base (n % wordCount).toNat
  match kind with
  | 's' => (layout.padded (cut (bytesOf argument)), true)
  | 'b' =>
    let (text, whole) := unescape (bytesOf argument)
    (layout.padded (cut text), whole)
  | 'c' => (layout.padded ((bytesOf argument).take 1), true)
  | 'd' | 'i' => (layout.number (n < 0) (digitsOf 10 n.natAbs), true)
  | 'u' => (layout.number false (unsigned 10), true)
  | 'o' => (layout.number false (unsigned 8), true)
  | 'x' => (layout.number false (unsigned 16), true)
  | _ => (layout.number false ((unsigned 16).map fun b => if b < 97 then b else b - 32), true)

/-- One pass over a format: what is written, the arguments left, and whether to go on. -/
def formatOnce : (fuel : Nat) → List Char → List String → List UInt8 × List String × Bool
  -- The fuel is the length of the format, of which every step takes something.
  | 0, _, arguments => ([], arguments, false)
  | _ + 1, [], arguments => ([], arguments, true)
  | fuel + 1, '\\' :: rest, arguments =>
    let (byte, more) := escape (rest.take 3 |>.map fun c => if c.toNat < 128 then byteOf c else 255)
    let taken := min 3 rest.length - more.length
    let (text, arguments, goOn) := formatOnce fuel (rest.drop taken) arguments
    (byte :: text, arguments, goOn)
  | fuel + 1, '%' :: '%' :: rest, arguments =>
    let (text, arguments, goOn) := formatOnce fuel rest arguments
    (byteOf '%' :: text, arguments, goOn)
  | fuel + 1, '%' :: rest, arguments =>
    let (layout, rest) := Layout.read rest
    match rest with
    | kind :: rest =>
      let (written, whole) := convert layout kind (arguments.headD "")
      if whole then
        let (text, arguments, goOn) := formatOnce fuel rest arguments.tail
        (written ++ text, arguments, goOn)
      else (written, [], false)
    | [] => ([], [], false)
  | fuel + 1, c :: rest, arguments =>
    let (text, arguments, goOn) := formatOnce fuel rest arguments
    (bytesOf (String.ofList [c]) ++ text, arguments, goOn)

/-- Passes over a format until the arguments are used up. -/
def formatAll (format : List Char) : (fuel : Nat) → List String → List UInt8
  -- A pass that uses no argument would go on for ever, so it is the last.
  | 0, _ => []
  | fuel + 1, arguments =>
    let (text, left, goOn) := formatOnce (format.length + 1) format arguments
    if goOn && !left.isEmpty && left.length < arguments.length then
      text ++ formatAll format fuel left
    else text

/-- What the command for formatted output writes. -/
def formatted (arguments : List String) : List UInt8 :=
  match arguments with
  | [] => []
  | format :: arguments => formatAll format.toList (arguments.length + 1) arguments

end ModelServing.Shell
