import ModelServing.Number.Numeral

/-! The literal values that event handlers of console markup may be given. Square brackets end a
tag, so there are no lists. -/

namespace ModelServing.Console.Literal

open ModelServing.Number

/-- What matters about a value: which sums and which containers it may stand in. -/
inductive Kind where
  /-- A number without a sign. -/
  | number (imaginary : Bool)
  /-- A number after a sign. -/
  | signed (imaginary : Bool)
  /-- A piece of text, or of bytes. -/
  | text (bytes : Bool)
  /-- A value that may be a key. -/
  | key
  /-- A value that may not be a key. -/
  | container
  deriving DecidableEq, Repr

/-- Whether a value may be a key. -/
def Kind.isKey (kind : Kind) : Bool := kind != .container

/-- A step that reads a value, with what follows it. -/
abbrev Reading := Option (Kind × List Char)

/-- Characters without the blanks, and between brackets the line ends and comments, in front. -/
def skip (inside : Bool) : (cs : List Char) → List Char
  | [] => []
  | c :: rest =>
    if c == ' ' || c == '\t' || c == '\x0c' || (inside && c == '\n') then skip inside rest
    else c :: rest

/-- Whether a character continues a word or a number. -/
def isWordChar (c : Char) : Bool := c.isAlphanum || c == '_' || 0x7F < c.toNat

/-- The digits of an unsigned number, with the sign of its exponent. -/
def numberText : (cs : List Char) → List Char × List Char
  -- A sign belongs to the number only behind the mark of an exponent.
  | [] => ([], [])
  | c :: sign :: rest =>
    if (c == 'e' || c == 'E') && (sign == '+' || sign == '-') then
      (c :: sign :: rest.takeWhile isWordChar, rest.dropWhile isWordChar)
    else if isWordChar c || c == '.' then
      let (digits, after) := numberText (sign :: rest)
      (c :: digits, after)
    else ([], c :: sign :: rest)
  | [c] => if isWordChar c || c == '.' then ([c], []) else ([], [c])

/-- Whether characters are digits with single underscores between them. -/
def isDigitRun (isDigit : Char → Bool) (cs : List Char) : Bool :=
  (cs.splitOn '_').all fun part => !part.isEmpty && part.all isDigit

/-- Whether characters are the number of an exponent. -/
def isExponent : List Char → Bool
  | '+' :: digits => isDigitRun Char.isDigit digits
  | '-' :: digits => isDigitRun Char.isDigit digits
  | digits => isDigitRun Char.isDigit digits

/-- Whether characters are a number with a point, or digits alone. -/
def isDecimal (cs : List Char) : Bool :=
  -- There may be digits on one side of the point only, but not on neither.
  match cs.splitOn '.' with
  | [whole] => isDigitRun Char.isDigit whole
  | [whole, part] => (whole ++ part != []) &&
      (whole.isEmpty || isDigitRun Char.isDigit whole) &&
      (part.isEmpty || isDigitRun Char.isDigit part)
  | _ => false

/-- Whether characters are a number that may have a point and an exponent. -/
def isFloating (cs : List Char) : Bool :=
  -- The mark of an exponent is looked for first, since the digits before it are a decimal of their
  -- own.
  let isMark (c : Char) : Bool := c == 'e' || c == 'E'
  isDecimal (cs.takeWhile fun c => !isMark c) &&
    match cs.dropWhile fun c => !isMark c with
    | [] => true
    | _ :: exponent => isExponent exponent

/-- Whether characters are a whole number. -/
def isWhole : List Char → Bool
  -- A zero in front stands for a base, or for nothing but more zeros.
  | '0' :: mark :: digits =>
    let digits := if digits.head? == some '_' then digits.drop 1 else digits
    if mark == 'x' || mark == 'X' then
      isDigitRun (fun c => c.isDigit || ('a' ≤ c.toLower && c.toLower ≤ 'f')) digits
    else if mark == 'o' || mark == 'O' then isDigitRun (fun c => '0' ≤ c && c ≤ '7') digits
    else if mark == 'b' || mark == 'B' then isDigitRun (fun c => c == '0' || c == '1') digits
    else (mark :: digits).all fun c => c == '0' || c == '_'
  | cs => isDigitRun Char.isDigit cs

/-- Reads an unsigned number. -/
def number (cs : List Char) : Reading :=
  -- A whole number needs no fraction, and an imaginary one may do without it as well.
  let (digits, rest) := numberText cs
  let isImaginary := digits.getLast? == some 'j' || digits.getLast? == some 'J'
  if isImaginary then
    if isFloating digits.dropLast then some (.number true, rest) else none
  else
    let hasFraction := digits.any fun c => c == '.' || c == 'e' || c == 'E'
    if isWhole digits || (hasFraction && isFloating digits) then some (.number false, rest)
    else none

/-- Whether a text may follow a backslash and the letter before it. -/
def isEscape (bytes : Bool) (c : Char) (rest : List Char) : Bool :=
  -- Names of characters are not looked up, so such an escape is refused.
  let isHex (c : Char) : Bool := c.isDigit || ('a' ≤ c.toLower && c.toLower ≤ 'f')
  let digits (count : Nat) : Bool :=
    (rest.take count).length == count && (rest.take count).all isHex
  if c == 'x' then digits 2
  else if !bytes && c == 'u' then digits 4
  else if !bytes && c == 'U' then digits 8
  else bytes || c != 'N'

/-- What follows the rest of a text between marks. -/
def closing? (raw bytes : Bool) (mark : List Char) : (cs : List Char) → Option (List Char)
  -- A text in single marks ends with its line, and bytes have to be of ASCII.
  | [] => none
  | '\\' :: c :: rest => if raw || isEscape bytes c rest then closing? raw bytes mark rest else none
  | c :: rest =>
    if mark.isPrefixOf (c :: rest) then some ((c :: rest).drop mark.length)
    else if (mark.length == 1 && c == '\n') || (bytes && 0x7F < c.toNat) then none
    else closing? raw bytes mark rest

/-- Reads a text with the letters in front of it. -/
def text (cs : List Char) : Reading :=
  -- The letters in front tell how the text is to be read, and three marks may stand for one.
  let letters := cs.takeWhile Char.isAlpha
  let marked := cs.dropWhile Char.isAlpha
  let word := String.ofList (letters.map Char.toLower)
  let known := ["", "r", "u", "b", "br", "rb"].contains word
  if !known then none
  else
    match marked with
    | [] => none
    | mark :: _ =>
      if mark != '\'' && mark != '"' then none
      else
        let ends := if [mark, mark, mark].isPrefixOf marked then [mark, mark, mark] else [mark]
        (closing? (word.contains 'r') (word.contains 'b') ends (marked.drop ends.length)).map
          fun rest => (.text (word.contains 'b'), rest)

/-- Reads a constant that has a name. -/
def constant (cs : List Char) : Reading :=
  let word := String.ofList (cs.takeWhile isWordChar)
  if ["True", "False", "None"].contains word then some (.key, cs.dropWhile isWordChar)
  else if "...".toList.isPrefixOf cs then some (.key, cs.drop 3)
  else none

/-- The kind of a value in brackets: in round ones it may be a key if all its parts may. -/
def bracketed (mark : Char) (kinds : List Kind) : Kind :=
  if mark == '\x7d' || kinds.any (!·.isKey) then .container else .key

mutual

/-- Reads a value that is no sum. -/
def simple : (fuel : Nat) → (inside : Bool) → List Char → Reading
  -- Brackets and signs are looked at first, then words, and numbers last.
  | 0, _, _ => none
  | fuel + 1, inside, cs =>
    match cs with
    | '(' :: rest => items fuel [] false ')' (skip true rest)
    | '\x7b' :: rest => items fuel [] false '\x7d' (skip true rest)
    | '+' :: rest => sign fuel inside (skip inside rest)
    | '-' :: rest => sign fuel inside (skip inside rest)
    | cs =>
      if "set()".toList.isPrefixOf cs then some (.container, cs.drop 5)
      else
        match constant cs, text cs with
        | some reading, _ => some reading
        | none, some (kind, rest) => texts fuel inside kind (skip inside rest)
        | none, none => number cs

/-- Reads the number after a sign. -/
def sign : (fuel : Nat) → (inside : Bool) → List Char → Reading
  | 0, _, _ => none
  | fuel + 1, inside, cs =>
    match simple fuel inside cs with
    | some (.number imaginary, rest) => some (.signed imaginary, rest)
    | _ => none

/-- Reads the texts that continue a text: all of them are of its kind. -/
def texts : (fuel : Nat) → (inside : Bool) → Kind → List Char → Reading
  -- Texts of both kinds do not go together.
  | 0, _, _, _ => none
  | fuel + 1, inside, kind, cs =>
    match text cs with
    | some (other, rest) =>
      if other == kind then texts fuel inside kind (skip inside rest) else none
    | none => some (kind, cs)

/-- Reads a value: a simple one, or the sum of a real and an imaginary number. -/
def value : (fuel : Nat) → (inside : Bool) → List Char → Reading
  -- The sum of two numbers is one value if the second one is imaginary.
  | 0, _, _ => none
  | fuel + 1, inside, cs =>
    match simple fuel inside cs with
    | none => none
    | some (kind, rest) =>
      match skip inside rest with
      | c :: more =>
        if c != '+' && c != '-' then some (kind, c :: more)
        else if kind != .number false && kind != .signed false then none
        else
          match simple fuel inside (skip inside more) with
          | some (.number true, rest) => some (.key, skip inside rest)
          | _ => none
      | [] => some (kind, [])

/-- Reads the values before a closing bracket after those in front. A dictionary has keys before
colons, a set has keys alone, and one value in round brackets is that value itself. -/
def items : (fuel : Nat) → List Kind → (dictionary : Bool) → Char → List Char → Reading
  -- The first value decides whether the brackets hold a dictionary, and the later ones have to
  -- agree.
  | 0, _, _, _, _ => none
  | fuel + 1, kinds, dictionary, mark, cs =>
    let isSet := mark == '\x7d'
    match cs with
    | [] => none
    | c :: rest =>
      if c == mark then some (bracketed mark kinds, rest)
      else
        match value fuel true cs with
        | none => none
        | some (kind, rest) =>
          if isSet && !kind.isKey then none
          else
            match skip true rest with
            | ':' :: more =>
              if !isSet || (!dictionary && !kinds.isEmpty) then none
              else
                match value fuel true (skip true more) with
                | none => none
                | some (_, rest) => next fuel (kinds ++ [kind]) true mark (skip true rest)
            | rest =>
              if dictionary then none
              else if !isSet && kinds.isEmpty && rest.head? == some ')' then
                some (kind, rest.drop 1)
              else next fuel (kinds ++ [kind]) false mark rest

/-- Reads on after a value in brackets. -/
def next : (fuel : Nat) → List Kind → (dictionary : Bool) → Char → List Char → Reading
  -- A comma may be the last thing before the closing bracket.
  | 0, _, _, _, _ => none
  | fuel + 1, kinds, dictionary, mark, cs =>
    match cs with
    | ',' :: rest => items fuel kinds dictionary mark (skip true rest)
    | c :: rest => if c == mark then some (bracketed mark kinds, rest) else none
    | [] => none

end

/-- Reads the values of a list that needs no brackets. -/
def row : (fuel : Nat) → List Char → Bool
  -- A comma at the end is allowed.
  | 0, _ => false
  | fuel + 1, cs =>
    match value (3 * cs.length + 3) false cs with
    | some (_, []) => true
    | some (_, ',' :: rest) => (skip false rest).isEmpty || row fuel (skip false rest)
    | _ => false

/-- Whether characters write a literal value. -/
def isLiteral (cs : List Char) : Bool := row (cs.length + 1) (skip false cs)

end ModelServing.Console.Literal
