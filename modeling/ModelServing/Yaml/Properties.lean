import ModelServing.Yaml.BlockScalar
import ModelServing.Yaml.QuotedScalar
import ModelServing.Yaml.Token
import ModelServing.Text.Utf8

/-! Anchors, tags and directives. -/

namespace ModelServing.Yaml

/-- A character of a name: an ASCII letter or digit, a hyphen or an underscore. -/
def isNameChar (c : Char) : Bool := c.isAlphanum || c == '-' || c == '_'

/-- A character of a tag's address. -/
def isAddressChar (c : Char) : Bool :=
  c.isAlphanum || "-;/?:@&=+$,_.!~*'()[]%".toList.contains c

/-- The text of an unexpected character in a message. -/
def found (c : Char) : String := "but found " ++ Text.quoted (String.singleton c)

/-- The name after an anchor's or an alias's sign. -/
def anchorName (kind : String) (cursor : Cursor) : Except Fault (String × Cursor) :=
  -- The name ends at a blank or at one of a few signs.
  let (name, last) := cursor.step.takeWhile isNameChar
  let follows := last.peek
  if name.isEmpty || !(isBlankOrEnd follows || "?:,]\x7d%@`".toList.contains follows) then
    .error (.broken (some ("while scanning an " ++ kind))
      ("expected alphabetic or numeric character, " ++ found follows))
  else .ok (String.ofList name, last)

/-- The bytes of consecutive percent escapes. -/
def percentBytes (reading : String) : (fuel : Nat) → Cursor → Except Fault (List UInt8 × Cursor)
  -- The bytes of one character may be spread over several escapes, so they are collected first.
  | 0, cursor => .ok ([], cursor)
  | fuel + 1, cursor =>
    if cursor.peek == '%' then
      match hexValue? (cursor.peek 1), hexValue? (cursor.peek 2) with
      | some high, some low => do
        let (more, last) ← percentBytes reading fuel (cursor.skip 3)
        .ok (UInt8.ofNat (high * 16 + low) :: more, last)
      | _, _ =>
        .error (.broken (some reading) "expected URI escape sequence of 2 hexadecimal numbers")
    else .ok ([], cursor)

/-- The pieces of a tag's address, with its percent escapes decoded. -/
def addressPieces (reading : String) : (fuel : Nat) → Cursor → Except Fault (List Char × Cursor)
  -- Escapes are decoded run by run.
  | 0, cursor => .ok ([], cursor)
  | fuel + 1, cursor => do
    let (run, cursor) := cursor.takeWhile fun c => isAddressChar c && c != '%'
    if cursor.peek == '%' then
      let (bytes, cursor) ← percentBytes reading (cursor.rest.length + 1) cursor
      match Text.Utf8.decode bytes with
      | .error ill => .error (.broken (some reading) ill.message)
      | .ok cs =>
        let (more, last) ← addressPieces reading fuel cursor
        .ok (run ++ cs ++ more, last)
    else .ok (run, cursor)

/-- A tag's address. -/
def address (kind : String) (cursor : Cursor) : Except Fault (String × Cursor) := do
  -- The address must not be empty.
  let (cs, last) ←
    addressPieces ("while scanning a " ++ kind) (cursor.rest.length + 1) cursor
  if last.index == cursor.index then
    .error (.broken (some ("while parsing a " ++ kind)) ("expected URI, " ++ found last.peek))
  else .ok (String.ofList cs, last)

/-- A tag's handle: an exclamation mark, or a name between two of them. -/
def tagHandle (kind : String) (cursor : Cursor) : Except Fault (String × Cursor) :=
  -- A single mark is a handle of its own, before a blank.
  let fail (c : Char) : Except Fault (String × Cursor) :=
    .error (.broken (some ("while scanning a " ++ kind)) ("expected '!', " ++ found c))
  if cursor.peek != '!' then fail cursor.peek
  else
    let (name, last) := cursor.step.takeWhile isNameChar
    if name.isEmpty && last.peek == ' ' then .ok ("!", last)
    else if last.peek == '!' then .ok (String.ofList ('!' :: name ++ ['!']), last.step)
    else fail last.peek

/-- A tag: its handle, if it has one, and the rest of it. -/
def tagToken (cursor : Cursor) : Except Fault (Token × Cursor) := do
  -- Whether there is a handle is decided by the exclamation marks that lie ahead.
  let next := cursor.peek 1
  let (handle, suffix, cursor) ← (do
    if next == '<' then
      let (suffix, cursor) ← address "tag" (cursor.skip 2)
      if cursor.peek == '>' then pure (none, suffix, cursor.step)
      else .error (.broken (some "while parsing a tag") ("expected '>', " ++ found cursor.peek))
    else if isBlankOrEnd next then pure (none, "!", cursor.step)
    else
      let ahead := cursor.step.rest.takeWhile fun c => !isSpaceOrEnd c
      if ahead.contains '!' then
        let (handle, cursor) ← tagHandle "tag" cursor
        let (suffix, cursor) ← address "tag" cursor
        pure (some handle, suffix, cursor)
      else
        let (suffix, cursor) ← address "tag" cursor.step
        pure (some "!", suffix, cursor) : Except Fault (Option String × String × Cursor))
  if isSpaceOrEnd cursor.peek then .ok (.tag handle suffix, cursor)
  else .error (.broken (some "while scanning a tag") ("expected ' ', " ++ found cursor.peek))

/-- What is being read while a directive is. -/
def readingDirective : String := "while scanning a directive"

/-- A decimal number of a version. -/
def versionNumber (cursor : Cursor) : Except Fault (Nat × Cursor) :=
  let (digits, last) := cursor.takeWhile Char.isDigit
  if digits.isEmpty then
    .error (.broken (some readingDirective) ("expected a digit, " ++ found cursor.peek))
  else .ok (digits.foldl (fun n d => n * 10 + (d.toNat - 48)) 0, last)

/-- A directive's own part of its line. -/
def directiveContent (name : String) (cursor : Cursor) : Except Fault (Directive × Cursor) := do
  -- Two directives are known, and any other one is passed over.
  let fail {α : Type} (wrong : String) : Except Fault α := .error (.broken (some readingDirective) wrong)
  if name == "YAML" then
    let (major, cursor) ← versionNumber (cursor.skipWhile (· == ' '))
    if cursor.peek != '.' then fail ("expected a digit or '.', " ++ found cursor.peek)
    let (minor, cursor) ← versionNumber cursor.step
    if !isSpaceOrEnd cursor.peek then fail ("expected a digit or ' ', " ++ found cursor.peek)
    .ok (.version major minor, cursor)
  else if name == "TAG" then
    let (handle, cursor) ← tagHandle "directive" (cursor.skipWhile (· == ' '))
    if cursor.peek != ' ' then fail ("expected ' ', " ++ found cursor.peek)
    let (start, cursor) ← address "directive" (cursor.skipWhile (· == ' '))
    if !isSpaceOrEnd cursor.peek then fail ("expected ' ', " ++ found cursor.peek)
    .ok (.tag handle start, cursor)
  else .ok (.other, cursor.skipWhile (!isBreak ·))

/-- A directive line. -/
def directiveToken (cursor : Cursor) : Except Fault (Token × Cursor) := do
  -- The name is read first, then what it asks for, and then the rest of the line.
  let (name, cursor) := cursor.step.takeWhile isNameChar
  if name.isEmpty || !isSpaceOrEnd cursor.peek then
    .error (.broken (some readingDirective)
      ("expected alphabetic or numeric character, " ++ found cursor.peek))
  else
    let (content, cursor) ← directiveContent (String.ofList name) cursor
    let cursor ← ignoredLine readingDirective cursor
    .ok (.directive content, cursor)

end ModelServing.Yaml
