import ModelServing.Yaml.Cursor
import ModelServing.Yaml.Fault
import ModelServing.Text.Quoted

/-! Scalars between single or double quotation marks. -/

namespace ModelServing.Yaml

/-- The value of a hexadecimal digit. -/
def hexValue? (c : Char) : Option Nat :=
  if c.isDigit then some (c.toNat - 48)
  else if 'a' ≤ c && c ≤ 'f' then some (c.toNat - 87)
  else if 'A' ≤ c && c ≤ 'F' then some (c.toNat - 55)
  else none

/-- The character that a one-letter escape stands for. -/
def escapedChar? (c : Char) : Option Char :=
  match c with
  | '0' => some '\x00'
  | 'a' => some '\x07'
  | 'b' => some '\x08'
  | 't' => some '\t'
  | '\t' => some '\t'
  | 'n' => some '\n'
  | 'v' => some '\x0b'
  | 'f' => some '\x0c'
  | 'r' => some '\r'
  | 'e' => some '\x1b'
  | ' ' => some ' '
  | '"' => some '"'
  | '\\' => some '\\'
  | '/' => some '/'
  | 'N' => some '\x85'
  | '_' => some '\xa0'
  | 'L' => some '\u2028'
  | 'P' => some '\u2029'
  | _ => none

/-- The number of hexadecimal digits after an escape letter. -/
def escapeWidth? (c : Char) : Option Nat :=
  match c with
  | 'x' => some 2
  | 'u' => some 4
  | 'U' => some 8
  | _ => none

/-- The fault of a scalar whose end is wrong. -/
def unfinished (wrong : String) : Fault := .broken (some "while scanning a quoted scalar") wrong

/-- The fault of a wrong escape. -/
def badEscape (wrong : String) : Fault :=
  .broken (some "while scanning a double-quoted scalar") wrong

/-- The line breaks, after one already read, of a scalar that goes on in another line. -/
def foldedBreaks : (fuel : Nat) → Cursor → Except Fault (List Char × Cursor)
  -- A mark of a document must not stand inside a scalar.
  | 0, cursor => .ok ([], cursor)
  | fuel + 1, cursor =>
    if cursor.atSeparator then .error (unfinished "found unexpected document separator")
    else
      let cursor := cursor.skipWhile fun c => c == ' ' || c == '\t'
      match cursor.lineBreak? with
      | some (c, next) => do
        let (more, last) ← foldedBreaks fuel next
        .ok (c :: more, last)
      | none => .ok ([], cursor)

/-- A run of blanks inside a quoted scalar, with line breaks folded. -/
def quotedBlanks (cursor : Cursor) : Except Fault (List Char × Cursor) := do
  -- A single line break becomes a blank, and of several the first one goes.
  let (blanks, cursor) := cursor.takeWhile fun c => c == ' ' || c == '\t'
  match cursor.lineBreak? with
  | some (c, next) =>
    let (breaks, last) ← foldedBreaks (next.rest.length + 1) next
    if c != '\n' then .ok (c :: breaks, last)
    else if breaks.isEmpty then .ok ([' '], last)
    else .ok (breaks, last)
  | none =>
    if cursor.rest.isEmpty then .error (unfinished "found unexpected end of stream")
    else .ok (blanks, cursor)

/-- The character with a number, as an escape names it. A number between the two halves of the
basic plane is no character and is read as the replacement character. -/
def characterOf (code : Nat) : Except Fault Char :=
  if 0x7fffffff < code then .error .hugeCharacter
  else if 0x110000 ≤ code then .error .notCharacter
  else if 0xD800 ≤ code && code < 0xE000 then .ok '\ufffd'
  else .ok (Char.ofNat code)

/-- An escape, after its backslash. -/
def escape (cursor : Cursor) : Except Fault (List Char × Cursor) := do
  -- A letter stands for a character, or for a number of digits, or a line is broken.
  let c := cursor.peek
  match escapedChar? c, escapeWidth? c with
  | some plain, _ => .ok ([plain], cursor.step)
  | none, some width =>
    let cursor := cursor.step
    let digits := (List.range width).map fun k => cursor.peek k
    match digits.find? fun d => (hexValue? d).isNone with
    | some wrong =>
      .error (badEscape ("expected escape sequence of " ++ toString width
        ++ " hexadecimal numbers, but found " ++ Text.quoted (String.singleton wrong)))
    | none =>
      let code := digits.foldl (fun value d => value * 16 + (hexValue? d).getD 0) 0
      let char ← characterOf code
      .ok ([char], cursor.skip width)
  | none, none =>
    match cursor.lineBreak? with
    | some (_, next) => foldedBreaks (next.rest.length + 1) next
    | none =>
      .error (badEscape ("found unknown escape character " ++ Text.quoted (String.singleton c)))

/-- The inside of a quoted scalar up to its closing mark. -/
def quotedBody (double : Bool) : (fuel : Nat) → Cursor → Except Fault (List Char × Cursor)
  -- The body ends where nothing is read any more, that is, at the closing mark.
  | 0, _ => .error (unfinished "found unexpected end of stream")
  | fuel + 1, cursor => do
    let c := cursor.peek
    let (piece, next) ←
      if cursor.rest.isEmpty || c == ' ' || c == '\t' || isBreak c then quotedBlanks cursor
      else if !double && c == '\'' && cursor.peek 1 == '\'' then .ok ([c], cursor.skip 2)
      else if c == (if double then '"' else '\'') then .ok ([], cursor)
      else if double && c == '\\' then escape cursor.step
      else .ok ([c], cursor.step)
    if next.index == cursor.index then .ok (piece, next)
    else
      let (more, last) ← quotedBody double fuel next
      .ok (piece ++ more, last)

/-- A quoted scalar: its content, and the place after its closing mark. -/
def quotedScalar (double : Bool) (cursor : Cursor) : Except Fault (String × Cursor) := do
  let start := cursor.step
  let (content, last) ← quotedBody double (start.rest.length + 1) start
  .ok (String.ofList content, last.step)

end ModelServing.Yaml
