import ModelServing.Yaml.Cursor
import ModelServing.Yaml.Fault
import ModelServing.Text.Quoted

/-! Scalars that are an indented block of lines. -/

namespace ModelServing.Yaml

/-- What happens to the line breaks at the end of a block scalar. -/
inductive Chomping where
  /-- All are dropped. -/
  | strip
  /-- One is kept. -/
  | clip
  /-- All are kept. -/
  | keep
  deriving DecidableEq, Repr

/-- A fault in the header of a block scalar. -/
def badHeader (wrong : String) : Fault := .broken (some "while scanning a block scalar") wrong

/-- The chomping that a sign asks for. -/
def chomping? (c : Char) : Option Chomping :=
  if c == '+' then some .keep else if c == '-' then some .strip else none

/-- The indentation that a digit asks for, when a digit stands here. -/
def increment? (c : Char) : Except Fault (Option Nat) :=
  if c == '0' then .error (badHeader "expected indentation indicator in the range 1-9, but found 0")
  else if c.isDigit then .ok (some (c.toNat - 48))
  else .ok none

/-- The signs of a block scalar's header, in either order. -/
def blockSigns (cursor : Cursor) : Except Fault (Chomping × Option Nat × Cursor) := do
  -- Both signs may come first, so each order is tried.
  let (chomping, increment, cursor) ← (do
    match chomping? cursor.peek with
    | some chomping =>
      let cursor := cursor.step
      match ← increment? cursor.peek with
      | some n => pure (chomping, some n, cursor.step)
      | none => pure (chomping, none, cursor)
    | none =>
      match ← increment? cursor.peek with
      | some n =>
        let cursor := cursor.step
        match chomping? cursor.peek with
        | some chomping => pure (chomping, some n, cursor.step)
        | none => pure (.clip, some n, cursor)
      | none => pure (.clip, none, cursor))
  if isSpaceOrEnd cursor.peek then .ok (chomping, increment, cursor)
  else
    .error (badHeader ("expected chomping or indentation indicators, but found "
      ++ Text.quoted (String.singleton cursor.peek)))

/-- The rest of a line that may hold only blanks and a comment. -/
def ignoredLine (reading : String) (cursor : Cursor) : Except Fault Cursor :=
  -- Nothing but a comment may follow on that line.
  let cursor := cursor.skipWhile (· == ' ')
  let cursor := if cursor.peek == '#' then cursor.skipWhile (!isBreak ·) else cursor
  if isLineEnd cursor.peek then .ok cursor.skipLineBreak
  else
    .error (.broken (some reading) ("expected a comment or a line break, but found "
      ++ Text.quoted (String.singleton cursor.peek)))

/-- The blank lines before the first line of a block scalar, and its widest indentation. -/
def leadingLines : (fuel : Nat) → (widest : Nat) → Cursor → List Char × Nat × Cursor
  -- The widest of the blank lines counts where no indentation is given.
  | 0, widest, cursor => ([], widest, cursor)
  | fuel + 1, widest, cursor =>
    let c := cursor.peek
    if c == ' ' then
      let cursor := cursor.step
      leadingLines fuel (max widest cursor.column) cursor
    else
      match cursor.lineBreak? with
      | some (c, next) =>
        let (breaks, widest, last) := leadingLines fuel widest next
        (c :: breaks, widest, last)
      | none => ([], widest, cursor)

/-- The place after the spaces before a column. -/
def skipIndent (indent : Nat) : (fuel : Nat) → Cursor → Cursor
  | 0, cursor => cursor
  | fuel + 1, cursor =>
    if cursor.column < indent && cursor.peek == ' ' then skipIndent indent fuel cursor.step
    else cursor

/-- The blank lines between two lines of a block scalar. -/
def blankLines (indent : Nat) : (fuel : Nat) → Cursor → List Char × Cursor
  -- Blanks up to the indentation belong to it, and a line with more of them is not blank.
  | 0, cursor => ([], cursor)
  | fuel + 1, cursor =>
    let cursor := skipIndent indent (indent + 1) cursor
    match cursor.lineBreak? with
    | some (c, next) =>
      let (breaks, last) := blankLines indent fuel next
      (c :: breaks, last)
    | none => ([], cursor)

/-- The lines of a block scalar: their text, the break after the last one, the blank lines after
it, and the place after those. -/
def blockLines (folded : Bool) (indent : Nat) :
    (fuel : Nat) → (breaks : List Char) → Cursor → List Char × List Char × List Char × Cursor
  -- A line break is folded only between two lines that do not begin with a blank.
  | 0, breaks, cursor => ([], [], breaks, cursor)
  | fuel + 1, breaks, cursor =>
    if cursor.column != indent || cursor.rest.isEmpty then ([], [], breaks, cursor)
    else
      let plainStart := cursor.peek != ' ' && cursor.peek != '\t'
      let (line, cursor) := cursor.takeWhile (!isBreak ·)
      let (lineBreak, cursor) := match cursor.lineBreak? with
        | some (c, next) => ([c], next)
        | none => ([], cursor)
      let (blank, cursor) := blankLines indent (cursor.rest.length + 1) cursor
      if cursor.column == indent && !cursor.rest.isEmpty then
        let joint :=
          if folded && lineBreak == ['\n'] && plainStart && cursor.peek != ' ' && cursor.peek != '\t'
          then (if blank.isEmpty then [' '] else [])
          else lineBreak
        let (more, final, tail, last) := blockLines folded indent fuel blank cursor
        (breaks ++ line ++ joint ++ more, final, tail, last)
      else (breaks ++ line, lineBreak, blank, cursor)

/-- A literal or folded block scalar inside an indentation: its content and the place after it. -/
def blockScalar (folded : Bool) (indent : Int) (cursor : Cursor) :
    Except Fault (String × Cursor) := do
  -- The header comes first, then the indentation is found, and then the lines are read.
  let (chomping, increment, cursor) ← blockSigns cursor.step
  let cursor ← ignoredLine "while scanning a block scalar" cursor
  let least := (max 1 (indent + 1)).toNat
  let fuel := cursor.rest.length + 1
  let (indent, breaks, cursor) := match increment with
    | some n =>
      let (breaks, cursor) := blankLines (least + n - 1) fuel cursor
      (least + n - 1, breaks, cursor)
    | none =>
      let (breaks, widest, cursor) := leadingLines fuel 0 cursor
      (max least widest, breaks, cursor)
  let (content, final, tail, cursor) := blockLines folded indent fuel breaks cursor
  let ending := match chomping with
    | .strip => []
    | .clip => final
    | .keep => final ++ tail
  .ok (String.ofList (content ++ ending), cursor)

end ModelServing.Yaml
