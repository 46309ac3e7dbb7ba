import ModelServing.Yaml.Cursor

/-! Scalars without quotation marks. -/

namespace ModelServing.Yaml

/-- The characters that end a plain scalar inside brackets. -/
def isFlowMark (c : Char) : Bool := [',', '[', ']', '\x7b', '\x7d'].contains c

/-- Whether a plain scalar ends before its next character. -/
def plainEnds (flow : Bool) (c next : Char) : Bool :=
  isBlankOrEnd c || (c == ':' && (isBlankOrEnd next || (flow && isFlowMark next)))
    || (flow && (isFlowMark c || c == '?'))

/-- The longest run of plain characters. -/
def plainRun (flow : Bool) : List Char → List Char
  | [] => []
  | c :: rest => if plainEnds flow c (rest.headD endMark) then [] else c :: plainRun flow rest

/-- What stands between two runs of a plain scalar: the text it contributes, whether a line break
was passed, whether it stopped at a document separator, and the place after it. -/
structure PlainGap where
  content : List Char
  broken : Bool
  separated : Bool
  cursor : Cursor

/-- The spaces and line breaks, after one already read, between two runs of a plain scalar. -/
def plainBreaks : (fuel : Nat) → Cursor → List Char × Bool × Cursor
  -- Blank lines are kept, and the blanks that begin a line are not.
  | 0, cursor => ([], false, cursor)
  | fuel + 1, cursor =>
    let cursor := cursor.skipWhile (· == ' ')
    match cursor.lineBreak? with
    | some (c, next) =>
      if next.atSeparator then ([c], true, next)
      else
        let (more, separated, last) := plainBreaks fuel next
        (c :: more, separated, last)
    | none => ([], false, cursor)

/-- The gap after a run of a plain scalar. -/
def plainGap (cursor : Cursor) : PlainGap :=
  -- A single line break becomes a blank, and of several the first one goes.
  let (blanks, cursor) := cursor.takeWhile (· == ' ')
  match cursor.lineBreak? with
  | some (c, next) =>
    if next.atSeparator then ⟨[], true, true, next⟩
    else
      let (breaks, separated, last) := plainBreaks (next.rest.length + 1) next
      let content := if c != '\n' then c :: breaks else if breaks.isEmpty then [' '] else breaks
      ⟨if separated then [] else content, true, separated, last⟩
  | none => ⟨blanks, false, false, cursor⟩

/-- A plain scalar from a place on, continued while it is indented: its content, the place after
it, and whether a line break follows its last run. -/
def plainFrom (flow : Bool) (indent : Int) :
    (fuel : Nat) → (gap : List Char) → (broken : Bool) → Cursor → List Char × Bool × Cursor
  -- The scalar goes on as long as its lines are indented, and a comment ends it.
  | 0, _, broken, cursor => ([], broken, cursor)
  | fuel + 1, gap, broken, cursor =>
    let run := if cursor.peek == '#' then [] else plainRun flow cursor.rest
    if run.isEmpty then ([], broken, cursor)
    else
      let next := plainGap (cursor.skip run.length)
      if next.content.isEmpty || next.cursor.peek == '#'
          || (!flow && (next.cursor.column : Int) < indent) then
        (gap ++ run, next.broken, next.cursor)
      else
        let (more, lastBroken, last) := plainFrom flow indent fuel next.content next.broken next.cursor
        (gap ++ run ++ more, lastBroken, last)

/-- A plain scalar: its content, whether a line break follows it, and the place after it. -/
def plainScalar (flow : Bool) (indent : Int) (cursor : Cursor) : String × Bool × Cursor :=
  let (content, broken, last) := plainFrom flow (indent + 1) (cursor.rest.length + 1) [] false cursor
  (String.ofList content, broken, last)

end ModelServing.Yaml
