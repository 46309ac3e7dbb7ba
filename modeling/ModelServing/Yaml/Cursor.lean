/-! A place in a text, with its line and column. -/

namespace ModelServing.Yaml

/-- A line break: a carriage return, a line feed, a next line, or a Unicode separator. -/
def isBreak (c : Char) : Bool :=
  c == '\n' || c == '\r' || c == '\x85' || c == '\u2028' || c == '\u2029'

/-- The character that stands for the end of the text. -/
def endMark : Char := '\x00'

/-- A line break or the end of the text. -/
def isLineEnd (c : Char) : Bool := isBreak c || c == endMark

/-- A line break, the end of the text, or a space. -/
def isSpaceOrEnd (c : Char) : Bool := isLineEnd c || c == ' '

/-- A line break, the end of the text, a space or a tabulator. -/
def isBlankOrEnd (c : Char) : Bool := isSpaceOrEnd c || c == '\t'

/-- What is left of a text, and where that stands. -/
structure Cursor where
  rest : List Char
  index : Nat := 0
  line : Nat := 0
  column : Nat := 0
  deriving Repr

namespace Cursor

/-- The character some places ahead. -/
def peek (cursor : Cursor) (ahead : Nat := 0) : Char := cursor.rest.getD ahead endMark

/-- Moves past one character. A byte order mark takes no column. -/
def step (cursor : Cursor) : Cursor :=
  -- A return before a line feed does not count as a line, since the line feed does.
  match cursor.rest with
  | [] => cursor
  | c :: rest =>
    if isBreak c && !(c == '\r' && rest.head? == some '\n') then
      { rest, index := cursor.index + 1, line := cursor.line + 1, column := 0 }
    else
      { rest, index := cursor.index + 1, line := cursor.line,
        column := if c == '\ufeff' then cursor.column else cursor.column + 1 }

/-- Moves past several characters. -/
def skip : Nat → Cursor → Cursor
  | 0, cursor => cursor
  | count + 1, cursor => skip count cursor.step

/-- The longest run of characters that satisfy a test, and the place after it. -/
def takeWhile (test : Char → Bool) (cursor : Cursor) : List Char × Cursor :=
  let run := cursor.rest.takeWhile test
  (run, skip run.length cursor)

/-- The place after the longest run of characters that satisfy a test. -/
def skipWhile (test : Char → Bool) (cursor : Cursor) : Cursor := (cursor.takeWhile test).2

/-- Whether the next characters are those given. -/
def startsWith (cursor : Cursor) (cs : List Char) : Bool := cs.isPrefixOf cursor.rest

/-- Reads a line break if one stands here: the text that it contributes, and the place after it.
Every break but the two Unicode separators counts as a line feed. -/
def lineBreak? (cursor : Cursor) : Option (Char × Cursor) :=
  -- A return and a line feed behind it are one break.
  let c := cursor.peek
  if c == '\r' && cursor.peek 1 == '\n' then some ('\n', cursor.skip 2)
  else if c == '\u2028' || c == '\u2029' then some (c, cursor.step)
  else if isBreak c then some ('\n', cursor.step)
  else none

/-- The place after a line break, if one stands here. -/
def skipLineBreak (cursor : Cursor) : Cursor := ((cursor.lineBreak?).map (·.2)).getD cursor

/-- Whether a line that separates documents starts here. -/
def atSeparator (cursor : Cursor) : Bool :=
  (cursor.startsWith ['-', '-', '-'] || cursor.startsWith ['.', '.', '.'])
    && isBlankOrEnd (cursor.peek 3)

end Cursor

end ModelServing.Yaml
