import ModelServing.Yaml.PlainScalar
import ModelServing.Yaml.Properties

/-! A YAML text as tokens. Indentation becomes block markers, and a token that a colon follows
becomes a key after the fact. -/

namespace ModelServing.Yaml

/-- A token that may turn out to be a key: where it stands among the tokens and in the text, and
whether a colon has to follow. -/
structure Candidate where
  position : Nat
  required : Bool
  index : Nat
  line : Nat
  column : Nat
  deriving Repr

/-- The state of lexing: the text left, the depth of brackets, the open indentations with the
innermost first, whether a key may start here, the key candidates by depth, and the tokens. -/
structure Lexing where
  cursor : Cursor
  depth : Nat := 0
  indent : Int := -1
  outer : List Int := []
  keyAllowed : Bool := true
  candidates : List (Nat × Candidate) := []
  tokens : Array Token := #[]
  finished : Bool := false

namespace Lexing

/-- The fault of a key without its colon. -/
def lostKey : Fault := .broken (some "while scanning a simple key") "could not find expected ':'"

/-- A fault about something that may not stand where it does. -/
def misplaced (what : String) : Fault := .broken none (what ++ " are not allowed here")

/-- Adds a token at the end. -/
def emit (token : Token) (state : Lexing) : Lexing :=
  { state with tokens := state.tokens.push token }

/-- Whether a candidate can no longer become a key: a key stays on one line and is short. -/
def isStale (state : Lexing) (candidate : Candidate) : Bool :=
  candidate.line != state.cursor.line || 1024 < state.cursor.index - candidate.index

/-- Drops the candidates that can no longer become keys. -/
def dropStale (state : Lexing) : Except Fault Lexing :=
  if state.candidates.any fun entry => state.isStale entry.2 && entry.2.required then .error lostKey
  else .ok { state with candidates := state.candidates.filter fun entry => !state.isStale entry.2 }

/-- Drops the candidate at the present depth. -/
def dropCandidate (state : Lexing) : Except Fault Lexing :=
  if state.candidates.any fun entry => entry.1 == state.depth && entry.2.required then .error lostKey
  else .ok { state with candidates := state.candidates.filter fun entry => entry.1 != state.depth }

/-- Notes the next token as a possible key, where one may start. -/
def noteCandidate (state : Lexing) : Except Fault Lexing := do
  -- The place of the token is noted, since a colon may come much later.
  if !state.keyAllowed then return state
  let state ← state.dropCandidate
  let candidate : Candidate :=
    { position := state.tokens.size
      required := state.depth == 0 && state.indent == (state.cursor.column : Int)
      index := state.cursor.index, line := state.cursor.line, column := state.cursor.column }
  return { state with candidates := (state.depth, candidate) :: state.candidates }

/-- Closes the block collections that are indented further than a column. -/
def unwind (column : Int) : (outer : List Int) → Lexing → Lexing
  -- Every collection that is left closes with a token of its own.
  | outer, state =>
    if state.depth != 0 || state.indent ≤ column then state
    else
      match outer with
      | [] => state
      | indent :: outer => unwind column outer ({ state with indent, outer }.emit .blockEnd)

/-- Opens an indentation at a column, and tells whether it is a new one. -/
def open? (column : Nat) (state : Lexing) : Option Lexing :=
  if state.indent < (column : Int) then
    some { state with outer := state.indent :: state.outer, indent := column }
  else none

/-- Moves to the next character that belongs to a token, past spaces, comments and line breaks. -/
def toToken : (fuel : Nat) → Lexing → Lexing
  -- A new line allows keys again, unless brackets are open.
  | 0, state => state
  | fuel + 1, state =>
    let cursor := state.cursor.skipWhile (· == ' ')
    let cursor := if cursor.peek == '#' then cursor.skipWhile (!isBreak ·) else cursor
    match cursor.lineBreak? with
    | some (_, next) =>
      toToken fuel { state with cursor := next, keyAllowed := state.keyAllowed || state.depth == 0 }
    | none => { state with cursor }

/-- Passes over a byte order mark at the very start. -/
def skipMark (state : Lexing) : Lexing :=
  if state.cursor.index == 0 && state.cursor.peek == '\ufeff' then
    { state with cursor := state.cursor.step }
  else state

/-- A mark between documents: it closes all block collections. -/
def documentMark (token : Token) (state : Lexing) : Except Fault Lexing := do
  let state ← (state.unwind (-1) state.outer).dropCandidate
  return ({ state with keyAllowed := false, cursor := state.cursor.skip 3 } : Lexing).emit token

/-- The end of the text. -/
def finish (state : Lexing) : Except Fault Lexing := do
  let state ← (state.unwind (-1) state.outer).dropCandidate
  let closed : Lexing := { state with keyAllowed := false, candidates := [], finished := true }
  return closed.emit .streamEnd

/-- A directive line. -/
def directive (state : Lexing) : Except Fault Lexing := do
  let state ← (state.unwind (-1) state.outer).dropCandidate
  let (token, cursor) ← directiveToken state.cursor
  return ({ state with keyAllowed := false, cursor } : Lexing).emit token

/-- An opening bracket. -/
def openFlow (token : Token) (state : Lexing) : Except Fault Lexing := do
  let state ← state.noteCandidate
  let inside : Lexing :=
    { state with depth := state.depth + 1, keyAllowed := true, cursor := state.cursor.step }
  return inside.emit token

/-- A closing bracket. -/
def closeFlow (token : Token) (state : Lexing) : Except Fault Lexing := do
  let state ← state.dropCandidate
  let outside : Lexing :=
    { state with depth := state.depth - 1, keyAllowed := false, cursor := state.cursor.step }
  return outside.emit token

/-- A comma between flow entries. -/
def flowEntry (state : Lexing) : Except Fault Lexing := do
  let state ← ({ state with keyAllowed := true } : Lexing).dropCandidate
  return ({ state with cursor := state.cursor.step } : Lexing).emit .flowEntry

/-- The dash of a block entry. -/
def blockEntry (state : Lexing) : Except Fault Lexing := do
  -- A dash may begin a collection where its column is new.
  let state ←
    if state.depth != 0 then pure state
    else if !state.keyAllowed then .error (misplaced "sequence entries")
    else
      match state.open? state.cursor.column with
      | some opened => pure (opened.emit .blockSequenceStart)
      | none => pure state
  let state ← ({ state with keyAllowed := true } : Lexing).dropCandidate
  return ({ state with cursor := state.cursor.step } : Lexing).emit .blockEntry

/-- The question mark of a key. -/
def keyMark (state : Lexing) : Except Fault Lexing := do
  -- A question mark may begin a mapping where its column is new.
  let state ←
    if state.depth != 0 then pure state
    else if !state.keyAllowed then .error (misplaced "mapping keys")
    else
      match state.open? state.cursor.column with
      | some opened => pure (opened.emit .blockMappingStart)
      | none => pure state
  let state ← ({ state with keyAllowed := state.depth == 0 } : Lexing).dropCandidate
  return ({ state with cursor := state.cursor.step } : Lexing).emit .key

/-- Turns a candidate into a key, which may be the first of a new block mapping. -/
def promote (candidate : Candidate) (state : Lexing) : Lexing :=
  -- The tokens are put in at the place of the candidate, in front of what has been read since.
  let marks (state : Lexing) (found : List Token) : Lexing :=
    let before := state.tokens.toList.take candidate.position
    let after := state.tokens.toList.drop candidate.position
    { state with tokens := (before ++ found ++ after).toArray, keyAllowed := false }
  let state :=
    { state with candidates := state.candidates.filter fun entry => entry.1 != state.depth }
  match if state.depth == 0 then state.open? candidate.column else none with
  | some opened => marks opened [.blockMappingStart, .key]
  | none => marks state [.key]

/-- The colon of a value. -/
def valueMark (state : Lexing) : Except Fault Lexing := do
  -- A colon needs a candidate, or a place where a key may be left out.
  let state ←
    match state.candidates.find? fun entry => entry.1 == state.depth with
    | some (_, candidate) => pure (state.promote candidate)
    | none =>
      if state.depth != 0 then ({ state with keyAllowed := false } : Lexing).dropCandidate
      else if !state.keyAllowed then .error (misplaced "mapping values")
      else
        let state := match state.open? state.cursor.column with
          | some opened => opened.emit .blockMappingStart
          | none => state
        ({ state with keyAllowed := true } : Lexing).dropCandidate
  return ({ state with cursor := state.cursor.step } : Lexing).emit .value

/-- A token that may be a key and after which none may start. -/
def content (read : Cursor → Except Fault (Token × Cursor)) (state : Lexing) :
    Except Fault Lexing := do
  let state ← state.noteCandidate
  let (token, cursor) ← read state.cursor
  return ({ state with keyAllowed := false, cursor } : Lexing).emit token

/-- A plain scalar; a key may start after it where a line break follows. -/
def plain (state : Lexing) : Except Fault Lexing := do
  let state ← state.noteCandidate
  let (text, broken, cursor) := plainScalar (state.depth != 0) state.indent state.cursor
  return ({ state with keyAllowed := broken, cursor } : Lexing).emit (.scalar text true)

/-- A block scalar. -/
def block (folded : Bool) (state : Lexing) : Except Fault Lexing := do
  let state ← ({ state with keyAllowed := true } : Lexing).dropCandidate
  let (text, cursor) ← blockScalar folded state.indent state.cursor
  return ({ state with cursor } : Lexing).emit (.scalar text false)

/-- Whether a plain scalar can start with a character before another one. -/
def plainStarts (inFlow : Bool) (c next : Char) : Bool :=
  !(isBlankOrEnd c || "-?:,[]\x7b\x7d#&*!|>'\"%@`".toList.contains c)
    || (!isBlankOrEnd next && (c == '-' || (!inFlow && (c == '?' || c == ':'))))

/-- Reads the next token or tokens. -/
def advance (state : Lexing) : Except Fault Lexing := do
  -- What begins a line is looked at before what stands anywhere, and a plain scalar comes last.
  let state ← (state.skipMark.toToken (state.cursor.rest.length + 1)).dropStale
  let state := state.unwind state.cursor.column state.outer
  let cursor := state.cursor
  let c := cursor.peek
  let blankNext := isBlankOrEnd (cursor.peek 1)
  let lineStart := cursor.column == 0
  let inFlow := state.depth != 0
  if cursor.rest.isEmpty then state.finish
  else if c == '%' && lineStart then state.directive
  else if lineStart && cursor.startsWith ['-', '-', '-'] && cursor.atSeparator then
    state.documentMark .documentStart
  else if lineStart && cursor.startsWith ['.', '.', '.'] && cursor.atSeparator then
    state.documentMark .documentEnd
  else if c == '[' then state.openFlow .flowSequenceStart
  else if c == '\x7b' then state.openFlow .flowMappingStart
  else if c == ']' then state.closeFlow .flowSequenceEnd
  else if c == '\x7d' then state.closeFlow .flowMappingEnd
  else if c == ',' then state.flowEntry
  else if c == '-' && blankNext then state.blockEntry
  else if c == '?' && (inFlow || blankNext) then state.keyMark
  else if c == ':' && (inFlow || blankNext) then state.valueMark
  else if c == '*' then state.content fun cursor => do
    let (name, cursor) ← anchorName "alias" cursor
    return (.alias name, cursor)
  else if c == '&' then state.content fun cursor => do
    let (name, cursor) ← anchorName "anchor" cursor
    return (.anchor name, cursor)
  else if c == '!' then state.content tagToken
  else if c == '|' && !inFlow then state.block false
  else if c == '>' && !inFlow then state.block true
  else if c == '\'' || c == '"' then state.content fun cursor => do
    let (text, cursor) ← quotedScalar (c == '"') cursor
    return (.scalar text false, cursor)
  else if plainStarts inFlow c (cursor.peek 1) then state.plain
  else
    .error (.broken (some "while scanning for the next token")
      ("found character " ++ Text.quoted (String.singleton c) ++ " that cannot start any token"))

/-- The tokens that are settled: those before the first one that may still become a key. -/
def settled (state : Lexing) : List Token :=
  let limit := state.candidates.foldl (fun least entry => min least entry.2.position) state.tokens.size
  state.tokens.toList.take limit

/-- Lexes to the end, or to the first fault; then only the settled tokens count. -/
def run : (fuel : Nat) → Lexing → List Token × Option Fault
  -- A fault does not take back the tokens that are settled.
  | 0, state => (state.settled, none)
  | fuel + 1, state =>
    if state.finished then (state.tokens.toList, none)
    else
      match state.advance with
      | .error fault => (state.settled, some fault)
      | .ok next =>
        if next.finished then (next.tokens.toList, none)
        else
          match next.dropStale with
          | .error fault => (state.settled, some fault)
          | .ok next => run fuel next

end Lexing

/-- The tokens of a text up to its first fault, and that fault. -/
def tokens (cs : List Char) : List Token × Option Fault :=
  Lexing.run (2 * cs.length + 4) { cursor := { rest := cs } }

end ModelServing.Yaml
