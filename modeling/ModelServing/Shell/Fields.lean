import ModelServing.Shell.Pattern

/-! How expanded text falls into words. -/

namespace ModelServing.Shell

/-- Where a character of an expanded word comes from. -/
inductive Mark where
  | quoted
  | literal
  | expanded
  deriving DecidableEq, Repr

/-- A piece of an expanded word. -/
inductive Piece where
  | run (cs : List (Char × Mark))
  /-- A place where a word ends and the next one starts. -/
  | division
  deriving Repr

/-- Characters with one mark. -/
def marked (mark : Mark) (cs : List Char) : List (Char × Mark) := cs.map fun c => (c, mark)

/-- A text as pieces of a word: an empty one is nothing at all where it is not quoted. -/
def Piece.ofText (quoted : Bool) (s : String) : List Piece :=
  if quoted then [.run (marked .quoted s.toList)]
  else if s.isEmpty then []
  else [.run (marked .expanded s.toList)]

/-- Several texts, each a word of its own. -/
def Piece.ofTexts (quoted : Bool) (texts : List String) : List Piece :=
  let words := (texts.map (Piece.ofText quoted)).filter fun pieces => !pieces.isEmpty
  [Piece.division].intercalate words

/-- Fields that are being gathered: those that are done, the one that is open if there is one, and
whether a blank ended the last one, so that a separator after it ends no other. -/
structure Fields where
  done : List Pattern := []
  current : Option Pattern := none
  blank : Bool := false
  deriving Repr

namespace Fields

/-- Whether a character is a separator that counts only once in a row. -/
def isLight (c : Char) : Bool := c == ' ' || c == '\t' || c == '\n'

/-- Fields with one more character. It divides them if it comes from an expansion and is a
separator. -/
def add (separators : List Char) (fields : Fields) (entry : Char × Mark) : Fields :=
  -- Blanks that divide fields count once, and any other separator every time.
  if entry.2 == .expanded && separators.contains entry.1 then
    if isLight entry.1 then
      { done := fields.done ++ fields.current.toList, current := none
        blank := fields.blank || fields.current.isSome }
    else if fields.current.isNone && fields.blank then { fields with blank := false }
    else { done := fields.done ++ [fields.current.getD []], current := none, blank := false }
  else
    { fields with
      current := some (fields.current.getD [] ++ [(entry.1, entry.2 == .quoted)]), blank := false }

end Fields

/-- The words that pieces form after fields that are already gathered. -/
def gather (separators : List Char) : List Piece → Fields → List Pattern
  -- An empty piece begins a field nevertheless, since it may have been quoted.
  | [], fields => fields.done ++ fields.current.toList
  | .division :: rest, fields =>
    gather separators rest
      { done := fields.done ++ [fields.current.getD []], current := some [] }
  | .run cs :: rest, fields =>
    if cs.isEmpty && fields.current.isNone then
      gather separators rest { fields with current := some [] }
    else gather separators rest (cs.foldl (Fields.add separators) fields)

/-- The text of pieces that stay one word. -/
def flattened (pieces : List Piece) : Pattern :=
  pieces.flatMap fun piece =>
    match piece with
    | .run cs => cs.map fun entry => (entry.1, entry.2 == .quoted)
    | .division => [(' ', true)]

/-- The text that a pattern spells. -/
def Pattern.text (pattern : Pattern) : String := String.ofList (pattern.map (·.1))

end ModelServing.Shell
