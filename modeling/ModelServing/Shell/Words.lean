/-! Lists of words as one line of a shell, and such a line as words again. -/

namespace ModelServing.Shell

/-- Whether a character stands for itself in a line without quotation marks. -/
def needsNoMarks (c : Char) : Bool := c.isAlphanum || "_@%+=:,./-".toList.contains c

/-- How a character is written between single quotation marks: only such a mark itself ends the
quotation, and is written between double ones. -/
def quoteChar (c : Char) : List Char := if c == '\'' then "'\"'\"'".toList else [c]

/-- A word as a shell reads it back: as it is where it is plain, otherwise between marks. -/
def quoteWord (word : List Char) : List Char :=
  if !word.isEmpty && word.all needsNoMarks then word else '\'' :: word.flatMap quoteChar ++ ['\'']

/-- A list of words as one line. -/
def joinWords (words : List (List Char)) : List Char := [' '].intercalate (words.map quoteWord)

/-- How a character of a line is meant. -/
inductive Quotation where
  /-- Not between quotation marks. -/
  | bare
  /-- After a backslash that is not between quotation marks. -/
  | escaped
  | single
  | double
  /-- After a backslash between double quotation marks. -/
  | doubleEscaped
  deriving DecidableEq, Repr

/-- The word that is being read, with one more character. -/
def extend (word : Option (List Char)) (c : Char) : Option (List Char) := some (word.getD [] ++ [c])

/-- Whether a character divides words. -/
def isDivider (c : Char) : Bool := c == ' ' || c == '\t' || c == '\n'

/-- Whether a backslash between double quotation marks protects a character. -/
def isProtected (c : Char) : Bool := "$\x60\"\\".toList.contains c

/-- Reads the rest of a line in which a word may have been begun. -/
def splitFrom (quotation : Quotation) (word : Option (List Char)) :
    List Char → Option (List (List Char))
  -- The word is absent as long as nothing has begun one, so that empty quotation marks give an
  -- empty word.
  | [] => if quotation == .bare then some word.toList else none
  | c :: rest =>
    match quotation with
    | .bare =>
      if isDivider c then (splitFrom .bare none rest).map (word.toList ++ ·)
      else if c == '\'' then splitFrom .single (some (word.getD [])) rest
      else if c == '"' then splitFrom .double (some (word.getD [])) rest
      else if c == '\\' then splitFrom .escaped word rest
      else splitFrom .bare (extend word c) rest
    | .escaped =>
      if c == '\n' then splitFrom .bare word rest else splitFrom .bare (extend word c) rest
    | .single =>
      if c == '\'' then splitFrom .bare word rest else splitFrom .single (extend word c) rest
    | .double =>
      if c == '"' then splitFrom .bare word rest
      else if c == '\\' then splitFrom .doubleEscaped word rest
      else splitFrom .double (extend word c) rest
    | .doubleEscaped =>
      if c == '\n' then splitFrom .double word rest
      else if isProtected c then splitFrom .double (extend word c) rest
      else splitFrom .double (extend (extend word '\\') c) rest

/-- The words of a line, if every quotation in it is closed. -/
def splitWords? (line : List Char) : Option (List (List Char)) := splitFrom .bare none line

end ModelServing.Shell
