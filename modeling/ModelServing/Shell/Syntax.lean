/-! The syntax of shell scripts. -/

namespace ModelServing.Shell

/-- What stands on a redirection's left: how a descriptor is opened. -/
inductive Opening where
  | reading
  | writing
  | appending
  | duplicating
  deriving DecidableEq, Repr

/-- The operator of a parameter with an alternative. -/
inductive Alternative where
  /-- The word, if the parameter is not there. -/
  | default
  /-- The word, which becomes the parameter's value, if it is not there. -/
  | assigned
  /-- The word, if the parameter is there. -/
  | instead
  /-- An error, if the parameter is not there. -/
  | required
  deriving DecidableEq, Repr

mutual

/-- A part of a word. -/
inductive Part where
  | text (cs : List Char) (quoted : Bool)
  | parameter (name : String) (quoted : Bool)
  | length (name : String) (quoted : Bool)
  /-- A parameter with an alternative; with `orEmpty` an empty one counts as not there. -/
  | alternative (name : String) (kind : Alternative) (orEmpty : Bool) (word : List Part)
      (quoted : Bool)
  /-- A parameter without the shortest or the longest part at one end that fits a pattern. -/
  | trimmed (name : String) (atEnd longest : Bool) (pattern : List Part) (quoted : Bool)
  /-- What a script prints. -/
  | output (script : Command) (quoted : Bool)
  /-- The value of an expression. -/
  | arithmetic (expression : List Part) (quoted : Bool)

/-- A redirection of a descriptor. -/
inductive Redirect where
  | redirect (descriptor : Nat) (opening : Opening) (target : List Part)
  /-- A descriptor that reads a text of the script itself. -/
  | document (descriptor : Nat) (text : List Part)

/-- A command. -/
inductive Command where
  | simple (line : Nat) (assigned : List (String × List Part)) (words : List (List Part))
  | redirected (command : Command) (redirects : List Redirect)
  | pipeline (negated : Bool) (stages : List Command)
  | both (first second : Command)
  | either (first second : Command)
  | sequence (commands : List Command)
  | background (command : Command)
  | subshell (command : Command)
  | branch (condition body otherwise : Command)
  | loop (negated : Bool) (condition body : Command)
  | each (name : String) (words : Option (List (List Part))) (body : Command)
  | select (word : List Part) (arms : List (List (List Part) × Command))
  | define (name : String) (body : Command)

end

/-- A word. -/
abbrev Word := List Part

instance : Inhabited Command := ⟨.sequence []⟩

/-- Whether a word holds the output of a script. -/
def Word.hasOutput (word : Word) : Bool :=
  word.any fun part =>
    match part with
    | .output .. => true
    | _ => false

/-- Whether a character can stand first in a name. -/
def startsName (c : Char) : Bool := c.isAlpha || c == '_'

/-- Whether a character can stand in a name. -/
def isNameChar (c : Char) : Bool := c.isAlphanum || c == '_'

/-- Whether a text is a name. -/
def isName (s : String) : Bool :=
  match s.toList with
  | [] => false
  | c :: rest => startsName c && rest.all isNameChar

end ModelServing.Shell
