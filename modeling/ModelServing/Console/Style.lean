import ModelServing.Console.Color
import ModelServing.Text.LowerCase

/-! Styles of console text, and the one text that all names of a style have in common. -/

namespace ModelServing.Console

open ModelServing.Text

/-- The attributes of a style in the order in which they are written, each with its short name. -/
def attributes : List (String × Option String) :=
  [("bold", some "b"), ("dim", some "d"), ("italic", some "i"), ("underline", some "u"),
    ("blink", none), ("blink2", none), ("reverse", some "r"), ("conceal", some "c"),
    ("strike", some "s"), ("underline2", some "uu"), ("frame", none), ("encircle", none),
    ("overline", some "o")]

/-- The attribute that a word names. -/
def attribute? (word : String) : Option String :=
  (attributes.find? fun entry => entry.1 == word || entry.2 == some word).map (·.1)

/-- A style: attributes that are turned on or off, colours, and the target of a link. -/
structure Style where
  /-- The attributes that are set, the last one set first. -/
  switches : List (String × Bool) := []
  color : Option String := none
  background : Option String := none
  link : Option String := none
  deriving DecidableEq, Repr

namespace Style

/-- A style with one more attribute turned on or off. -/
def switch (style : Style) (name : String) (on : Bool) : Style :=
  { style with switches := (name, on) :: style.switches }

/-- How the setting of an attribute is written. -/
def switchText (style : Style) (name : String) : Option String :=
  (style.switches.find? fun entry => entry.1 == name).map fun entry =>
    if entry.2 then name else "not " ++ name

/-- A style in words. -/
def text (style : Style) : String :=
  let words := attributes.filterMap (fun entry => style.switchText entry.1) ++ style.color.toList
    ++ (style.background.toList.flatMap fun color => ["on", color])
    ++ (style.link.toList.flatMap fun target => ["link", target])
  if words.isEmpty then "none" else " ".intercalate words

/-- Adds what words say to a style; there is none where a word says nothing. -/
def addWords (style : Style) : List (List Char) → Except MarkupFault (Option Style)
  -- Three words take another one behind them; any other word is an attribute or a colour.
  | [] => .ok (some style)
  | word :: rest =>
    match String.ofList (lowerCase word), rest with
    | "on", color :: rest => do
      let name := String.ofList (lowerCase color)
      if ← isColor name then addWords { style with background := some name } rest else return none
    | "not", name :: rest =>
      match attribute? (String.ofList name) with
      | some name => addWords (style.switch name false) rest
      | none => .ok none
    | "link", target :: rest => addWords { style with link := some (String.ofList target) } rest
    | name, rest =>
      match attribute? name with
      | some name => addWords (style.switch name true) rest
      | none => do
        if ← isColor name then addWords { style with color := some name } rest else return none

/-- The style that a text describes, if it describes one. -/
def read? (description : List Char) : Except MarkupFault (Option Style) :=
  if description.isEmpty || trimBy isBlank description == "none".toList then .ok (some {})
  else addWords {} ((description.splitOnP isBlank).filter fun word => !word.isEmpty)

/-- The text that all descriptions of one style have in common. What describes no style is only
trimmed and written in small letters. -/
def normalName (description : List Char) : Except MarkupFault (List Char) := do
  match ← read? description with
  | some style => return style.text.toList
  | none => return lowerCase (trimBy isBlank description)

end Style

end ModelServing.Console
