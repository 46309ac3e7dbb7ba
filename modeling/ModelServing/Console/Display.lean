import ModelServing.Console.Layout
import ModelServing.Console.Markup

/-! Text as a terminal shows it. -/

namespace ModelServing.Console

/-- How a text is printed. -/
structure Manner where
  /-- Whether tags in square brackets are taken as markup. -/
  markup : Bool := true
  /-- Whether lines that are too long are broken. -/
  wrapped : Bool := true
  /-- Whether a line that is not broken loses the blanks at its end that stand beyond the width, as
  in some releases of the console and not in others. -/
  cropped : Bool := true
  deriving DecidableEq, Repr

/-- The number of cells on a line of the terminal. -/
def lineWidth : Nat := 80

/-- Whether a character is one of the controls that are never printed: those that ring, go back, or
feed lines and pages. -/
def isControl (c : Char) : Bool := [7, 8, 11, 12, 13].contains c.toNat

/-- The characters that are shown for a text, without control characters. -/
def shownChars (markup : Bool) (cs : List Char) : Except MarkupFault (List Char) :=
  (if markup then showMarkup cs else .ok (expandShortcodes cs)).map
    fun shown => shown.filter fun c => !isControl c

/-- The lines on which one line of text is printed. -/
def layOut (manner : Manner) (line : List Char) : List (List Char) :=
  -- The stops of tabs are counted in the whole line, before it is broken.
  let line := expandTabs 0 line
  if manner.wrapped then
    (wrap lineWidth line).map fun part => cutCells lineWidth (cropBlanks lineWidth part)
  else if manner.cropped then [cropBlanks lineWidth line]
  else [line]

/-- What is printed for a text: its lines, each with a line feed. -/
def display (manner : Manner) (text : String) : Except MarkupFault String :=
  (shownChars manner.markup text.toList).map fun shown =>
    String.ofList (((shown.splitOn '\n').flatMap (layOut manner)).flatMap (· ++ ['\n']))

end ModelServing.Console
