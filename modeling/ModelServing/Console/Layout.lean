import ModelServing.Console.Width

/-! How a line of text is laid out on lines of a given number of cells. -/

namespace ModelServing.Console

open ModelServing.Text

/-- The number of columns between two tab stops. -/
def tabWidth : Nat := 8

/-- Characters with every tab replaced by blanks up to the next stop, after a number of cells. -/
def expandTabs (column : Nat) : List Char → List Char
  | [] => []
  | '\t' :: rest =>
    let count := tabWidth - column % tabWidth
    List.replicate count ' ' ++ expandTabs (column + count) rest
  | c :: rest => c :: expandTabs (column + cellWidth c) rest

/-- Splits a line that does not begin with a blank before each of its words. -/
def splitBeforeWords : List Char → List (List Char)
  -- A word is followed by its blanks, so a part begins where a character stands behind a blank.
  | [] => []
  | c :: rest =>
    match splitBeforeWords rest with
    | [] => [[c]]
    | part :: parts =>
      if isBlank c && (part.head?.map fun d => !isBlank d).getD false then [c] :: part :: parts
      else (c :: part) :: parts

/-- The words of a line, each with the blanks after it, and the first one with those before it; a
line of blanks alone has no words. -/
def words (line : List Char) : List (List Char) :=
  match line.takeWhile isBlank, splitBeforeWords (line.dropWhile isBlank) with
  | _, [] => []
  | blanks, word :: rest => (blanks ++ word) :: rest

/-- Cuts characters into parts of at most a number of cells, where a part may already be begun. -/
def chopFrom (width : Nat) (part : List Char) : List Char → List (List Char)
  | [] => [part]
  | c :: rest =>
    if width < cells part + cellWidth c then part :: chopFrom width [c] rest
    else chopFrom width (part ++ [c]) rest

/-- Places words on lines of at most a number of cells, where a line may already be begun. A word
goes onto a new line where it does not fit, and one that fits on no line is cut. -/
def placeWords (width : Nat) (line : List Char) : List (List Char) → List (List Char)
  -- The blanks behind a word do not have to fit.
  | [] => [line]
  | word :: rest =>
    let size := cells (dropTrailing isBlank word)
    if cells line + size ≤ width then placeWords width (line ++ word) rest
    else if size ≤ width then line :: placeWords width word rest
    else
      let parts := chopFrom width [] word
      (if line.isEmpty then [] else [line]) ++ parts.dropLast
        ++ placeWords width (parts.getLast?.getD []) rest

/-- A line as lines of at most a number of cells, trailing blanks apart. -/
def wrap (width : Nat) (line : List Char) : List (List Char) :=
  match words line with
  | [] => [line]
  | words => placeWords width [] words

/-- A line without as many of its trailing blanks as it has characters too many. -/
def cropBlanks (width : Nat) (line : List Char) : List Char :=
  let blanks := (line.reverse.takeWhile isBlank).length
  line.take (line.length - min blanks (line.length - width))

/-- The first characters of a line that take a number of cells, found by halving the part of the
line in which they end; half a wide character becomes a blank. -/
def cutBetween (width : Nat) (line : List Char) : (fuel start stop : Nat) → List Char
  -- The search keeps too few cells before `start` and too many behind `stop`.
  | 0, start, _ => line.take start
  | fuel + 1, start, stop =>
    let middle := (start + stop) / 2
    let before := line.take (middle + 1)
    if cells before == width + 1 && (before.getLast?.map cellWidth) == some 2 then
      before.dropLast ++ [' ']
    else if cells before == width then before
    else if width < cells before then cutBetween width line fuel start middle
    else cutBetween width line fuel middle stop

/-- A line cut to a number of cells. -/
def cutCells (width : Nat) (line : List Char) : List Char :=
  if cells line ≤ width then line else cutBetween width line line.length 0 line.length

end ModelServing.Console
