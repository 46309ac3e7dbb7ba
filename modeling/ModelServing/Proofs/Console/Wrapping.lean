import Mathlib.Data.List.Forall2
import Mathlib.Data.List.Infix
import Mathlib.Data.List.TakeWhile
import ModelServing.Proofs.Console.PlainDisplay

/-! Lines that are broken keep their characters, but for blanks at the ends of the broken lines. -/

namespace ModelServing.Console

open ModelServing.Text

/-- Whether a character may be missing at the end of a line that is broken: a blank, or a character
that takes no cell. Tabs and control characters are none of them, since no terminal line keeps
these. -/
def isMargin (c : Char) : Bool := (isBlank c || cellWidth c == 0) && c != '\t' && !isControl c

/-- What is printed for a part of a line that has a terminal line to itself. It is the part, unless
this is too long because of what stands at its end. -/
structure Cropped (width : Nat) (part shown : List Char) : Prop where
  fits : cells shown ≤ width
  whole : part.length ≤ width → cells part ≤ width → shown = part
  ends : ∃ kept left, part = kept ++ left ∧ (∀ c ∈ left, isMargin c = true) ∧
    (shown = kept ∨ shown = kept ++ [' '])

/-- Whether some terminal lines show a line, apart from where it is broken. One that fits is not
broken. -/
def Wrapped (width : Nat) (line : List Char) (printed : List (List Char)) : Prop :=
  ∃ parts : List (List Char), parts.flatten = line ∧ (cells line ≤ width → parts = [line]) ∧
    List.Forall₂ (Cropped width) parts printed

section Cells

theorem cells_nil : cells [] = 0 := rfl

/-- Characters take the cells that their parts take. -/
theorem cells_append (first second : List Char) :
    cells (first ++ second) = cells first + cells second := by
  -- The cells are a sum over the characters.
  simp only [cells, ← List.sum_eq_foldr, List.map_append, List.sum_append]

/-- A character takes its own cells. -/
theorem cells_cons (c : Char) (rest : List Char) :
    cells (c :: rest) = cellWidth c + cells rest := by
  -- The first summand is that of the first character.
  simp [cells]

/-- Characters of ASCII that are printed take one cell. -/
theorem cellWidth_of_ascii {c : Char} (above : 32 ≤ c.toNat) (below : c.toNat < 127) :
    cellWidth c = 1 := by
  -- The tables are long, so they are searched here once for all of these points.
  have single : ∀ point < 127, 32 ≤ point →
      (inRanges zeroWidth point || inRanges doubleWidth point) = false := by decide +kernel
  obtain ⟨some, double⟩ := Bool.or_eq_false_iff.mp (single c.toNat below above)
  rw [cellWidth, if_neg (by simp [some]), if_neg (by simp [double])]

/-- No character takes more than two cells. -/
theorem cellWidth_le_two (c : Char) : cellWidth c ≤ 2 := by
  -- There are three widths.
  unfold cellWidth
  split_ifs <;> omega

theorem cells_le (cs : List Char) : cells cs ≤ 2 * cs.length := by
  -- Induction on the characters, each of which has two cells at most.
  induction cs with
  | nil => exact Nat.le_refl 0
  | cons c rest ih =>
    have size := cellWidth_le_two c
    rw [cells_cons, List.length_cons]
    omega

/-- More characters take no fewer cells. -/
theorem cells_take_le (line : List Char) {short long : Nat} (order : short ≤ long) :
    cells (line.take short) ≤ cells (line.take long) := by
  -- The longer prefix is the shorter one with more characters behind it.
  obtain ⟨more, same⟩ := Nat.exists_eq_add_of_le order
  rw [same, List.take_add, cells_append]
  exact Nat.le_add_right _ _

end Cells

section Cutting

/-- How a line is cut to a number of cells: between two characters, or through one that takes two
cells, of which a blank is left. -/
inductive Cut (width : Nat) : List Char → List Char → Prop where
  | between {kept : List Char} (left : List Char) (full : cells kept = width) :
    Cut width (kept ++ left) kept
  | through {kept : List Char} {last : Char} (left : List Char) (wide : cellWidth last = 2)
    (full : cells kept + 1 = width) : Cut width (kept ++ last :: left) (kept ++ [' '])

/-- Whether a number of characters takes one cell too many, with the last one half outside. -/
def endsHalved (width : Nat) (before : List Char) : Bool :=
  cells before == width + 1 && (before.getLast?.map cellWidth) == some 2

theorem cutBetween_succ (width : Nat) (line : List Char) (fuel start stop : Nat) :
    cutBetween width line (fuel + 1) start stop =
      let before := line.take ((start + stop) / 2 + 1)
      if endsHalved width before then before.dropLast ++ [' ']
      else if cells before == width then before
      else if width < cells before then cutBetween width line fuel start ((start + stop) / 2)
      else cutBetween width line fuel ((start + stop) / 2) stop :=
  -- One round of the search, as the recursion has it.
  rfl

/-- A place at which the last character stands half outside cuts the line. -/
theorem cut_of_endsHalved {width : Nat} {line : List Char} (count : Nat)
    (halved : endsHalved width (line.take count) = true) :
    Cut width line ((line.take count).dropLast ++ [' ']) := by
  -- The character at that place is wide, and begins on the last cell.
  simp only [endsHalved, Bool.and_eq_true, beq_iff_eq, Option.map_eq_some_iff] at halved
  obtain ⟨beyond, last, ends, wide⟩ := halved
  have shape := List.dropLast_append_getLast? last ends
  have parts : (line.take count).dropLast ++ last :: line.drop count = line := by
    rw [← List.singleton_append, ← List.append_assoc, shape, List.take_append_drop]
  -- The last character takes two cells, of which one is left for a blank.
  have full : cells (line.take count).dropLast + 1 = width := by
    rw [← shape, cells_append, cells_cons, wide] at beyond
    rw [cells_nil] at beyond
    omega
  have cut := Cut.through (line.drop count) wide full
  rwa [parts] at cut

/-- Between a place with too few cells and one with too many there is a third one, as long as the
character at the second is not half outside. -/
theorem add_two_le_of_between {width : Nat} {line : List Char} {start stop : Nat}
    (below : cells (line.take (start + 1)) < width)
    (above : width < cells (line.take (stop + 1)))
    (tried : stop < line.length → endsHalved width (line.take (stop + 1)) = false) :
    start + 2 ≤ stop := by
  -- Otherwise both places would be next to each other, and the character between them is too wide.
  have order : start < stop := by
    by_contra reverse
    have := cells_take_le line (show stop + 1 ≤ start + 1 by omega)
    omega
  by_contra near
  have next : stop = start + 1 := by omega
  by_cases within : stop < line.length
  · -- One character takes at most two cells, so that it would stand half outside.
    obtain ⟨last, ends⟩ : ∃ last, line.take (stop + 1) = line.take stop ++ [last] :=
      ⟨_, List.take_succ_eq_append_getElem within⟩
    have size := cellWidth_le_two last
    have halved : cells (line.take stop) + cellWidth last ≠ width + 1 ∨ cellWidth last ≠ 2 := by
      have missed := tried within
      rw [ends, endsHalved, List.getLast?_concat, cells_append, cells_cons, cells_nil] at missed
      simpa [← imp_iff_not_or] using missed
    rw [ends, cells_append, cells_cons, cells_nil] at above
    rw [← next] at below
    omega
  · -- Both places are at the end of the line, where there are as many cells before each.
    have all : ∀ count, stop ≤ count → line.take count = line := fun count long =>
      List.take_of_length_le (by omega)
    rw [all _ (by omega)] at above
    rw [all _ (by omega)] at below
    omega

/-- The search for the end of a line that is too long finds where to cut it. -/
theorem cut_cutBetween {width : Nat} {line : List Char} (fuel : Nat) {start stop : Nat}
    (below : cells (line.take (start + 1)) < width)
    (above : width < cells (line.take (stop + 1)))
    (tried : stop < line.length → endsHalved width (line.take (stop + 1)) = false)
    (enough : stop ≤ start + fuel) : Cut width line (cutBetween width line fuel start stop) := by
  -- The place in the middle cuts the line, or takes the part of one of the places around it.
  induction fuel generalizing start stop with
  | zero =>
    have apart := add_two_le_of_between below above tried
    omega
  | succ fuel ih =>
    have apart := add_two_le_of_between below above tried
    rw [cutBetween_succ]
    dsimp only
    split_ifs with halved full beyond
    · exact cut_of_endsHalved _ halved
    · have cut := Cut.between (line.drop ((start + stop) / 2 + 1)) (beq_iff_eq.mp full)
      rwa [List.take_append_drop] at cut
    · exact ih below beyond (fun _ => by simpa using halved) (by omega)
    · refine ih ?_ above tried (by omega)
      simp only [beq_iff_eq] at full
      omega

/-- A line with too many cells is cut. -/
theorem cut_cutCells {width : Nat} (wide : 2 < width) {line : List Char}
    (long : width < cells line) : Cut width line (cutCells width line) := by
  -- The invariant of the search, too few cells before and too many behind, holds at both ends of
  -- the line.
  rw [cutCells, if_neg (by omega)]
  -- The search begins at the first character, which is never too wide, and at the end.
  have first : cells (line.take 1) < width := by
    cases line with
    | nil => exact Nat.zero_lt_of_lt wide
    | cons c rest =>
      have size := cellWidth_le_two c
      rw [List.take_succ_cons, List.take_zero, cells_cons, cells_nil]
      omega
  refine cut_cutBetween line.length first ?_ (fun within => absurd within (Nat.lt_irrefl _))
    (by omega)
  rwa [List.take_of_length_le (by omega)]

end Cutting

section Blanks

/-- Blanks at the end are trailing blanks. -/
theorem dropTrailing_append_of_blank {blanks : List Char}
    (blank : ∀ c ∈ blanks, isBlank c = true) (part : List Char) :
    dropTrailing isBlank (part ++ blanks) = dropTrailing isBlank part := by
  -- Read from the end, the blanks are dropped first.
  rw [dropTrailing, List.reverse_append, List.dropWhile_append_of_pos, dropTrailing]
  exact fun c member => blank c (List.mem_reverse.mp member)

/-- Trailing blanks take up cells. -/
theorem cells_dropTrailing_le (part : List Char) :
    cells (dropTrailing isBlank part) ≤ cells part := by
  -- The line is what is left of it and the blanks, and cells add up.
  have size := congrArg cells (dropTrailing_append_blanks part)
  rw [cells_append] at size
  omega

/-- Of two texts, only the second one can be without its trailing blanks if it has other
characters. -/
theorem cells_dropTrailing_append_le (first second : List Char) :
    cells (dropTrailing isBlank (first ++ second))
      ≤ cells first + cells (dropTrailing isBlank second) := by
  -- Either the second text is all blank, or the dropping stops within it.
  rw [dropTrailing, List.reverse_append, List.dropWhile_append]
  split_ifs with blank
  · exact Nat.le_trans (cells_dropTrailing_le first) (Nat.le_add_right _ _)
  · exact Nat.le_of_eq
      (by rw [List.reverse_append, List.reverse_reverse, cells_append, dropTrailing])

end Blanks

section Placing

theorem flatten_splitBeforeWords (line : List Char) : (splitBeforeWords line).flatten = line := by
  -- Each character is put in front of the first part, or is a new part itself.
  induction line with
  | nil => rfl
  | cons c rest ih =>
    rw [splitBeforeWords]
    cases parts : splitBeforeWords rest with
    | nil =>
      rw [parts] at ih
      simpa using ih
    | cons part more =>
      rw [parts] at ih
      dsimp only
      split_ifs <;> simp [← ih]

/-- A line without words consists of blanks. -/
theorem isBlank_of_words {line : List Char} (none : words line = []) :
    ∀ c ∈ line, isBlank c = true := by
  -- The words are empty only if nothing is left behind the leading blanks.
  have whole := flatten_splitBeforeWords (line.dropWhile isBlank)
  unfold words at none
  split at none
  · next same =>
    rw [same] at whole
    exact List.dropWhile_eq_nil_iff.mp whole.symm
  · contradiction

/-- The words of a line are the line. -/
theorem flatten_words {line : List Char} (some : words line ≠ []) :
    (words line).flatten = line := by
  -- The words behind the leading blanks make up the rest of the line.
  have whole := flatten_splitBeforeWords (line.dropWhile isBlank)
  unfold words at some ⊢
  split at some
  · contradiction
  · next word rest same =>
    -- The blanks in front of the line are put before its first word.
    rw [same, List.flatten_cons] at whole
    rw [List.flatten_cons, List.append_assoc, whole, List.takeWhile_append_dropWhile]

theorem flatten_chopFrom (width : Nat) (part cs : List Char) :
    (chopFrom width part cs).flatten = part ++ cs := by
  -- Induction on the characters, with the part that is being filled left open.
  induction cs generalizing part with
  | nil => simp [chopFrom]
  | cons c rest ih =>
    rw [chopFrom]
    split_ifs <;> simp [ih]

theorem chopFrom_ne_nil (width : Nat) (part cs : List Char) : chopFrom width part cs ≠ [] := by
  -- The part that is being filled is given out in the end.
  induction cs generalizing part with
  | nil => simp [chopFrom]
  | cons c rest ih =>
    rw [chopFrom]
    split_ifs
    · simp
    · exact ih _

/-- The parts of a chopped text take at most a number of cells. -/
theorem cells_of_mem_chopFrom {width : Nat} (wide : 2 ≤ width) {part cs : List Char}
    (begun : cells part ≤ width) {piece : List Char} (member : piece ∈ chopFrom width part cs) :
    cells piece ≤ width := by
  -- The part that is begun fits at each character, since one character alone does.
  induction cs generalizing part with
  | nil =>
    rw [chopFrom, List.mem_singleton] at member
    rwa [member]
  | cons c rest ih =>
    have single : cells [c] ≤ width := by
      rw [cells_cons, cells_nil]
      exact Nat.le_trans (cellWidth_le_two c) wide
    rw [chopFrom] at member
    split_ifs at member with beyond
    · rcases List.mem_cons.mp member with same | later
      · rwa [same]
      · exact ih single later
    · refine ih ?_ member
      rw [cells_append, cells_cons, cells_nil]
      omega

/-- A word that fits on no line is cut, and its last part begins a line. -/
theorem placeWords_of_cut {width : Nat} {line word : List Char} (rest : List (List Char))
    (long : width < cells (dropTrailing isBlank word)) :
    placeWords width line (word :: rest) =
      (if line.isEmpty then [] else [line]) ++ (chopFrom width [] word).dropLast
        ++ placeWords width ((chopFrom width [] word).getLast (chopFrom_ne_nil width [] word))
          rest := by
  -- Both tests for a word that fits fail.
  rw [placeWords]
  dsimp only
  rw [if_neg (by omega), if_neg (by omega),
    List.getLast?_eq_some_getLast (chopFrom_ne_nil width [] word), Option.getD_some]

/-- A word that is not cut is put onto the line, or onto a new one. -/
theorem placeWords_of_whole {width : Nat} {line word : List Char} (rest : List (List Char))
    (short : cells (dropTrailing isBlank word) ≤ width) :
    placeWords width line (word :: rest) =
      if cells line + cells (dropTrailing isBlank word) ≤ width then
        placeWords width (line ++ word) rest
      else line :: placeWords width word rest := by
  -- The first test tells that the word fits on a line of its own.
  rw [placeWords]
  dsimp only
  rw [if_pos short]

/-- No character is lost where words are placed on lines. -/
theorem flatten_placeWords (width : Nat) (line : List Char) (words : List (List Char)) :
    (placeWords width line words).flatten = line ++ words.flatten := by
  -- The line that is begun comes before the words that are left, whichever way one is placed.
  induction words generalizing line with
  | nil => simp [placeWords]
  | cons word rest ih =>
    rcases Nat.lt_or_ge width (cells (dropTrailing isBlank word)) with long | short
    · have parts := flatten_chopFrom width [] word
      rw [← List.dropLast_append_getLast (chopFrom_ne_nil width [] word), List.flatten_append,
        List.flatten_singleton, List.nil_append] at parts
      have begun : (if line.isEmpty then [] else [line]).flatten = line := by
        cases line <;> simp
      rw [placeWords_of_cut rest long, List.flatten_append, List.flatten_append, begun, ih,
        List.append_assoc, ← List.append_assoc _ _ rest.flatten, parts, List.flatten_cons]
    · rw [placeWords_of_whole rest short]
      split_ifs <;> simp [ih]

/-- The lines on which words are placed fit, trailing blanks apart. -/
theorem cells_of_mem_placeWords {width : Nat} (wide : 2 ≤ width) {line : List Char}
    {words : List (List Char)} (begun : cells (dropTrailing isBlank line) ≤ width)
    {part : List Char} (member : part ∈ placeWords width line words) :
    cells (dropTrailing isBlank part) ≤ width := by
  -- The line that is begun fits without its trailing blanks whenever a word is placed.
  induction words generalizing line with
  | nil =>
    rw [placeWords, List.mem_singleton] at member
    rwa [member]
  | cons word rest ih =>
    rcases Nat.lt_or_ge width (cells (dropTrailing isBlank word)) with long | short
    · have chopped : ∀ piece ∈ chopFrom width [] word,
          cells (dropTrailing isBlank piece) ≤ width := fun piece among =>
        Nat.le_trans (cells_dropTrailing_le piece)
          (cells_of_mem_chopFrom wide (cells_nil ▸ Nat.zero_le width) among)
      rw [placeWords_of_cut rest long, List.mem_append, List.mem_append] at member
      rcases member with (first | inner) | later
      · have same : part = line := by
          cases line <;> simp_all
        rwa [same]
      · exact chopped part (List.mem_of_mem_dropLast inner)
      · exact ih (chopped _ (List.getLast_mem _)) later
    · rw [placeWords_of_whole rest short] at member
      split_ifs at member with fits
      · exact ih (Nat.le_trans (cells_dropTrailing_append_le line word) fits) member
      · rcases List.mem_cons.mp member with same | later
        · rwa [same]
        · exact ih short later

/-- Words that fit on one line together are placed on it. -/
theorem placeWords_of_le {width : Nat} {line : List Char} {words : List (List Char)}
    (fits : cells line + cells words.flatten ≤ width) :
    placeWords width line words = [line ++ words.flatten] := by
  -- Induction on the words, with what is on the line already left open.
  induction words generalizing line with
  | nil => simp [placeWords]
  | cons word rest ih =>
    have size := cells_dropTrailing_le word
    rw [List.flatten_cons, cells_append] at fits
    rw [placeWords_of_whole rest (by omega), if_pos (by omega), ih (by rw [cells_append]; omega)]
    simp

end Placing

section Wrapping

theorem wrap_of_words {width : Nat} {line : List Char} (some : words line ≠ []) :
    wrap width line = placeWords width [] (words line) := by
  -- The words are not empty, so they are placed.
  unfold wrap
  split
  · contradiction
  · rfl

theorem wrap_of_no_words {width : Nat} {line : List Char} (none : words line = []) :
    wrap width line = [line] := by
  -- The only part is the line itself.
  unfold wrap
  rw [none]

/-- No character is lost where a line is wrapped. -/
theorem flatten_wrap (width : Nat) (line : List Char) : (wrap width line).flatten = line := by
  -- Words are placed in their order, and a line without words is kept.
  by_cases none : words line = []
  · rw [wrap_of_no_words none, List.flatten_singleton]
  · rw [wrap_of_words none, flatten_placeWords, flatten_words none, List.nil_append]

/-- The lines as which a line is wrapped fit, trailing blanks apart. -/
theorem cells_of_mem_wrap {width : Nat} (wide : 2 ≤ width) {line part : List Char}
    (member : part ∈ wrap width line) : cells (dropTrailing isBlank part) ≤ width := by
  -- Placing words keeps every part within the width, and a line without words is blank.
  have empty : cells (dropTrailing isBlank []) ≤ width := Nat.zero_le width
  by_cases none : words line = []
  · have gone := dropTrailing_append_of_blank (isBlank_of_words none) []
    rw [wrap_of_no_words none, List.mem_singleton] at member
    rwa [member, ← List.nil_append line, gone]
  · rw [wrap_of_words none] at member
    exact cells_of_mem_placeWords wide empty member

/-- A line that fits is not broken. -/
theorem wrap_of_le {width : Nat} {line : List Char} (fits : cells line ≤ width) :
    wrap width line = [line] := by
  -- All the words fit on one line, since together they are that line.
  by_cases none : words line = []
  · exact wrap_of_no_words none
  · have whole := flatten_words none
    rw [wrap_of_words none, placeWords_of_le (by rwa [whole, cells_nil, Nat.zero_add]), whole,
      List.nil_append]

end Wrapping

section Cropping

/-- Characters that take no cells together take none each. -/
theorem cellWidth_eq_zero {cs : List Char} (none : cells cs = 0) :
    ∀ c ∈ cs, cellWidth c = 0 := by
  -- Widths are not negative, so every summand is zero.
  induction cs with
  | nil => simp
  | cons first rest ih =>
    rw [cells_cons] at none
    intro c member
    rcases List.mem_cons.mp member with same | later
    · rw [same]
      omega
    · exact ih (by omega) c later

/-- What is cut from a line is blank or takes no cell, if the line fits but for trailing blanks. -/
theorem exists_of_cut {width : Nat} {line core trail shown : List Char} (cut : Cut width line shown)
    (parts : line = core ++ trail) (fits : cells core ≤ width)
    (blank : ∀ c ∈ trail, isBlank c = true) :
    ∃ kept left, line = kept ++ left ∧ (∀ c ∈ left, isBlank c = true ∨ cellWidth c = 0) ∧
      (shown = kept ∨ shown = kept ++ [' ']) ∧ cells shown = width := by
  -- The cut comes behind the part that fits or within it, and in either case there is no cell to
  -- lose.
  cases cut with
  | between left full =>
    refine ⟨shown, left, rfl, ?_, Or.inl rfl, full⟩
    rcases List.append_eq_append_iff.mp parts with ⟨more, longer, same⟩ | ⟨more, longer, same⟩
    · -- What is cut from the part that fits takes no cells.
      have none : cells more = 0 := by
        rw [longer, cells_append] at fits
        omega
      intro c member
      rw [same] at member
      rcases List.mem_append.mp member with first | second
      · exact Or.inr (cellWidth_eq_zero none c first)
      · exact Or.inl (blank c second)
    · exact fun c member => Or.inl (blank c (same ▸ List.mem_append_right more member))
  | @through kept last left wide full =>
    have single : cellWidth ' ' = 1 := cellWidth_of_ascii (by decide) (by decide)
    refine ⟨kept, last :: left, rfl, ?_, Or.inr rfl, by
      rw [cells_append, cells_cons, cells_nil, single, ← full]⟩
    rcases List.append_eq_append_iff.mp parts with ⟨more, longer, same⟩ | ⟨more, longer, same⟩
    · -- The character that is cut through does not fit any more.
      cases more with
      | nil => exact fun c member => Or.inl (blank c (List.nil_append trail ▸ same ▸ member))
      | cons first rest =>
        obtain ⟨rfl, _⟩ := List.cons.inj same
        rw [longer, cells_append, cells_cons] at fits
        omega
    · exact fun c member => Or.inl (blank c (same ▸ List.mem_append_right more member))

/-- A part of a line that fits but for trailing blanks is printed as it is, apart from its end. -/
theorem cropped_cutCells {width : Nat} (wide : 2 < width) {part : List Char}
    (fits : cells (dropTrailing isBlank part) ≤ width)
    (printable : ∀ c ∈ part, c ≠ '\t' ∧ isControl c = false) :
    Cropped width part (cutCells width (cropBlanks width part)) := by
  -- First blanks are cropped and then cells are cut, and neither touches more than the end.
  obtain ⟨blanks, parts, blank, short⟩ := exists_cropBlanks width part
  have margin : ∀ c ∈ part, isBlank c = true ∨ cellWidth c = 0 → isMargin c = true := by
    intro c member empty
    obtain ⟨tabless, uncontrolled⟩ := printable c member
    simp [isMargin, empty, tabless, uncontrolled]
  have size := congrArg cells parts
  rw [cells_append] at size
  rcases Nat.lt_or_ge width (cells (cropBlanks width part)) with long | enough
  · -- The line is cut where its last blanks begin, or among them.
    have trail := dropTrailing_append_blanks (cropBlanks width part)
    have core : cells (dropTrailing isBlank (cropBlanks width part)) ≤ width := by
      rw [parts, dropTrailing_append_of_blank blank] at fits
      exact fits
    obtain ⟨kept, left, same, empty, shown, full⟩ := exists_of_cut (cut_cutCells wide long)
      trail.symm core fun c => isBlank_of_mem_trailing
    refine ⟨Nat.le_of_eq full, fun _ few => by omega, kept, left ++ blanks, ?_, ?_, shown⟩
    · rw [← List.append_assoc, ← same, ← parts]
    · intro c member
      have among : c ∈ part := by
        rw [parts, same, List.append_assoc]
        exact List.mem_append_right kept member
      rcases List.mem_append.mp member with first | second
      · exact margin c among (empty c first)
      · exact margin c among (Or.inl (blank c second))
  · -- The line is not cut, and only what was cropped is missing.
    have kept : cutCells width (cropBlanks width part) = cropBlanks width part := if_pos enough
    rw [kept]
    refine ⟨enough, fun few _ => ?_, _, blanks, parts, fun c member => ?_, Or.inl rfl⟩
    · rw [short few, List.append_nil] at parts
      exact parts.symm
    · exact margin c (parts ▸ List.mem_append_right _ member) (Or.inl (blank c member))

end Cropping

/-- A line without control characters is printed on terminal lines that show it. -/
theorem wrapped_layOut {line : List Char} (uncontrolled : ∀ c ∈ line, isControl c = false) :
    Wrapped lineWidth (expandTabs 0 line) (layOut {} line) := by
  -- The line is wrapped first, and each part is cropped on its own.
  refine ⟨wrap lineWidth (expandTabs 0 line), flatten_wrap _ _, wrap_of_le, ?_⟩
  rw [layOut, if_pos rfl, List.forall₂_map_right_iff, List.forall₂_same]
  intro part member
  refine cropped_cutCells (by decide) (cells_of_mem_wrap (by decide) member) fun c stands => ?_
  -- No tab is left once they are expanded, and no part has other characters than the line.
  have among : c ∈ expandTabs 0 line := by
    rw [← flatten_wrap lineWidth (expandTabs 0 line)]
    exact List.mem_flatten.mpr ⟨part, member, stands⟩
  obtain ⟨tabless, blank | kept⟩ := mem_expandTabs among
  · exact ⟨tabless, by rw [blank]; decide⟩
  · exact ⟨tabless, uncontrolled c kept⟩

section Kept

/-- All that may be missing of a part are characters of its margin. -/
theorem Cropped.filter_eq {width : Nat} {part shown : List Char}
    (cropped : Cropped width part shown) :
    (shown.filter fun c => !isMargin c) = part.filter fun c => !isMargin c := by
  -- What is left over and the blank that is filled in are both margins.
  obtain ⟨kept, left, parts, margin, shows⟩ := cropped.ends
  have gone : (left.filter fun c => !isMargin c) = [] :=
    List.filter_eq_nil_iff.mpr fun c member => by simp [margin c member]
  have blank : ([' '].filter fun c => !isMargin c) = [] := rfl
  rw [parts, List.filter_append, gone, List.append_nil]
  rcases shows with same | filled
  · rw [same]
  · rw [filled, List.filter_append, blank, List.append_nil]

/-- All that may be missing of a line are characters of margins. -/
theorem Wrapped.filter_eq {width : Nat} {line : List Char} {printed : List (List Char)}
    (wrapped : Wrapped width line printed) :
    (printed.flatten.filter fun c => !isMargin c) = line.filter fun c => !isMargin c := by
  -- Induction on the parts of the line, each of which keeps what is no margin.
  obtain ⟨parts, whole, fits, cropped⟩ := wrapped
  rw [← whole]
  clear whole fits
  induction cropped with
  | nil => rfl
  | cons first _ ih =>
    rw [List.flatten_cons, List.flatten_cons, List.filter_append, List.filter_append,
      first.filter_eq, ih]

end Kept

end ModelServing.Console
