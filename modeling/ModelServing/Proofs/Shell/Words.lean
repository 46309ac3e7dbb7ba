import Mathlib.Data.List.Induction
import ModelServing.Shell.Words
import ModelServing.Text.Blank

/-! Words that are written as a line, and the words that a line is read as. -/

namespace ModelServing.Shell

open ModelServing.Text

@[simp] theorem joinWords_nil : joinWords [] = [] := rfl

@[simp] theorem joinWords_singleton (word : List Char) : joinWords [word] = quoteWord word := by
  simp [joinWords]

@[simp] theorem joinWords_cons_cons (word next : List Char) (rest : List (List Char)) :
    joinWords (word :: next :: rest) = quoteWord word ++ ' ' :: joinWords (next :: rest) := by
  simp [joinWords, List.intercalate_cons_cons]

/-- A character that needs no quotation marks neither divides words nor opens a quotation. -/
theorem needsNoMarks_bare {c : Char} (plain : needsNoMarks c = true) :
    isDivider c = false ∧ c ≠ '\'' ∧ c ≠ '"' ∧ c ≠ '\\' := by
  -- None of the characters with a meaning of their own is among the plain ones.
  have apart : ∀ other : Char, needsNoMarks other = false → c ≠ other :=
    fun other marked same => by simp [same, marked] at plain
  refine ⟨?_, apart _ (by decide), apart _ (by decide), apart _ (by decide)⟩
  simp [isDivider, apart ' ' (by decide), apart '\t' (by decide), apart '\n' (by decide)]

/-- Plain characters join the word that was begun. -/
theorem splitFrom_plain {more : List Char} (plain : ∀ c ∈ more, needsNoMarks c = true)
    (word rest : List Char) :
    splitFrom .bare (some word) (more ++ rest) = splitFrom .bare (some (word ++ more)) rest := by
  -- Each of them goes to the end of the word, and nothing else happens.
  induction more generalizing word with
  | nil => simp
  | cons c more ih =>
    obtain ⟨undivided, single, double, backslash⟩ := needsNoMarks_bare (plain c List.mem_cons_self)
    have later := ih (fun d member => plain d (List.mem_cons_of_mem c member)) (word ++ [c])
    simp [splitFrom, extend, undivided, single, double, backslash, later]

/-- Characters between single quotation marks that are not closed yet join the word as they were. -/
theorem splitFrom_quoted (word more rest : List Char) :
    splitFrom .single (some word) (more.flatMap quoteChar ++ rest)
      = splitFrom .single (some (word ++ more)) rest := by
  -- A quotation mark leaves the quotation, stands between double marks, and enters it again.
  induction more generalizing word with
  | nil => simp
  | cons c more ih =>
    by_cases mark : c = '\''
    · subst mark
      simp [quoteChar, splitFrom, extend, isDivider, ih]
    · simp [quoteChar, splitFrom, extend, mark, ih]

/-- Characters written for a place between single quotation marks join the word as they were. -/
theorem splitFrom_single (word more rest : List Char) :
    splitFrom .single (some word) (more.flatMap quoteChar ++ '\'' :: rest)
      = splitFrom .bare (some (word ++ more)) rest := by
  -- The closing mark ends the quotation, and not the word.
  rw [splitFrom_quoted]
  simp [splitFrom]

/-- A quoted word is read as the word. -/
theorem splitFrom_quoteWord (word rest : List Char) :
    splitFrom .bare none (quoteWord word ++ rest) = splitFrom .bare (some word) rest := by
  -- A plain word is read character by character, and any other one between quotation marks.
  unfold quoteWord
  split
  · next plain =>
    -- The first character begins the word.
    rw [Bool.and_eq_true, List.all_eq_true] at plain
    cases word with
    | nil => simp at plain
    | cons c more =>
      have begun : splitFrom .bare none (c :: more ++ rest)
          = splitFrom .bare (some []) (c :: more ++ rest) := by
        obtain ⟨undivided, single, double, backslash⟩ :=
          needsNoMarks_bare (plain.2 c List.mem_cons_self)
        simp [splitFrom, extend, undivided, single, double, backslash]
      rw [begun, splitFrom_plain plain.2, List.nil_append]
  · -- The opening mark begins the word, and the closing one ends the quotation.
    simpa [splitFrom, isDivider] using splitFrom_single [] word rest

/-- A line of quoted words is read as these words. -/
theorem splitWords?_joinWords (words : List (List Char)) :
    splitWords? (joinWords words ++ ['\n']) = some words := by
  -- A blank ends every word but the last, which the line feed ends.
  unfold splitWords?
  induction words with
  | nil => simp [splitFrom, isDivider]
  | cons word rest ih =>
    cases rest with
    | nil => simp [splitFrom_quoteWord, splitFrom, isDivider]
    | cons next more =>
      rw [joinWords_cons_cons, List.append_assoc, splitFrom_quoteWord]
      simp [splitFrom, isDivider, ih]

/-- What was read and may yet belong to the word. -/
def Quotation.held : Quotation → List Char
  | .doubleEscaped => ['\\']
  | _ => []

/-- What the first character of a line does: it divides words, or goes on with the reading, where no
more characters may yet belong to the word than it had and this one. -/
theorem splitFrom_step {quotation : Quotation} {word : Option (List Char)} {c : Char}
    {rest : List Char} {words : List (List Char)}
    (split : splitFrom quotation word (c :: rest) = some words) :
    (quotation = .bare ∧ isDivider c = true ∧
      ∃ later, splitFrom .bare none rest = some later ∧ words = word.toList ++ later) ∨
    ∃ next begun, splitFrom next begun rest = some words ∧
      (begun.getD [] ++ next.held).Sublist (word.getD [] ++ quotation.held ++ [c]) := by
  -- Only a bare character divides words; any other step drops the character, adds it to the word,
  -- or, for a backslash between double marks, holds it back until the next one.
  cases quotation with
  | bare =>
    simp only [splitFrom] at split
    split_ifs at split with divides
    · obtain ⟨later, read, same⟩ := Option.map_eq_some_iff.mp split
      exact Or.inl ⟨rfl, divides, later, read, same.symm⟩
    all_goals exact Or.inr ⟨_, _, split, by simp [Quotation.held, extend]⟩
  | escaped | single | double | doubleEscaped =>
    simp only [splitFrom] at split
    split_ifs at split <;>
      exact Or.inr ⟨_, _, split, by simp_all [Quotation.held, extend]⟩

/-- The characters of the words that a line is read as stand in the line, in this order. -/
theorem sublist_of_splitFrom {quotation : Quotation} {word : Option (List Char)} {line : List Char}
    {words : List (List Char)} (split : splitFrom quotation word line = some words) :
    words.flatten.Sublist (word.getD [] ++ quotation.held ++ line) := by
  -- The word that was begun ends at a divider, and the rest of the line is read into other words.
  induction line generalizing quotation word words with
  | nil =>
    simp only [splitFrom] at split
    split_ifs at split
    cases split
    cases word <;> simp
  | cons c rest ih =>
    rcases splitFrom_step split with ⟨rfl, _, later, read, rfl⟩ | ⟨next, begun, read, step⟩
    · have first : word.toList.flatten = word.getD [] := by cases word <;> simp
      rw [List.flatten_append, first, List.append_assoc]
      exact (List.Sublist.refl _).append ((ih read).cons c)
    · simpa using (ih read).trans (step.append (List.Sublist.refl rest))

/-- What was read of a word is the beginning of the first word that comes of it. -/
theorem prefix_of_splitFrom {quotation : Quotation} {word line : List Char}
    {words : List (List Char)} (split : splitFrom quotation (some word) line = some words) :
    ∃ first later, words = first :: later ∧ word <+: first := by
  -- Every character is dropped, added to the end of the word, or ends it.
  induction line generalizing quotation word with
  | nil =>
    simp only [splitFrom] at split
    split_ifs at split
    exact ⟨word, [], (Option.some.inj split).symm, List.prefix_rfl⟩
  | cons c rest ih =>
    have longer : ∀ {next : Quotation} {begun : List Char}, word <+: begun →
        splitFrom next (some begun) rest = some words →
          ∃ first later, words = first :: later ∧ word <+: first := by
      intro next begun grown read
      obtain ⟨first, later, same, long⟩ := ih read
      exact ⟨first, later, same, grown.trans long⟩
    cases quotation with
    | bare =>
      simp only [splitFrom] at split
      split_ifs at split with divides
      · obtain ⟨later, -, same⟩ := Option.map_eq_some_iff.mp split
        exact ⟨word, later, same.symm, List.prefix_rfl⟩
      all_goals exact longer (by simp) split
    | escaped | single | double | doubleEscaped =>
      simp only [splitFrom] at split
      split_ifs at split <;> exact longer (by simp [extend]) split

section Blanks

/-- No character that needs no quotation marks is blank. -/
theorem isBlank_of_needsNoMarks {c : Char} (plain : needsNoMarks c = true) : isBlank c = false := by
  -- The plain characters are in ASCII, where all blanks come before them.
  have blankless : ∀ point < 127, 32 < point →
      (inRanges whiteRanges point || inRanges [(0x1C, 0x1F)] point) = false := by decide
  have within : 32 < c.toNat ∧ c.toNat < 127 := by
    have signs : "_@%+=:,./-".toList.all (fun sign => 32 < sign.toNat && sign.toNat < 127) = true := by
      decide
    rw [needsNoMarks, Bool.or_eq_true, List.contains_iff_mem] at plain
    rcases plain with letter | sign
    · have ranges : (65 ≤ c.toNat ∧ c.toNat ≤ 90 ∨ 97 ≤ c.toNat ∧ c.toNat ≤ 122) ∨
          48 ≤ c.toNat ∧ c.toNat ≤ 57 := by
        delta Char.isAlphanum Char.isAlpha Char.isUpper Char.isLower Char.isDigit at letter
        simpa [UInt32.le_iff_toNat_le] using letter
      omega
    · simpa using List.all_eq_true.mp signs c sign
  exact blankless c.toNat within.2 within.1

variable {b : Char} (blank : isBlank b = true)
include blank

/-- Only a blank itself is written with a blank. -/
theorem quoteChar_of_blank {c : Char} (member : b ∈ quoteChar c) : quoteChar c = [b] := by
  -- A quotation mark is the only character that is written with others.
  unfold quoteChar at member ⊢
  split_ifs at member ⊢ with mark
  · -- What is written for a quotation mark is searched.
    have none : "'\"'\"'".toList.any isBlank = false := by decide
    rw [List.any_eq_false] at none
    exact absurd blank (none b member)
  · rw [List.mem_singleton.mp member]

/-- What stands before a blank between quotation marks was written for whole characters. -/
theorem exists_flatMap_quoteChar {word start rest : List Char}
    (text : word.flatMap quoteChar ++ ['\''] = start ++ b :: rest) :
    ∃ begun : List Char, start = begun.flatMap quoteChar := by
  -- Induction on the word, of which one character after the other is written.
  have unmarked : b ≠ '\'' := fun same => by
    rw [same] at blank
    cases blank
  induction word generalizing start with
  | nil =>
    -- The closing mark alone holds no blank.
    have member : b ∈ ['\''] := by
      rw [show ['\''] = _ from text]
      exact List.mem_append_right start List.mem_cons_self
    exact absurd (List.mem_singleton.mp member) unmarked
  | cons c more ih =>
    rw [List.flatMap_cons, List.append_assoc] at text
    rcases List.append_eq_append_iff.mp text with ⟨later, same, behind⟩ | ⟨part, same, behind⟩
    · obtain ⟨begun, rfl⟩ := ih behind
      exact ⟨c :: begun, by rw [same, List.flatMap_cons]⟩
    · cases part with
      | nil => exact ⟨[c], by simpa using same.symm⟩
      | cons d part =>
        -- The blank was written for this character, and nothing else was.
        obtain ⟨rfl, -⟩ := List.cons.inj behind
        have alone := quoteChar_of_blank blank (c := c) (by simp [same])
        rw [alone] at same
        have length := congrArg List.length same
        have empty : start = [] := List.length_eq_zero_iff.mp (by simp at length; omega)
        exact ⟨[], empty⟩

/-- Before a blank in a word that is quoted, a reader is between quotation marks. -/
theorem quoted_before_blank {word start rest : List Char}
    (text : quoteWord word = start ++ b :: rest) :
    ∃ begun, ∀ line, splitFrom .bare none (start ++ line) = splitFrom .single (some begun) line := by
  -- The blank stands between the marks, and what is in front of it there was written for whole
  -- characters.
  unfold quoteWord at text
  split at text
  · next plain =>
    -- A plain word holds no blanks.
    rw [Bool.and_eq_true, List.all_eq_true] at plain
    have needs := plain.2 b (text ▸ List.mem_append_right start List.mem_cons_self)
    rw [isBlank_of_needsNoMarks needs] at blank
    cases blank
  · cases start with
    | nil =>
      obtain ⟨rfl, -⟩ := List.cons.inj text
      cases blank
    | cons c more =>
      obtain ⟨rfl, within⟩ := List.cons.inj text
      obtain ⟨begun, rfl⟩ := exists_flatMap_quoteChar blank within
      exact ⟨begun, fun line => by simp [splitFrom, isDivider, splitFrom_quoted]⟩

/-- A line of words does not begin with a blank. -/
theorem joinWords_ne_cons_blank (word : List Char) (words : List (List Char))
    (tail rest : List Char) : joinWords (word :: words) ++ tail ≠ b :: rest := by
  -- Every word is written with at least one character, and none begins with a blank.
  intro same
  obtain ⟨more, parts⟩ : ∃ more, joinWords (word :: words) ++ tail = quoteWord word ++ more := by
    cases words <;> simp
  rw [parts] at same
  cases quoted : quoteWord word with
  | nil =>
    -- Even the empty word is written with quotation marks.
    unfold quoteWord at quoted
    split at quoted <;> simp_all
  | cons c written =>
    rw [quoted, List.cons_append, List.cons.injEq] at same
    obtain ⟨rfl, -⟩ := same
    obtain ⟨begun, reads⟩ := @quoted_before_blank c blank word [] written quoted
    -- A reader that has read nothing is not between quotation marks.
    have nothing := reads []
    simp [splitFrom] at nothing

/-- Before two blanks in a line of words, a reader is between quotation marks. -/
theorem quoted_before_blanks {words : List (List Char)} {start rest : List Char} {c : Char}
    (next : isBlank c = true) (text : joinWords words ++ ['\n'] = start ++ b :: c :: rest) :
    ∃ done begun, ∀ line, splitFrom .bare none (start ++ line)
      = (splitFrom .single (some begun) line).map (done ++ ·) := by
  -- Two words have one blank between them, and the line feed stands alone behind the last one.
  induction words generalizing start with
  | nil =>
    have length := congrArg List.length text
    simp at length
    omega
  | cons word words ih =>
    have behind : ∀ later, joinWords (word :: words) ++ ['\n']
        = quoteWord word ++ (later ++ b :: c :: rest) → ∃ done begun, ∀ line,
          splitFrom .bare none (quoteWord word ++ later ++ line)
            = (splitFrom .single (some begun) line).map (done ++ ·) := by
      intro later parts
      cases words with
      | nil =>
        have length := congrArg List.length parts
        simp at length
        omega
      | cons other more =>
        rw [joinWords_cons_cons, List.append_assoc, List.append_cancel_left_eq] at parts
        cases later with
        | nil =>
          obtain ⟨-, first⟩ := List.cons.inj parts
          exact absurd first (joinWords_ne_cons_blank next other more ['\n'] rest)
        | cons d later =>
          obtain ⟨rfl, text⟩ := List.cons.inj parts
          obtain ⟨done, begun, reads⟩ := ih text
          refine ⟨word :: done, begun, fun line => ?_⟩
          rw [List.append_assoc, splitFrom_quoteWord]
          simp [splitFrom, isDivider, reads, Function.comp_def]
    obtain ⟨tail, parts⟩ : ∃ tail, joinWords (word :: words) ++ ['\n'] = quoteWord word ++ tail := by
      cases words <;> simp
    rcases List.append_eq_append_iff.mp (parts.symm.trans text) with
      ⟨later, rfl, same⟩ | ⟨part, same, rest⟩
    · exact behind later (by rw [parts, same])
    · cases part with
      | nil =>
        obtain ⟨done, begun, reads⟩ := behind [] (by rw [parts, List.nil_append, rest]; rfl)
        exact ⟨done, begun, fun line => by simpa [same] using reads line⟩
      | cons d part =>
        obtain ⟨rfl, -⟩ := List.cons.inj rest
        obtain ⟨begun, reads⟩ := quoted_before_blank blank same
        exact ⟨[], begun, fun line => by simp [reads]⟩

/-- Where a line of words has two blanks, its words are not read from a line that has another blank
in the place of the first one. -/
theorem blank_of_read {words : List (List Char)} {start rest other : List Char} {c d : Char}
    (next : isBlank c = true) (instead : isBlank d = true)
    (text : joinWords words ++ ['\n'] = start ++ b :: c :: rest)
    (read : splitWords? (start ++ d :: other) = some words) : d = b := by
  -- The place belongs to a word, in which the same characters come before it on both lines.
  obtain ⟨done, begun, reads⟩ := quoted_before_blanks blank next text
  have begins : ∀ e line, isBlank e = true → splitWords? (start ++ e :: line) = some words →
      ∃ first later, words = done ++ first :: later ∧ begun ++ [e] <+: first := by
    intro e line empty whole
    have unmarked : e ≠ '\'' := fun same => by
      rw [same] at empty
      cases empty
    rw [splitWords?, reads, Option.map_eq_some_iff] at whole
    obtain ⟨behind, split, rfl⟩ := whole
    simp only [splitFrom, beq_iff_eq, unmarked, if_false, extend, Option.getD_some] at split
    obtain ⟨first, later, rfl, long⟩ := prefix_of_splitFrom split
    exact ⟨first, later, rfl, long⟩
  obtain ⟨first, later, same, long⟩ :=
    begins b (c :: rest) blank (text ▸ splitWords?_joinWords words)
  obtain ⟨again, more, equal, longer⟩ := begins d other instead read
  obtain ⟨rfl, -⟩ := List.cons.inj (List.append_cancel_left (equal.symm.trans same))
  have ends := List.prefix_of_prefix_length_le longer long (by simp)
  simpa using ends

end Blanks

section Counts

variable {p : Char → Bool} (single : p '\'' = false) (double : p '"' = false)
include single double

/-- Quoting a word adds nothing but quotation marks. -/
theorem countP_quoteWord (word : List Char) : (quoteWord word).countP p = word.countP p := by
  -- A mark in the word becomes five marks, none of which counts.
  have marked : (word.flatMap quoteChar).countP p = word.countP p := by
    induction word with
    | nil => rfl
    | cons c rest ih =>
      rw [List.flatMap_cons, List.countP_append, ih, List.countP_cons]
      by_cases mark : c = '\''
      · subst mark
        simp [quoteChar, single, double]
      · simp [quoteChar, mark, List.countP_cons, Nat.add_comm]
  unfold quoteWord
  split
  · rfl
  · simp [single, marked]

/-- A line of words holds what its words hold, quotation marks and blanks apart. -/
theorem countP_joinWords (blank : p ' ' = false) (words : List (List Char)) :
    (joinWords words).countP p = words.flatten.countP p := by
  -- Every word after the first comes with the blank before it.
  induction words with
  | nil => rfl
  | cons word rest ih =>
    cases rest with
    | nil => simp [countP_quoteWord single double]
    | cons next more =>
      rw [joinWords_cons_cons, List.countP_append, countP_quoteWord single double,
        List.countP_cons_of_neg (by simp [blank]), ih, List.flatten_cons (l := word),
        List.countP_append]

end Counts

end ModelServing.Shell
