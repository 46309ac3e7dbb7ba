import Mathlib.Data.List.Basic
import Mathlib.Data.List.TakeDrop
import ModelServing.Console.Display
import ModelServing.Proofs.Console.Shortcode

/-! What is printed for a text that is shown without markup and without breaking its lines. -/

namespace ModelServing.Console

open ModelServing.Text

section Cropping

/-- A text is what is left of it without its trailing blanks, and these blanks. -/
theorem dropTrailing_append_blanks (part : List Char) :
    dropTrailing isBlank part ++ (part.reverse.takeWhile isBlank).reverse = part := by
  -- The characters are split, from the end, into the blanks and the rest.
  rw [dropTrailing, ← List.reverse_append, List.takeWhile_append_dropWhile, List.reverse_reverse]

theorem isBlank_of_mem_trailing {part : List Char} {c : Char}
    (member : c ∈ (part.reverse.takeWhile isBlank).reverse) : isBlank c = true :=
  -- These characters were taken because they are blanks.
  List.all_eq_true.mp List.all_takeWhile c (List.mem_reverse.mp member)

/-- Only blanks are cropped, and only from a line with too many characters. -/
theorem exists_cropBlanks (width : Nat) (part : List Char) :
    ∃ blanks, part = cropBlanks width part ++ blanks ∧ (∀ c ∈ blanks, isBlank c = true) ∧
      (part.length ≤ width → blanks = []) := by
  -- Cropping takes a prefix, so what is lost is what is dropped behind it.
  let trail := (part.reverse.takeWhile isBlank).reverse
  let count := part.length - min (part.reverse.takeWhile isBlank).length (part.length - width)
  have parts : dropTrailing isBlank part ++ trail = part := dropTrailing_append_blanks part
  have size : (dropTrailing isBlank part).length + trail.length = part.length := by
    rw [← List.length_append, parts]
  have same : trail.length = (part.reverse.takeWhile isBlank).length := List.length_reverse
  -- At most as many characters are cropped as there are trailing blanks.
  have cropped : (dropTrailing isBlank part).length ≤ count := by omega
  refine ⟨part.drop count, (List.take_append_drop count part).symm, fun c member => ?_,
    fun short => List.drop_eq_nil_of_le (by omega)⟩
  rw [← parts, List.drop_append, List.drop_eq_nil_of_le cropped, List.nil_append] at member
  exact isBlank_of_mem_trailing (List.mem_of_mem_drop member)

end Cropping

section Unbroken

/-- What is printed of a line that is not broken. -/
def unbroken (crops : Bool) (line : List Char) : List Char :=
  if crops then cropBlanks lineWidth line else line

/-- Nothing is missing of such a line but blanks at its end. -/
theorem exists_unbroken (crops : Bool) (line : List Char) :
    ∃ blanks, line = unbroken crops line ++ blanks ∧ ∀ c ∈ blanks, isBlank c = true := by
  -- They are the ones that are cropped, if any are.
  cases crops with
  | false => exact ⟨[], (List.append_nil line).symm, by simp⟩
  | true =>
    obtain ⟨blanks, parts, blank, -⟩ := exists_cropBlanks lineWidth line
    exact ⟨blanks, parts, blank⟩

/-- No more is printed of such a line than there is. -/
theorem unbroken_sublist (crops : Bool) (line : List Char) : (unbroken crops line).Sublist line := by
  -- What is printed is the beginning of the line.
  obtain ⟨blanks, parts, -⟩ := exists_unbroken crops line
  exact (List.prefix_append _ blanks).sublist.trans (parts ▸ List.Sublist.refl line)

/-- Such a line is printed as it is exactly if it fits or does not end with a blank, unless nothing
is cropped anyway. -/
theorem unbroken_eq_self_iff (crops : Bool) (line : List Char) :
    unbroken crops line = line ↔
      (crops = true → line.length ≤ lineWidth ∨ ∀ c ∈ line.getLast?, isBlank c = false) := by
  -- Nothing is lost if the prefix that is taken is the whole, and its length tells that.
  cases crops with
  | false => simp [unbroken]
  | true =>
    have trail : (line.reverse.takeWhile isBlank).length = 0 ↔
        ∀ c ∈ line.getLast?, isBlank c = false := by
      rw [← List.head?_reverse]
      cases line.reverse <;> simp [List.takeWhile_cons]
    simp only [unbroken, if_true, forall_const, cropBlanks, List.take_eq_self_iff, ← trail]
    omega

theorem layOut_unbroken {manner : Manner} (whole : manner.wrapped = false) (line : List Char) :
    layOut manner line = [unbroken manner.cropped (expandTabs 0 line)] := by
  -- Without wrapping, a line is one part, which is cropped at most.
  unfold layOut unbroken
  rw [whole]
  cases manner.cropped <;> rfl

end Unbroken

/-- The characters that are printed for a text without markup, whose lines are not broken. -/
def plainly (crops : Bool) (cs : List Char) : List Char :=
  (((expandShortcodes cs).filter fun c => !isControl c).splitOn '\n').flatMap fun line =>
    unbroken crops (expandTabs 0 line) ++ ['\n']

theorem display_plainly {manner : Manner} (plain : manner.markup = false)
    (whole : manner.wrapped = false) (text : String) :
    display manner text = .ok (String.ofList (plainly manner.cropped text.toList)) := by
  -- Without markup the text is displayed line by line, and both sides are written out.
  simp [display, shownChars, plain, layOut_unbroken whole, plainly, Except.map, List.flatMap_assoc]

theorem expandTabs_of_ne {c : Char} (other : c ≠ '\t') (column : Nat) (rest : List Char) :
    expandTabs column (c :: rest) = c :: expandTabs (column + cellWidth c) rest := by
  -- The tab has a case of its own, and this is the other one.
  rw [expandTabs]
  exact other

/-- Without tabs there is nothing to replace. -/
theorem expandTabs_of_not_mem {line : List Char} (absent : '\t' ∉ line) (column : Nat) :
    expandTabs column line = line := by
  -- Each character is kept, whatever the column that it is reached at.
  induction line generalizing column with
  | nil => rfl
  | cons c rest ih =>
    rw [List.mem_cons, not_or] at absent
    rw [expandTabs_of_ne (Ne.symm absent.1), ih absent.2]

/-- Tabs are replaced by blanks, and the other characters are kept. -/
theorem mem_expandTabs {line : List Char} {column : Nat} {c : Char}
    (member : c ∈ expandTabs column line) : c ≠ '\t' ∧ (c = ' ' ∨ c ∈ line) := by
  -- Induction on the line: a tab gives blanks, and any other character itself.
  induction line generalizing column with
  | nil => simp [expandTabs] at member
  | cons first rest ih =>
    by_cases tab : first = '\t'
    · subst tab
      rcases List.mem_append.mp member with blank | later
      · have same := List.eq_of_mem_replicate blank
        exact ⟨by simp [same], Or.inl same⟩
      · exact ⟨(ih later).1, (ih later).2.imp id (List.mem_cons_of_mem _)⟩
    · rw [expandTabs_of_ne tab, List.mem_cons] at member
      rcases member with same | later
      · exact ⟨same ▸ tab, Or.inr (same ▸ List.mem_cons_self)⟩
      · exact ⟨(ih later).1, (ih later).2.imp id (List.mem_cons_of_mem _)⟩

/-- The blanks for tabs bring in no colons. -/
theorem count_expandTabs (line : List Char) (column : Nat) :
    (expandTabs column line).count ':' = line.count ':' := by
  -- Induction on the line: neither a tab nor the blanks for it are colons.
  induction line generalizing column with
  | nil => rfl
  | cons first rest ih =>
    by_cases tab : first = '\t'
    · subst tab
      simp [expandTabs, ih, List.count_replicate]
    · rw [expandTabs_of_ne tab, List.count_cons, List.count_cons, ih]

/-- Neither tabs nor control characters are printed. -/
theorem of_mem_plainly {crops : Bool} {cs : List Char} {c : Char} (member : c ∈ plainly crops cs) :
    c ≠ '\t' ∧ isControl c = false := by
  -- A character is a line feed, a blank for a tab, or one that was not filtered out.
  obtain ⟨line, among, member⟩ := List.mem_flatMap.mp member
  rcases List.mem_append.mp member with member | feed
  · obtain ⟨tabless, blank | member⟩ := mem_expandTabs ((unbroken_sublist crops _).subset member)
    · exact ⟨tabless, by subst blank; decide⟩
    · have stands := (sublist_of_mem_splitOn among).subset member
      exact ⟨tabless, by simpa using (List.mem_filter.mp stands).2⟩
  · rw [List.mem_singleton.mp feed]
    decide

/-- Printing brings in no colons. -/
theorem count_plainly (crops : Bool) (cs : List Char) :
    (plainly crops cs).count ':' ≤ (expandShortcodes cs).count ':' := by
  -- Line by line, tabs only become blanks, and nothing else is added but line feeds.
  have lines : ∀ lines : List (List Char),
      (lines.flatMap fun line => unbroken crops (expandTabs 0 line) ++ ['\n']).count ':'
        ≤ (lines.flatMap (· ++ ['\n'])).count ':' := by
    intro lines
    induction lines with
    | nil => exact Nat.le_refl 0
    | cons line rest ih =>
      have kept := (unbroken_sublist crops (expandTabs 0 line)).count_le ':'
      rw [count_expandTabs] at kept
      simp only [List.flatMap_cons, List.count_append]
      omega
  have shown := (List.filter_sublist (p := fun c => !isControl c)
    (l := expandShortcodes cs)).count_le ':'
  refine Nat.le_trans (lines _) ?_
  rw [flatMap_splitOn, List.count_append]
  simpa using shown

/-- Characters that hold no tabs, no controls and no known names are printed as they are, but for
what is cropped of their lines. -/
theorem plainly_of_printable {cs : List Char} (tabless : '\t' ∉ cs)
    (uncontrolled : ∀ c ∈ cs, isControl c = false) (unnamed : expandShortcodes cs = cs)
    (crops : Bool) :
    plainly crops cs = (cs.splitOn '\n').flatMap fun line => unbroken crops line ++ ['\n'] := by
  -- Each of the three conditions makes one step of the display do nothing.
  have kept : (cs.filter fun c => !isControl c) = cs :=
    List.filter_eq_self.mpr fun c member => by simp [uncontrolled c member]
  rw [plainly, unnamed, kept]
  refine List.flatMap_congr fun line member => ?_
  rw [expandTabs_of_not_mem fun tab => tabless ((sublist_of_mem_splitOn member).subset tab)]

end ModelServing.Console
