import ModelServing.Proofs.Console.Wrapping

/-! What can be seen of a text on a terminal. -/

namespace ModelServing.Console

open ModelServing.Text

/-- Whether what is printed on a terminal shows a text character for character, apart from where its
lines are broken. At the end of a line that is too long, blanks may be missing, and so may
characters that take no cell, such as an accent that is to be put on the last one. -/
def Shows (width : Nat) (printed text : String) : Prop :=
  ∃ blocks, List.Forall₂ (Wrapped width) (text.toList.splitOn '\n') blocks ∧
    printed.toList = blocks.flatten.flatMap (· ++ ['\n'])

/-- Texts that are shown one after the other are shown as their lines are. -/
theorem Shows.append {width : Nat} {printed text later rest : String}
    (first : Shows width printed text) (second : Shows width later rest) :
    Shows width (printed ++ later) (text ++ "\n" ++ rest) := by
  -- The line feed between the texts ends a line of the first, so the lines of both are put
  -- together.
  obtain ⟨blocks, wrapped, same⟩ := first
  obtain ⟨others, behind, equal⟩ := second
  refine ⟨blocks ++ others, ?_, ?_⟩
  · have parts : (text ++ "\n" ++ rest).toList = text.toList ++ '\n' :: rest.toList := by
      simp
    rw [parts, List.splitOn_append_cons_self]
    exact List.rel_append wrapped behind
  · rw [String.toList_append, same, equal, List.flatten_append, List.flatMap_append]

/-- A text of one line that fits is shown as it is. -/
theorem Shows.eq_of_short {width : Nat} {printed text : String} (shows : Shows width printed text)
    (single : '\n' ∉ text.toList) (few : text.toList.length ≤ width)
    (fits : cells text.toList ≤ width) : printed = text ++ "\n" := by
  -- A text without line feeds is one line, and a line that fits has one part.
  obtain ⟨blocks, wrapped, same⟩ := shows
  rw [List.splitOn_eq_singleton single, List.forall₂_cons_left_iff] at wrapped
  obtain ⟨block, rest, ⟨parts, _, whole, cropped⟩, none, rfl⟩ := wrapped
  -- The one line is one part, which is printed on one terminal line.
  rw [whole fits, List.forall₂_cons_left_iff] at cropped
  obtain ⟨shown, more, first, ended, rfl⟩ := cropped
  rw [List.forall₂_nil_left_iff.mp none, List.forall₂_nil_left_iff.mp ended,
    first.whole few fits] at same
  rw [← String.toList_inj, same]
  simp

section Firm

/-- Whether a character can be seen: it is no blank, and takes a cell. -/
def isFirm (c : Char) : Bool := !isBlank c && cellWidth c != 0

/-- Characters of ASCII that are printed can be seen, but for the blank. -/
theorem isFirm_of_ascii {c : Char} (above : 32 < c.toNat) (below : c.toNat < 127) :
    isFirm c = true := by
  -- The ranges of blanks are compared with every code point below the bound, by evaluation.
  have stands : ∀ point < 127, 32 < point →
      (inRanges whiteRanges point || inRanges [(0x1C, 0x1F)] point) = false := by decide
  rw [isFirm, cellWidth_of_ascii (Nat.le_of_lt above) below, isBlank, isWhite,
    stands c.toNat below above]
  rfl

/-- Tabs and characters that are never printed cannot be seen. -/
theorem printable_of_isFirm {c : Char} (firm : isFirm c = true) :
    c ≠ '\t' ∧ isControl c = false := by
  -- If the character was a tab or a control, then its width would be zero.
  have size : cellWidth c ≠ 0 := by
    simp only [isFirm, Bool.and_eq_true, bne_iff_ne] at firm
    exact firm.2
  -- All of them take no cells.
  have none : ∀ point ∈ [9, 7, 8, 11, 12, 13], inRanges zeroWidth point = true := by decide
  have other : c.toNat ∉ [9, 7, 8, 11, 12, 13] := fun member =>
    size (by rw [cellWidth, if_pos (none _ member)])
  rw [List.mem_cons, not_or] at other
  refine ⟨fun tab => other.1 (by rw [tab]; rfl), ?_⟩
  simpa [isControl] using other.2

/-- What is no margin can be seen, or is not printed at all. -/
theorem not_isMargin (c : Char) :
    (!isMargin c) = (isFirm c || c == '\t' || isControl c) := by
  -- The same four tests decide both sides, so their results are tried out.
  rw [isMargin, isFirm, bne, bne]
  cases isBlank c <;> cases cellWidth c == 0 <;> cases c == '\t' <;> cases isControl c <;> rfl

/-- Of characters that can be printed, all but margins can be seen. -/
theorem filter_not_isMargin {cs : List Char}
    (printable : ∀ c ∈ cs, c ≠ '\t' ∧ isControl c = false) :
    (cs.filter fun c => !isMargin c) = cs.filter isFirm := by
  -- Printable characters fail the last two tests of the previous statement.
  refine List.filter_congr fun c member => ?_
  obtain ⟨tabless, uncontrolled⟩ := printable c member
  rw [not_isMargin, uncontrolled, beq_eq_false_iff_ne.mpr tabless, Bool.or_false, Bool.or_false]

/-- Blanks for tabs cannot be seen. -/
theorem filter_expandTabs (line : List Char) (column : Nat) :
    (expandTabs column line).filter isFirm = line.filter isFirm := by
  -- Induction on the line: a tab cannot be seen, and neither can its blanks.
  have tabless : isFirm '\t' = false := rfl
  have blank : isFirm ' ' = false := rfl
  induction line generalizing column with
  | nil => rfl
  | cons first rest ih =>
    by_cases tab : first = '\t'
    · subst tab
      rw [expandTabs, List.filter_append, ih, List.filter_cons_of_neg (by simp [tabless])]
      simp [blank]
    · rw [expandTabs_of_ne tab, List.filter_cons, List.filter_cons, ih]

end Firm

section Display

/-- What is printed for characters that are shown. -/
def laidOut (shown : List Char) : String :=
  String.ofList ((((shown.filter fun c => !isControl c).splitOn '\n').flatMap
    (layOut {})).flatMap (· ++ ['\n']))

theorem display_marked (text : String) :
    display {} text = (showMarkup text.toList).map laidOut := by
  -- Markup, wrapping and cropping are on by default.
  simp only [display, shownChars, if_true]
  cases showMarkup text.toList <;> rfl

/-- Characters that can all be printed are shown as they are. -/
theorem shows_laidOut {shown : List Char}
    (printable : ∀ c ∈ shown, c ≠ '\t' ∧ isControl c = false) :
    Shows lineWidth (laidOut shown) (String.ofList shown) := by
  -- The lines of the text are the lines that are laid out, once nothing has been taken out of it.
  have kept : (shown.filter fun c => !isControl c) = shown :=
    List.filter_eq_self.mpr fun c member => by simp [(printable c member).2]
  refine ⟨(shown.splitOn '\n').map (layOut {}), ?_, ?_⟩
  · -- Each line is wrapped on its own, and has no tabs to expand.
    rw [String.toList_ofList, List.forall₂_map_right_iff, List.forall₂_same]
    intro line member
    have within := (sublist_of_mem_splitOn member).subset
    have wrapped := wrapped_layOut fun c stands => (printable c (within stands)).2
    rwa [expandTabs_of_not_mem fun tab => (printable _ (within tab)).1 rfl] at wrapped
  · rw [laidOut, kept, String.toList_ofList, List.flatMap_def (f := layOut {})]

variable {test : Char → Bool}

/-- Characters of lines that are not line feeds are those of the lines with line feeds after
them. -/
theorem filter_flatMap_feed (other : test '\n' = false) (lines : List (List Char)) :
    (lines.flatMap (· ++ ['\n'])).filter test = lines.flatten.filter test := by
  -- Induction on the lines; each line feed fails the test.
  have gone : ['\n'].filter test = [] := List.filter_cons_of_neg (by simp [other])
  induction lines with
  | nil => rfl
  | cons first rest ih =>
    rw [List.flatMap_cons, List.filter_append, List.filter_append, gone, ih, List.append_nil,
      List.flatten_cons, List.filter_append]

/-- Characters of a text that are not line feeds are those of its lines. -/
theorem filter_flatten_splitOn (other : test '\n' = false) (cs : List Char) :
    (cs.splitOn '\n').flatten.filter test = cs.filter test := by
  -- Putting the line feeds back gives the text, with one more at its end.
  have gone : ['\n'].filter test = [] := List.filter_cons_of_neg (by simp [other])
  rw [← filter_flatMap_feed other, flatMap_splitOn, List.filter_append, gone, List.append_nil]

/-- All that may be missing of lines are characters of margins. -/
theorem filter_of_wrapped {width : Nat} {lines : List (List Char)}
    {blocks : List (List (List Char))} (wrapped : List.Forall₂ (Wrapped width) lines blocks) :
    (blocks.flatten.flatten.filter fun c => !isMargin c)
      = lines.flatten.filter fun c => !isMargin c := by
  -- Induction on the lines, each of which keeps what is no margin.
  induction wrapped with
  | nil => rfl
  | cons first _ ih =>
    rw [List.flatten_cons, List.flatten_append, List.filter_append, first.filter_eq, ih,
      List.flatten_cons, List.filter_append]

theorem isMargin_feed : isMargin '\n' = true := rfl

/-- What is printed of a text that is shown are its characters, but for margins. -/
theorem Shows.filter_eq {width : Nat} {printed text : String} (shows : Shows width printed text) :
    (printed.toList.filter fun c => !isMargin c) = text.toList.filter fun c => !isMargin c := by
  -- The line feeds that a terminal adds are margins themselves.
  have feed : (!isMargin '\n') = false := by rw [isMargin_feed, Bool.not_true]
  obtain ⟨blocks, wrapped, same⟩ := shows
  rw [same, filter_flatMap_feed feed, filter_of_wrapped wrapped, filter_flatten_splitOn feed]

/-- What is printed for characters are those that can be seen, but for margins. -/
theorem filter_laidOut (shown : List Char) :
    ((laidOut shown).toList.filter fun c => !isMargin c) = shown.filter isFirm := by
  -- Controls are taken out first and tabs are expanded then; what is left can be printed, so that
  -- margins are all that is lost.
  have feed : (!isMargin '\n') = false := by rw [isMargin_feed, Bool.not_true]
  let proper := shown.filter fun c => !isControl c
  let lines := proper.splitOn '\n'
  have uncontrolled : ∀ line ∈ lines, ∀ c ∈ line, isControl c = false := by
    intro line among c member
    simpa using (List.mem_filter.mp ((sublist_of_mem_splitOn among).subset member)).2
  have wrapped : List.Forall₂ (Wrapped lineWidth) (lines.map (expandTabs 0))
      (lines.map (layOut {})) := by
    rw [List.forall₂_map_left_iff, List.forall₂_map_right_iff, List.forall₂_same]
    exact fun line among => wrapped_layOut (uncontrolled line among)
  have printable : ∀ c ∈ (lines.map (expandTabs 0)).flatten, c ≠ '\t' ∧ isControl c = false := by
    intro c member
    obtain ⟨line, among, stands⟩ := List.mem_flatMap.mp (List.flatMap_def ▸ member)
    obtain ⟨tabless, blank | kept⟩ := mem_expandTabs stands
    · exact ⟨tabless, by rw [blank]; decide⟩
    · exact ⟨tabless, uncontrolled line among c kept⟩
  -- From what is printed back to what is shown: the wrapping, the tabs, the lines, the controls.
  calc (laidOut shown).toList.filter (fun c => !isMargin c)
      = (lines.map (layOut {})).flatten.flatten.filter fun c => !isMargin c := by
        rw [laidOut, String.toList_ofList, filter_flatMap_feed feed, List.flatMap_def]
    _ = (lines.map (expandTabs 0)).flatten.filter isFirm := by
        rw [filter_of_wrapped wrapped, filter_not_isMargin printable]
    _ = lines.flatten.filter isFirm := by
        simp only [List.filter_flatten, List.map_map, Function.comp_def, filter_expandTabs]
    _ = proper.filter isFirm := filter_flatten_splitOn rfl proper
    _ = shown.filter isFirm := by
        rw [List.filter_filter]
        refine List.filter_congr fun c _ => ?_
        cases firm : isFirm c
        · rfl
        · simp [(printable_of_isFirm firm).2]

/-- If what is printed shows a text, then the text can be printed, and what can be seen of it is
what can be seen on the terminal. -/
theorem Shows.seen {width : Nat} {printed text : String} {shown : List Char}
    (shows : Shows width printed text)
    (seen : (printed.toList.filter fun c => !isMargin c) = shown.filter isFirm) :
    (∀ c ∈ text.toList, c ≠ '\t' ∧ isControl c = false) ∧
      text.toList.filter isFirm = shown.filter isFirm := by
  -- A character that is no margin can be seen on the terminal, and all that is seen there can be
  -- printed.
  have same := shows.filter_eq
  rw [seen] at same
  -- Margins can be printed, and all else in the text can be seen on the terminal.
  have printable : ∀ c ∈ text.toList, c ≠ '\t' ∧ isControl c = false := by
    intro c member
    by_cases margin : isMargin c = true
    · have parts : (isBlank c = true ∨ cellWidth c = 0) ∧ c ≠ '\t' ∧ isControl c = false := by
        simpa [isMargin, and_assoc] using margin
      exact parts.2
    · have stands : c ∈ shown.filter isFirm := by
        rw [same]
        exact List.mem_filter.mpr ⟨member, by simpa using margin⟩
      exact printable_of_isFirm (List.mem_filter.mp stands).2
  exact ⟨printable, by rw [← filter_not_isMargin printable, same]⟩

end Display

end ModelServing.Console
