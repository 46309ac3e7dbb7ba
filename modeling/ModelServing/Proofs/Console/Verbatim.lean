import ModelServing.Proofs.Console.Markup
import ModelServing.Proofs.Console.Shown

/-! Which texts a terminal shows as they are although they are read as markup. -/

namespace ModelServing.Console

/-- What a text has to be like if markup is to mean nothing but the text itself. -/
structure Literal (cs : List Char) : Prop where
  /-- There is no tag in it, neither with backslashes before it nor without. -/
  untagged : ∀ rest, rest <:+ cs → tag? rest = none
  /-- No opening bracket follows a backslash. -/
  unescaped : ¬['\\', '['] <:+: cs
  /-- It holds no name between colons that stands for a pictograph. -/
  unnamed : expandShortcodes cs = cs
  /-- It holds neither tabs nor characters that are never printed. -/
  printable : ∀ c ∈ cs, c ≠ '\t' ∧ isControl c = false

section Literal

/-- Marks can be seen. -/
theorem marks_filter (cs : List Char) : marks (cs.filter isFirm) = marks cs := by
  -- Both marks are characters of ASCII, which can be seen.
  have bracket : isFirm '[' = true := isFirm_of_ascii (by decide) (by decide)
  have backslash : isFirm '\\' = true := isFirm_of_ascii (by decide) (by decide)
  rw [marks, List.countP_filter]
  refine List.countP_congr fun c _ => ?_
  simp only [isPlain, Bool.and_eq_true, Bool.not_eq_true', Bool.and_eq_false_iff,
    bne_eq_false_iff_eq, and_iff_left_iff_imp]
  rintro (same | same)
  · rw [same, backslash]
  · rw [same, bracket]

/-- No text is shown with more colons than it has. -/
theorem colons_shownText_le (cs : List Char) :
    (shownText (pieces cs)).count ':' ≤ cs.count ':' := by
  -- Neither the reading as markup nor the replacing of names adds a colon.
  have within := (plainText_piecesFrom_sublist [] cs).count_le ':'
  rw [List.nil_append] at within
  exact Nat.le_trans (count_shownText_le (pieces cs)) within

/-- A text that is shown with all its colons is shown without replacing a name. -/
theorem shownText_of_colons {cs : List Char}
    (colons : cs.count ':' ≤ (shownText (pieces cs)).count ':') :
    shownText (pieces cs) = plainText (pieces cs) := by
  -- A replaced name would have cost two colons.
  have within := (plainText_piecesFrom_sublist [] cs).count_le ':'
  rw [List.nil_append] at within
  refine (shownText_cases (pieces cs)).resolve_right fun fewer => ?_
  exact absurd (Nat.lt_of_lt_of_le fewer within) (Nat.not_lt.mpr colons)

/-- No text has more marks than there are left when it is read as markup. -/
theorem marks_plainText_le (cs : List Char) : marks (plainText (pieces cs)) ≤ marks cs := by
  -- What is left of a text is a part of it.
  have within := (plainText_piecesFrom_sublist [] cs).countP_le (p := fun c => !isPlain c)
  rwa [List.nil_append] at within

/-- A text is literal if it can be printed, and is shown with all its colons and marks. -/
theorem literal_of_counts {cs : List Char} (printable : ∀ c ∈ cs, c ≠ '\t' ∧ isControl c = false)
    (colons : cs.count ':' ≤ (shownText (pieces cs)).count ':')
    (marked : marks cs ≤ marks (plainText (pieces cs))) : Literal cs := by
  -- Names that are replaced cost colons, and tags and escaped brackets cost marks.
  have unnamed := shownText_of_colons colons
  rcases piecesFrom_cases [] cs with untagged | fewer
  · have piece : pieces cs = plainPiece cs := piecesFrom_of_untagged untagged []
    have shown : shownText (plainPiece cs) = expandShortcodes (unescapeBrackets cs) := by
      cases cs <;> simp [plainPiece, shownText, unescapeBrackets, expandShortcodes]
    rw [piece, plainText_plainPiece] at marked
    rw [piece, plainText_plainPiece, shown] at unnamed
    rcases unescapeBrackets_cases cs with ⟨kept, unescaped⟩ | fewer
    · rw [kept] at unnamed
      exact ⟨untagged, unescaped, unnamed, printable⟩
    · omega
  · rw [List.nil_append] at fewer
    exact absurd fewer (Nat.not_lt.mpr marked)

/-- A literal text is shown as it is. -/
theorem showPieces_of_literal {cs : List Char} (literal : Literal cs) (opened : List Tag)
    (rest : List Piece) :
    showPieces opened (pieces cs ++ rest) = (showPieces opened rest).map (cs ++ ·) := by
  -- A literal text is a single piece, which is left out if it is empty.
  have piece : pieces cs = plainPiece cs := piecesFrom_of_untagged literal.untagged []
  rw [piece]
  cases cs with
  | nil =>
    rw [plainPiece, if_pos List.isEmpty_nil, List.nil_append]
    cases showPieces opened rest <;> rfl
  | cons c more =>
    rw [plainPiece, if_neg (by simp), List.singleton_append, showPieces,
      unescapeBrackets_eq literal.unescaped, literal.unnamed]
    cases showPieces opened rest <;> rfl

/-- Characters can be printed if each of them is found to be neither a tab nor a control. -/
theorem printable_of_all {cs : List Char}
    (all : cs.all (fun c => c != '\t' && !isControl c) = true) :
    ∀ c ∈ cs, c ≠ '\t' ∧ isControl c = false := by
  -- The conditions are one test, which can be decided for a given text.
  simpa using all

/-- No tag begins in a text without opening brackets. -/
theorem untagged_of_unopened {cs : List Char} (unopened : '[' ∉ cs) :
    ∀ rest, rest <:+ cs → tag? rest = none := by
  -- A tag that begins at some place of the text has a bracket there.
  intro rest ending
  cases found : tag? rest with
  | none => rfl
  | some tag =>
    -- A tag would hold its opening bracket.
    obtain ⟨count, body, after⟩ := tag
    obtain ⟨parts, _⟩ := eq_append_of_tag? found
    exact absurd (ending.subset (by rw [parts]; simp)) unopened

/-- A text without opening brackets is literal if it can be printed and holds no known names. -/
theorem literal_of_unopened {cs : List Char} (unopened : '[' ∉ cs)
    (unnamed : expandShortcodes cs = cs) (printable : ∀ c ∈ cs, c ≠ '\t' ∧ isControl c = false) :
    Literal cs :=
  -- Both tags and escaped brackets need an opening bracket.
  ⟨untagged_of_unopened unopened, fun within => unopened (within.subset (by simp)), unnamed, printable⟩

/-- A blank in front changes nothing. -/
theorem literal_cons_blank_iff {cs : List Char} : Literal (' ' :: cs) ↔ Literal cs := by
  -- Each of the four conditions is the same for both texts.
  have other : expandShortcodes (' ' :: cs) = ' ' :: expandShortcodes cs :=
    expandShortcodes_of_other (by decide) cs
  constructor
  · rintro ⟨untagged, unescaped, unnamed, printable⟩
    refine ⟨fun rest ending => untagged rest (ending.trans (List.suffix_cons ' ' cs)),
      fun within => unescaped (List.infix_cons within), ?_,
      fun c member => printable c (List.mem_cons_of_mem ' ' member)⟩
    exact (List.cons.inj (other.symm.trans unnamed)).2
  · -- A blank begins neither a tag nor an escaped bracket.
    rintro ⟨untagged, unescaped, unnamed, printable⟩
    refine ⟨fun rest ending => ?_, fun within => ?_, by rw [other, unnamed], fun c member => ?_⟩
    · rcases List.suffix_cons_iff.mp ending with same | later
      · rw [same]
        exact tag?_of_plain (by decide) cs
      · exact untagged rest later
    · rcases List.infix_cons_iff.mp within with front | later
      · simp at front
      · exact unescaped later
    · rcases List.mem_cons.mp member with same | later
      · rw [same]
        decide
      · exact printable c later

/-- What is shown of a literal text on its own. -/
theorem showPieces_pieces_of_literal {cs : List Char} (literal : Literal cs) :
    showPieces [] (pieces cs) = .ok cs := by
  -- A literal text on its own is the case of no further pieces.
  have alone := showPieces_of_literal literal [] []
  have none : showPieces [] [] = .ok [] := rfl
  rwa [List.append_nil, none, Except.map, List.append_nil] at alone

end Literal

section Enclosed

/-- Characters are some that do not end with a backslash, and backslashes behind them. -/
theorem exists_backslashes (cs : List Char) :
    ∃ base count, cs = base ++ List.replicate count '\\' ∧ ¬EndsEscaping base := by
  -- Induction from the end, where the backslashes are.
  induction cs using List.reverseRecOn with
  | nil => exact ⟨[], 0, rfl, by simp [EndsEscaping]⟩
  | append_singleton front c ih =>
    -- A backslash is one more of those at the end; any other character ends them.
    by_cases backslash : c = '\\'
    · obtain ⟨base, count, rfl, whole⟩ := ih
      refine ⟨base, count + 1, ?_, whole⟩
      rw [backslash, List.append_assoc, ← List.replicate_succ']
    · exact ⟨front ++ [c], 0, by simp, by simpa [EndsEscaping] using backslash⟩

/-- What the name of a style has to be like that is opened and closed by tags. -/
structure IsStyleName (name : List Char) : Prop where
  begins : (name.head?.map beginsTag).getD false = true
  inside : name.all isTagChar = true
  opens : tagPiece name = .opening { name }
  closes : tagPiece ('/' :: name) = .closing name
  normal : Style.normalName name = .ok name
  checked : checkTag { name } = .ok ()

/-- A text of which all is in a style, in markup. -/
def enclosed (name cs : List Char) : List Char :=
  '[' :: name ++ ']' :: (cs ++ '[' :: '/' :: name ++ [']'])

/-- Brackets around what can be the inside of a tag make a tag, with the backslashes before it. -/
theorem tag?_of_inside {body : List Char} (begins : (body.head?.map beginsTag).getD false = true)
    (inside : body.all isTagChar = true) (count : Nat) (rest : List Char) :
    tag? (List.replicate count '\\' ++ '[' :: (body ++ ']' :: rest)) = some (count, body, rest) := by
  -- The backslashes are counted, and then the inside is read up to the bracket that closes the tag.
  rw [List.all_eq_true] at inside
  have backslashes : ∀ c ∈ List.replicate count '\\', (c == '\\') = true := fun c member => by
    rw [List.eq_of_mem_replicate member]
    decide
  have stop : ('[' :: (body ++ ']' :: rest)).takeWhile (· == '\\') = [] := rfl
  have start : ('[' :: (body ++ ']' :: rest)).dropWhile (· == '\\') = '[' :: (body ++ ']' :: rest) := rfl
  have first : ((body ++ ']' :: rest).head?.map beginsTag).getD false = true := by
    cases body with
    | nil => cases begins
    | cons c more => exact begins
  have read : tagBody? (body ++ ']' :: rest) = some (body, rest) := by
    rw [tagBody?, if_pos first, List.dropWhile_append_of_pos inside,
      List.takeWhile_append_of_pos inside]
    have closed : isTagChar ']' = false := rfl
    simp [closed]
  rw [tag?, List.dropWhile_append_of_pos backslashes, List.takeWhile_append_of_pos backslashes, stop,
    start]
  simp [read]

variable {name : List Char}

/-- The pieces of a text in a style. -/
theorem IsStyleName.pieces_enclosed (named : IsStyleName name) {base : List Char}
    (whole : ¬EndsEscaping base) (count : Nat) :
    pieces (enclosed name (base ++ List.replicate count '\\'))
      = .opening { name } :: (pieces base ++ tagPieces count ('/' :: name)) := by
  -- The opening tag is read first, and the closing one behind the pieces of the text.
  have opens : ∀ cs : List Char, tag? ('[' :: name ++ ']' :: cs) = some (0, name, cs) :=
    tag?_of_inside named.begins named.inside 0
  have slashed : ('/' :: name).all isTagChar = true := named.inside
  have closes := @tag?_of_inside ('/' :: name) rfl slashed count []
  have shape : base ++ List.replicate count '\\' ++ '[' :: '/' :: name ++ [']']
      = base ++ (List.replicate count '\\' ++ '[' :: ('/' :: name ++ ']' :: [])) := by simp
  have inner := piecesFrom_append whole closes []
  rw [piecesFrom_nil, plainPiece, if_pos List.isEmpty_nil, List.append_nil] at inner
  have first : tagPieces 0 name = [.opening { name }] := by
    rw [← named.opens]
    rfl
  rw [pieces, enclosed, piecesFrom_of_tag [] (opens _), shape, inner, first]
  rfl

/-- What is shown for a text in a style. -/
theorem IsStyleName.showMarkup_enclosed (named : IsStyleName name) {base : List Char}
    (whole : ¬EndsEscaping base) (count : Nat) :
    showMarkup (enclosed name (base ++ List.replicate count '\\'))
      = showPieces [{ name }] (pieces base ++ tagPieces count ('/' :: name)) := by
  -- The opening tag is read first, and puts itself among the open ones.
  have marked : (enclosed name (base ++ List.replicate count '\\')).contains '[' = true := rfl
  rw [showMarkup, if_pos marked, named.pieces_enclosed whole, showPieces, named.normal]
  rfl

/-- The tag that ends a text in a style can be shown, whether backslashes keep it as it is or
not. -/
theorem IsStyleName.exists_showPieces_closing (named : IsStyleName name) (count : Nat) :
    ∃ shown, showPieces [{ name }] (tagPieces count ('/' :: name)) = .ok shown := by
  -- What the backslashes leave is a text or the closing tag, depending on whether their number is
  -- odd.
  have nonempty : name.isEmpty = false := by
    cases name with
    | nil => cases named.begins
    | cons c rest => rfl
  have final : ∃ shown, showPieces [{ name }]
      [if count % 2 == 1 then .plain ('[' :: '/' :: name ++ [']']) else tagPiece ('/' :: name)]
        = .ok shown := by
    by_cases odd : count % 2 = 1
    · -- The tag is a text then, and what was opened stays open.
      by_cases handler : name.head? = some '@' <;>
        simp [odd, showPieces, handler, named.checked, bind, Except.bind, pure, Except.pure]
    · simp [odd, named.closes, showPieces, nonempty, named.normal, close?, named.checked, bind,
        Except.bind, pure, Except.pure]
  obtain ⟨shown, told⟩ := final
  by_cases few : count < 2
  · exact ⟨shown, by rw [tagPieces, if_pos few, List.nil_append, told]⟩
  · exact ⟨_, by
      rw [tagPieces, if_neg few, List.singleton_append, showPieces, told]
      rfl⟩

/-- A text without opening brackets can be displayed in a style. -/
theorem IsStyleName.exists_display_enclosed (named : IsStyleName name) {text : List Char}
    (unopened : '[' ∉ text) :
    ∃ printed, display {} (String.ofList (enclosed name text)) = .ok printed := by
  -- Without opening brackets, the only tags are the two of the style.
  obtain ⟨base, count, rfl, whole⟩ := exists_backslashes text
  obtain ⟨shown, told⟩ := named.exists_showPieces_closing count
  -- The text itself is one piece that is shown, if it is not empty.
  have piece : pieces base = plainPiece base :=
    piecesFrom_of_untagged (untagged_of_unopened fun within => unopened (by simp [within])) []
  have marked : ∃ all, showMarkup (enclosed name (base ++ List.replicate count '\\')) = .ok all := by
    rw [named.showMarkup_enclosed whole, piece]
    cases base with
    | nil => exact ⟨shown, told⟩
    | cons c rest =>
      exact ⟨_, by
        rw [plainPiece, if_neg (by simp), List.singleton_append, showPieces, told]
        rfl⟩
  obtain ⟨all, marked⟩ := marked
  exact ⟨laidOut all, by rw [display_marked, String.toList_ofList, marked]; rfl⟩

end Enclosed

section Dimmed

/-- The attribute of hints. -/
def dim : List Char := ['d', 'i', 'm']

/-- A text of which all is dim, in markup. -/
def dimmed (cs : List Char) : List Char := '[' :: dim ++ ']' :: (cs ++ '[' :: '/' :: dim ++ [']'])

/-- What is shown for a dim text. -/
theorem showMarkup_dimmed {base : List Char} (whole : ¬EndsEscaping base) (count : Nat) :
    showMarkup (dimmed (base ++ List.replicate count '\\'))
      = showPieces [{ name := dim }] (pieces base ++ tagPieces count ('/' :: dim)) := by
  -- Dim is a style name like any other.
  have named : IsStyleName dim := ⟨rfl, rfl, rfl, rfl, rfl, rfl⟩
  exact named.showMarkup_enclosed whole count

/-- The pieces inside of a dim text that ends with backslashes. -/
def dimPieces (base : List Char) (count : Nat) : List Piece :=
  pieces base ++ tagPieces count ('/' :: dim)

theorem plainText_dimPieces (base : List Char) (count : Nat) :
    plainText (dimPieces base count) = plainText (pieces base) ++
      (List.replicate (count / 2) '\\' ++
        if count % 2 = 1 then '[' :: '/' :: dim ++ [']'] else []) := by
  -- The pieces are those of the text and those of the tag that closes it.
  have unopened : '[' ∉ '/' :: dim := by decide
  rw [dimPieces, plainText_append, plainText_tagPieces unopened]

/-- What is left of a dim text holds no more colons than the text. -/
theorem colons_dimPieces_le (base : List Char) (count : Nat) :
    (plainText (dimPieces base count)).count ':'
      ≤ (base ++ List.replicate count '\\').count ':' := by
  -- Only the text itself can contribute colons.
  have within := (plainText_piecesFrom_sublist [] base).count_le ':'
  -- The closing tag has no colons, even if it is escaped and thus shown.
  have closing : (if count % 2 = 1 then '[' :: '/' :: dim ++ [']'] else []).count ':' = 0 := by
    split_ifs <;> decide
  rw [List.nil_append] at within
  rw [plainText_dimPieces, List.count_append, List.count_append, List.count_append, closing, pieces]
  simpa [List.count_replicate] using within

/-- What is left of a dim text holds no more marks than the text. -/
theorem marks_dimPieces_le (base : List Char) (count : Nat) :
    marks (plainText (dimPieces base count)) ≤ marks (base ++ List.replicate count '\\') := by
  -- The marks of the text do not grow, and the backslashes at its end are halved.
  have within := marks_plainText_le base
  -- An escaped closing tag has one mark, which is what its backslash has cost.
  have closing : marks (if count % 2 = 1 then '[' :: '/' :: dim ++ [']'] else []) = count % 2 := by
    split_ifs with odd
    · rw [odd]
      decide
    · rw [show count % 2 = 0 by omega]
      decide
  rw [plainText_dimPieces, marks_append, marks_append, marks_append, marks_replicate,
    marks_replicate, closing]
  omega

/-- A dim text of which all marks are shown does not end with backslashes, unless its end is shown
otherwise. -/
theorem literal_of_dimPieces {base : List Char} {count : Nat} (even : count % 2 = 0)
    (printable : ∀ c ∈ base, c ≠ '\t' ∧ isControl c = false)
    (colons : (base ++ List.replicate count '\\').count ':'
      ≤ (shownText (dimPieces base count)).count ':')
    (marked : marks (base ++ List.replicate count '\\')
      ≤ marks (plainText (dimPieces base count))) : count = 0 ∧ Literal base := by
  -- Marks go with every tag, with every escaped bracket and with half of the backslashes, so none
  -- of these was there.
  have within := marks_plainText_le base
  rw [plainText_dimPieces, if_neg (by omega), List.append_nil, marks_append, marks_append,
    marks_replicate, marks_replicate] at marked
  -- Half of the backslashes are gone, so that there were none.
  have none : count = 0 := by omega
  subst none
  have gone : shownText (tagPieces 0 ('/' :: dim)) = [] := rfl
  rw [dimPieces, shownText_append, gone, List.append_nil, List.replicate_zero,
    List.append_nil] at colons
  exact ⟨rfl, literal_of_counts printable colons (by omega)⟩

end Dimmed

/-- A short text is printed as it is if it can be printed and means only itself. -/
theorem display_short {text : String} (unopened : '[' ∉ text.toList)
    (unnamed : expandShortcodes text.toList = text.toList)
    (printable : ∀ c ∈ text.toList, c ≠ '\t' ∧ isControl c = false) (single : '\n' ∉ text.toList)
    (short : 2 * text.toList.length ≤ lineWidth) : display {} text = .ok (text ++ "\n") := by
  -- Twice as many cells are enough for any characters, so a short text is a line that fits.
  have few : text.toList.length ≤ lineWidth := by omega
  have fits : cells text.toList ≤ lineWidth := Nat.le_trans (cells_le _) short
  have shown : showMarkup text.toList = .ok text.toList := by
    rw [showMarkup, if_neg (by simpa using unopened), unnamed]
  have shows := shows_laidOut printable
  rw [String.ofList_toList] at shows
  rw [display_marked, shown, Except.map, shows.eq_of_short single few fits]

section Account

/-- What a word has to be like that is a heading, if markup is to mean nothing but the word. -/
structure IsHeading (word : List Char) : Prop where
  some : word ≠ []
  plain : ∀ c ∈ word, isPlain c = true
  unnamed : expandShortcodes word = word
  printable : ∀ c ∈ word, c ≠ '\t' ∧ isControl c = false

variable {word text hint : List Char}

/-- What is printed for a text with a heading. -/
theorem display_redHeading (heading : IsHeading word) (text : List Char) :
    display {} (String.ofList (redHeading word text))
      = (showPieces [] (pieces text)).map fun shown => laidOut (word ++ shown) := by
  -- The heading comes out as its word, and the text behind it is read as markup of its own.
  rw [display_marked, String.toList_ofList, showMarkup_redHeading heading.plain heading.some,
    heading.unnamed]
  cases showPieces [] (pieces text) <;> rfl

/-- A literal text with a heading is shown as it is. -/
theorem exists_display_redHeading (heading : IsHeading word) (literal : Literal text) :
    ∃ printed, display {} (String.ofList (redHeading word text)) = .ok printed ∧
      Shows lineWidth printed (String.ofList (word ++ text)) := by
  -- The characters of the word can be printed, and those of the text as well.
  rw [display_redHeading heading, showPieces_pieces_of_literal literal]
  refine ⟨_, rfl, shows_laidOut fun c member => ?_⟩
  rcases List.mem_append.mp member with first | second
  · exact heading.printable c first
  · exact literal.printable c second

/-- What is printed for a dim text that ends with backslashes. -/
theorem display_dimmed {base : List Char} (whole : ¬EndsEscaping base) (count : Nat) :
    display {} (String.ofList (dimmed (base ++ List.replicate count '\\')))
      = (showPieces [{ name := dim }] (dimPieces base count)).map laidOut := by
  -- The text without its backslashes is what the pieces of the style are about.
  rw [display_marked, String.toList_ofList, showMarkup_dimmed whole, dimPieces]

/-- A literal text that is dim is shown as it is, unless it ends with a backslash. -/
theorem exists_display_dimmed (literal : Literal hint) (whole : ¬EndsEscaping hint) :
    ∃ printed, display {} (String.ofList (dimmed hint)) = .ok printed ∧
      Shows lineWidth printed (String.ofList hint) := by
  -- Without backslashes at its end, the text is closed by a tag that is one.
  have shown := display_dimmed whole 0
  have ending : showPieces [{ name := dim }] (tagPieces 0 ('/' :: dim)) = .ok [] := rfl
  rw [List.replicate_zero, List.append_nil, dimPieces, showPieces_of_literal literal, ending,
    Except.map, List.append_nil] at shown
  exact ⟨_, shown, shows_laidOut literal.printable⟩

/-- A text with a heading is shown as it is exactly if it is literal. -/
theorem display_redHeading_iff (heading : IsHeading word) :
    (∃ printed, display {} (String.ofList (redHeading word text)) = .ok printed ∧
      Shows lineWidth printed (String.ofList (word ++ text))) ↔ Literal text := by
  -- What can be seen of both texts is the same, so neither a colon nor a mark was lost, and that
  -- makes a text literal.
  refine ⟨?_, exists_display_redHeading heading⟩
  rintro ⟨printed, displayed, shows⟩
  rw [display_redHeading heading] at displayed
  cases told : showPieces [] (pieces text) with
  | error fault =>
    rw [told] at displayed
    cases displayed
  | ok shown =>
    rw [told] at displayed
    rw [← Except.ok.inj displayed] at shows
    obtain ⟨printable, same⟩ := shows.seen (filter_laidOut _)
    rw [String.toList_ofList] at printable same
    rw [List.filter_append, List.filter_append, List.append_cancel_left_eq, eq_shownText told]
      at same
    -- What can be seen has as many colons and marks as the text.
    have colon : isFirm ':' = true := isFirm_of_ascii (by decide) (by decide)
    have colons := congrArg (List.count ':') same
    have marked := congrArg marks same
    rw [List.count_filter colon, List.count_filter colon] at colons
    rw [marks_filter, marks_filter, shownText_of_colons (Nat.le_of_eq colons)] at marked
    exact literal_of_counts (fun c member => printable c (List.mem_append_right word member))
      (Nat.le_of_eq colons) (Nat.le_of_eq marked)

/-- Of backslashes at the end of a dim text, there is not an odd number if the last character that
can be seen is the last one of the text. -/
theorem even_of_seen {base front before : List Char} {count : Nat}
    (same : (front ++ (base ++ List.replicate count '\\')).filter isFirm
      = (before ++ plainText (dimPieces base count)).filter isFirm) : count % 2 = 0 := by
  -- Otherwise the closing tag would be escaped, and its bracket would come last.
  by_contra odd
  obtain ⟨fewer, rfl⟩ : ∃ fewer, count = fewer + 1 := ⟨count - 1, by omega⟩
  have backslash : isFirm '\\' = true := isFirm_of_ascii (by decide) (by decide)
  have bracket : isFirm ']' = true := isFirm_of_ascii (by decide) (by decide)
  have last := congrArg List.getLast? same
  rw [plainText_dimPieces, if_pos (by omega), List.replicate_succ'] at last
  simp only [← List.append_assoc] at last
  rw [List.filter_append, List.filter_append _ [']'], List.filter_cons_of_pos backslash,
    List.filter_cons_of_pos bracket] at last
  simp at last

/-- A text and a dim text are literal if they can be printed, and what can be seen of them is
seen. -/
theorem literal_of_seen {base : List Char} {count : Nat}
    (printable : ∀ c ∈ text, c ≠ '\t' ∧ isControl c = false)
    (behind : ∀ c ∈ base, c ≠ '\t' ∧ isControl c = false)
    (same : (text ++ (base ++ List.replicate count '\\')).filter isFirm
      = (shownText (pieces text) ++ shownText (dimPieces base count)).filter isFirm) :
    Literal text ∧ count = 0 ∧ Literal base := by
  -- Neither of the texts may have lost a colon, and neither may have lost a mark then.
  have colon : isFirm ':' = true := isFirm_of_ascii (by decide) (by decide)
  have colons : text.count ':' + (base ++ List.replicate count '\\').count ':'
      = (shownText (pieces text)).count ':' + (shownText (dimPieces base count)).count ':' := by
    rw [← List.count_append, ← List.count_append, ← List.count_filter colon, same,
      List.count_filter colon]
  have fewer := colons_shownText_le text
  have left := colons_dimPieces_le base count
  have shown := count_shownText_le (dimPieces base count)
  have unnamed : shownText (pieces text) = plainText (pieces text) :=
    shownText_of_colons (by omega)
  have unnamedHint := (shownText_cases (dimPieces base count)).resolve_right (by omega)
  rw [unnamed, unnamedHint] at same
  have marked : marks text + marks (base ++ List.replicate count '\\')
      = marks (plainText (pieces text)) + marks (plainText (dimPieces base count)) := by
    rw [← marks_append, ← marks_append, ← marks_filter, same, marks_filter]
  have textMarks := marks_plainText_le text
  have hintMarks := marks_dimPieces_le base count
  exact ⟨literal_of_counts printable (by omega) (by omega),
    literal_of_dimPieces (even_of_seen same) behind (by omega) (by omega)⟩

/-- A text with a heading and a dim text behind it are shown as they are exactly if both are literal
and the dim text does not end with a backslash. -/
theorem display_both_iff (heading : IsHeading word) :
    (∃ printed later, display {} (String.ofList (redHeading word text)) = .ok printed ∧
      display {} (String.ofList (dimmed hint)) = .ok later ∧
      Shows lineWidth (printed ++ later)
        (String.ofList (word ++ text) ++ "\n" ++ String.ofList hint)) ↔
      Literal text ∧ Literal hint ∧ ¬EndsEscaping hint := by
  -- Colons and marks are counted for both texts together, since they are displayed one behind the
  -- other.
  constructor
  · rintro ⟨printed, later, displayed, behind, shows⟩
    obtain ⟨base, count, rfl, whole⟩ := exists_backslashes hint
    rw [display_redHeading heading] at displayed
    rw [display_dimmed whole] at behind
    cases told : showPieces [] (pieces text) with
    | error fault =>
      rw [told] at displayed
      cases displayed
    | ok shown =>
      cases hinted : showPieces [{ name := dim }] (dimPieces base count) with
      | error fault =>
        rw [hinted] at behind
        cases behind
      | ok dimly =>
        rw [told] at displayed
        rw [hinted] at behind
        rw [← Except.ok.inj displayed, ← Except.ok.inj behind] at shows
        have seen : ((laidOut (word ++ shown) ++ laidOut dimly).toList.filter fun c => !isMargin c)
            = (word ++ (shown ++ dimly)).filter isFirm := by
          rw [String.toList_append, List.filter_append, filter_laidOut, filter_laidOut,
            ← List.filter_append, List.append_assoc]
        obtain ⟨printable, same⟩ := shows.seen seen
        -- The heading is seen in front of both, and the line feed between them is not seen.
        have characters : (String.ofList (word ++ text) ++ "\n"
            ++ String.ofList (base ++ List.replicate count '\\')).toList
              = word ++ (text ++ '\n' :: (base ++ List.replicate count '\\')) := by
          simp
        have feed : isFirm '\n' = false := rfl
        rw [characters] at printable same
        rw [List.filter_append, List.filter_append word, List.append_cancel_left_eq,
          List.filter_append, List.filter_cons_of_neg (by simp [feed]), ← List.filter_append,
          eq_shownText told, eq_shownText hinted] at same
        obtain ⟨literal, rfl, literalHint⟩ := literal_of_seen
          (fun c member => printable c (by simp [member]))
          (fun c member => printable c (by simp [member])) same
        rw [List.replicate_zero, List.append_nil]
        exact ⟨literal, literalHint, whole⟩
  · rintro ⟨literal, literalHint, whole⟩
    obtain ⟨printed, displayed, shows⟩ := exists_display_redHeading heading literal
    obtain ⟨later, behind, shown⟩ := exists_display_dimmed literalHint whole
    exact ⟨printed, later, displayed, behind, shows.append shown⟩

end Account

end ModelServing.Console
