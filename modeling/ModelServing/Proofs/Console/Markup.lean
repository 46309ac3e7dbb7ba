import Mathlib.Data.List.TakeWhile
import ModelServing.Proofs.Console.Heading

/-! What is left of a text when it is read as markup. -/

namespace ModelServing.Console

section Pieces

/-- The characters that pieces are made of, tags apart. -/
def plainText (pieces : List Piece) : List Char :=
  -- Tags are shown in no way of their own.
  pieces.flatMap fun
    | .plain cs => unescapeBrackets cs
    | _ => []

/-- These characters as they are shown. -/
def shownText (pieces : List Piece) : List Char :=
  -- Each piece is expanded on its own, so that no name reaches over a tag.
  pieces.flatMap fun
    | .plain cs => expandShortcodes (unescapeBrackets cs)
    | _ => []

theorem plainText_append (first second : List Piece) :
    plainText (first ++ second) = plainText first ++ plainText second :=
  -- Both are mapped piece by piece.
  List.flatMap_append

theorem shownText_append (first second : List Piece) :
    shownText (first ++ second) = shownText first ++ shownText second :=
  -- Both are mapped piece by piece.
  List.flatMap_append

/-- Steps one after the other give a result if each of them does. -/
theorem exists_of_bind_eq_ok {ε α β : Type} {first : Except ε α} {next : α → Except ε β} {b : β}
    (done : first >>= next = .ok b) : ∃ a, first = .ok a ∧ next a = .ok b := by
  -- A failed first step would be the result.
  cases first with
  | error fault => cases done
  | ok a => exact ⟨a, rfl, done⟩

/-- Pieces that are shown at all are shown without their tags. -/
theorem eq_shownText {opened : List Tag} {pieces : List Piece} {shown : List Char}
    (told : showPieces opened pieces = .ok shown) : shown = shownText pieces := by
  -- Tags can only fail, and each plain piece is in front of what follows it.
  induction pieces generalizing opened shown with
  | nil =>
    rw [showPieces] at told
    obtain ⟨_, _, told⟩ := exists_of_bind_eq_ok told
    exact (Except.ok.inj told).symm
  | cons piece rest ih =>
    cases piece with
    | plain cs =>
      rw [showPieces] at told
      obtain ⟨later, same, told⟩ := exists_of_bind_eq_ok told
      rw [← Except.ok.inj told, ih same]
      rfl
    | opening tag =>
      rw [showPieces] at told
      obtain ⟨_, _, told⟩ := exists_of_bind_eq_ok told
      exact ih told
    | closing name =>
      rw [showPieces] at told
      split at told
      all_goals
        obtain ⟨_, _, told⟩ := exists_of_bind_eq_ok told
        dsimp only at told
        split at told
        · contradiction
        · obtain ⟨_, _, told⟩ := exists_of_bind_eq_ok told
          exact ih told

/-- Pieces are shown as they are, or with fewer colons. -/
theorem shownText_cases (pieces : List Piece) :
    shownText pieces = plainText pieces ∨
      (shownText pieces).count ':' < (plainText pieces).count ':' := by
  -- Induction on the pieces, of which only the plain ones show anything.
  induction pieces with
  | nil => exact Or.inl rfl
  | cons piece rest ih =>
    cases piece with
    | plain cs =>
      have front : shownText (.plain cs :: rest)
          = expandShortcodes (unescapeBrackets cs) ++ shownText rest := rfl
      have same : plainText (.plain cs :: rest) = unescapeBrackets cs ++ plainText rest := rfl
      have bound : (shownText rest).count ':' ≤ (plainText rest).count ':' := by
        rcases ih with equal | fewer
        · exact Nat.le_of_eq (by rw [equal])
        · omega
      rw [front, same, List.count_append, List.count_append]
      -- A name that is replaced loses its colons, and no other piece has more than before.
      rcases expandShortcodes_cases (unescapeBrackets cs) with kept | fewer
      · rcases ih with equal | less
        · exact Or.inl (by rw [kept, equal])
        · exact Or.inr (by rw [kept]; omega)
      · exact Or.inr (by omega)
    | opening tag => exact ih
    | closing name => exact ih

/-- Pieces are not shown with more colons than they have. -/
theorem count_shownText_le (pieces : List Piece) :
    (shownText pieces).count ':' ≤ (plainText pieces).count ':' := by
  -- Either nothing was replaced, or there are strictly fewer.
  rcases shownText_cases pieces with same | fewer
  · exact Nat.le_of_eq (by rw [same])
  · exact Nat.le_of_lt fewer

end Pieces

section Marks

/-- The number of the characters in a text that may mean something else in markup. -/
def marks (cs : List Char) : Nat := cs.countP fun c => !isPlain c

theorem marks_append (first second : List Char) :
    marks (first ++ second) = marks first + marks second :=
  -- Marks are counted character by character.
  List.countP_append

theorem marks_cons (c : Char) (rest : List Char) :
    marks (c :: rest) = marks rest + if isPlain c then 0 else 1 := by
  -- Plain characters are those that are no marks.
  cases plain : isPlain c <;> simp [marks, plain]

theorem marks_replicate (count : Nat) : marks (List.replicate count '\\') = count := by
  -- A backslash is a mark.
  rw [marks, List.countP_replicate, if_pos (by decide)]

/-- Reading escaped brackets only takes characters away. -/
theorem unescapeBrackets_sublist (cs : List Char) : (unescapeBrackets cs).Sublist cs := by
  -- The cases are those of the reading: an end, an escaped bracket, and any other character.
  induction cs using unescapeBrackets.induct with
  | case1 => exact List.Sublist.slnil
  | case2 rest ih => exact (ih.cons_cons '[').cons '\\'
  | case3 c rest other ih =>
    rw [unescapeBrackets]
    · exact ih.cons_cons c
    · exact other

/-- Where no bracket is escaped, the characters stay as they are; otherwise a mark is gone. -/
theorem unescapeBrackets_cases (cs : List Char) :
    (unescapeBrackets cs = cs ∧ ¬['\\', '['] <:+: cs) ∨ marks (unescapeBrackets cs) < marks cs := by
  -- The same cases as the reading has; an escaped bracket is where a mark goes.
  induction cs using unescapeBrackets.induct with
  | case1 => exact Or.inl ⟨rfl, by simp⟩
  | case2 rest ih =>
    -- The backslash of an escaped bracket is a mark that goes.
    refine Or.inr ?_
    have bound : marks (unescapeBrackets rest) ≤ marks rest :=
      (unescapeBrackets_sublist rest).countP_le
    rw [unescapeBrackets, marks_cons, marks_cons, marks_cons]
    have bracket : isPlain '[' = false := by decide
    have backslash : isPlain '\\' = false := by decide
    rw [bracket, backslash, if_neg Bool.false_ne_true]
    omega
  | case3 c rest other ih =>
    rw [unescapeBrackets]
    · rcases ih with ⟨same, absent⟩ | fewer
      · -- An escaped bracket at the very front would have been read.
        refine Or.inl ⟨by rw [same], fun within => ?_⟩
        rcases List.infix_cons_iff.mp within with front | later
        · obtain ⟨tail, parts⟩ := front
          obtain ⟨rfl, rfl⟩ := List.cons.inj parts
          exact other _ rfl rfl
        · exact absent later
      · refine Or.inr ?_
        rw [marks_cons, marks_cons]
        omega
    · exact other

/-- Characters without escaped brackets stay as they are. -/
theorem unescapeBrackets_eq {cs : List Char} (unescaped : ¬['\\', '['] <:+: cs) :
    unescapeBrackets cs = cs := by
  -- The same cases as the reading has, of which the escaped bracket cannot occur.
  induction cs using unescapeBrackets.induct with
  | case1 => rfl
  | case2 rest _ => exact absurd (List.prefix_append ['\\', '['] rest).isInfix unescaped
  | case3 c rest other ih =>
    rw [unescapeBrackets]
    · rw [ih fun within => unescaped (List.infix_cons within)]
    · exact other

end Marks

section Tags

/-- A tag that is found stands behind its backslashes, between brackets, and holds none. -/
theorem eq_append_of_tag? {cs body rest : List Char} {count : Nat}
    (found : tag? cs = some (count, body, rest)) :
    cs = List.replicate count '\\' ++ ('[' :: body ++ [']']) ++ rest ∧ '[' ∉ body := by
  -- Three readings are undone in turn: that of the backslashes, of the bracket and of the body.
  unfold tag? at found
  split at found
  · next inner stop =>
    simp only [Option.map_eq_some_iff, Prod.mk.injEq] at found
    obtain ⟨⟨_, _⟩, within, size, rfl, rfl⟩ := found
    -- The number that is found is that of the backslashes in front.
    have front : cs.takeWhile (· == '\\') = List.replicate count '\\' := by
      rw [← size]
      refine List.eq_replicate_of_mem fun c member => ?_
      simpa using List.all_eq_true.mp List.all_takeWhile c member
    unfold tagBody? at within
    split at within
    · split at within
      · next after close =>
        simp only [Option.some.injEq, Prod.mk.injEq] at within
        obtain ⟨rfl, rfl⟩ := within
        constructor
        · rw [← front]
          conv_lhs => rw [← List.takeWhile_append_dropWhile (p := (· == '\\')) (l := cs), stop,
            ← List.takeWhile_append_dropWhile (p := isTagChar) (l := inner), close]
          simp
        · -- The body ends before the first character that cannot stand in a tag.
          intro member
          have proper := List.all_eq_true.mp List.all_takeWhile '[' member
          simp [isTagChar] at proper
      · contradiction
    · contradiction
  · contradiction

theorem plainText_plainPiece (chunk : List Char) :
    plainText (plainPiece chunk) = unescapeBrackets chunk := by
  -- An empty piece is left out, which makes no difference to the characters.
  cases chunk <;> simp [plainPiece, plainText, unescapeBrackets]

/-- What is left of a tag and of the backslashes before it: half of them, and the tag if it is
escaped. -/
theorem plainText_tagPieces {count : Nat} {body : List Char} (unopened : '[' ∉ body) :
    plainText (tagPieces count body) = List.replicate (count / 2) '\\' ++
      if count % 2 = 1 then '[' :: body ++ [']'] else [] := by
  -- Neither the backslashes nor the tag hold an escaped bracket on their own.
  have kept : unescapeBrackets (List.replicate (count / 2) '\\')
      = List.replicate (count / 2) '\\' :=
    unescapeBrackets_eq fun within => by
      have member := within.subset (List.mem_cons_of_mem _ (List.mem_singleton.mpr rfl))
      simp at member
  have written : unescapeBrackets ('[' :: body ++ [']']) = '[' :: body ++ [']'] :=
    unescapeBrackets_eq fun within => by
      rcases List.infix_cons_iff.mp within with front | later
      · simp at front
      · have member := later.subset (List.mem_cons_of_mem _ (List.mem_singleton.mpr rfl))
        simp [unopened] at member
  have front : plainText (if count < 2 then [] else [Piece.plain (List.replicate (count / 2) '\\')])
      = List.replicate (count / 2) '\\' := by
    split_ifs with few
    · rw [show count / 2 = 0 by omega]
      rfl
    · simpa [plainText] using kept
  rw [tagPieces, plainText_append, front]
  congr 1
  by_cases odd : count % 2 = 1
  · simpa [odd, plainText] using written
  · have gone : plainText [tagPiece body] = [] := by
      unfold tagPiece
      dsimp only
      split <;> rfl
    simpa [odd] using gone

/-- A tag costs a mark, and what is left of it stands in it. -/
theorem tagPieces_lose (count : Nat) {body : List Char} (unopened : '[' ∉ body) :
    (plainText (tagPieces count body)).Sublist
        (List.replicate count '\\' ++ ('[' :: body ++ [']'])) ∧
      marks (plainText (tagPieces count body))
        < marks (List.replicate count '\\' ++ ('[' :: body ++ [']'])) := by
  -- The pieces of a tag are made of its backslashes and, if their number is odd, of the tag itself.
  have bracket : isPlain '[' = false := by decide
  rw [plainText_tagPieces unopened]
  constructor
  · -- Half of the backslashes are among all of them.
    refine List.Sublist.append (List.replicate_sublist_replicate '\\' |>.mpr (by omega)) ?_
    split_ifs
    · exact List.Sublist.refl _
    · exact List.nil_sublist _
  · rw [marks_append, marks_append, marks_replicate, marks_replicate]
    -- An escaped tag has lost a backslash, and any other tag its bracket.
    split_ifs with odd
    · omega
    · rw [List.cons_append, marks_cons, bracket, if_neg Bool.false_ne_true]
      simp only [marks, List.countP_nil]
      omega

/-- The pieces of a text hold characters of the text only. -/
theorem plainText_piecesFrom_sublist (chunk cs : List Char) :
    (plainText (piecesFrom chunk cs)).Sublist (chunk ++ cs) := by
  -- A text is read from the front: a tag with its backslashes where there is one, or a character.
  induction chunk, cs using piecesFrom.induct with
  | case1 chunk cs count body rest found ih =>
    obtain ⟨parts, unopened⟩ := eq_append_of_tag? found
    rw [piecesFrom_of_tag chunk found, plainText_append, plainText_append, plainText_plainPiece,
      parts, List.append_assoc]
    exact (unescapeBrackets_sublist chunk).append ((tagPieces_lose count unopened).1.append ih)
  | case2 chunk absent =>
    rw [piecesFrom_nil, plainText_plainPiece, List.append_nil]
    exact unescapeBrackets_sublist chunk
  | case3 chunk c rest absent ih =>
    rw [piecesFrom_cons chunk absent]
    simpa using ih

/-- A text without tags is one piece; otherwise a mark is gone. -/
theorem piecesFrom_cases (chunk cs : List Char) :
    (∀ rest, rest <:+ cs → tag? rest = none) ∨
      marks (plainText (piecesFrom chunk cs)) < marks (chunk ++ cs) := by
  -- The cases are those of the reading: a tag is found, the text ends, or a character is passed
  -- over.
  induction chunk, cs using piecesFrom.induct with
  | case1 chunk cs count body rest found _ =>
    -- The tag loses a mark, and what is around it brings none back.
    obtain ⟨parts, unopened⟩ := eq_append_of_tag? found
    have before := (unescapeBrackets_sublist chunk).countP_le (p := fun c => !isPlain c)
    have within := (tagPieces_lose count unopened).2
    have behind := (plainText_piecesFrom_sublist [] rest).countP_le (p := fun c => !isPlain c)
    refine Or.inr ?_
    rw [piecesFrom_of_tag chunk found, plainText_append, plainText_append, plainText_plainPiece,
      parts, marks_append, marks_append, marks_append chunk, marks_append _ rest]
    simp only [marks, List.nil_append] at before within behind ⊢
    omega
  | case2 chunk absent =>
    refine Or.inl fun rest ending => ?_
    rw [List.suffix_nil.mp ending]
    rfl
  | case3 chunk c rest absent ih =>
    rcases ih with none | fewer
    · refine Or.inl fun last ending => ?_
      rcases List.suffix_cons_iff.mp ending with same | later
      · rw [same, absent]
      · exact none last later
    · refine Or.inr ?_
      rw [piecesFrom_cons chunk absent]
      simpa using fewer

/-- The piece of a text without tags. -/
theorem piecesFrom_of_untagged {cs : List Char} (untagged : ∀ rest, rest <:+ cs → tag? rest = none)
    (chunk : List Char) : piecesFrom chunk cs = plainPiece (chunk ++ cs) := by
  -- Every character is passed over, since no tag begins at any of them.
  induction cs generalizing chunk with
  | nil => rw [piecesFrom_nil, List.append_nil]
  | cons c rest ih =>
    rw [piecesFrom_cons chunk (untagged _ List.suffix_rfl),
      ih fun last ending => untagged last (ending.trans (List.suffix_cons c rest))]
    simp

end Tags

section Endings

/-- Characters are not all in front if there is something behind. -/
theorem length_takeWhile_ne {test : Char → Bool} {cs : List Char} (some : cs.dropWhile test ≠ []) :
    (cs.takeWhile test).length ≠ cs.length := by
  -- Both parts make up the whole, so a full front leaves nothing behind.
  intro same
  have parts := congrArg List.length (List.takeWhile_append_dropWhile (p := test) (l := cs))
  rw [List.length_append, same] at parts
  exact some (List.length_eq_zero_iff.mp (by omega))

/-- Backslashes and an opening bracket end whatever begins a tag. -/
theorem tagBody?_append (cs more : List Char) (count : Nat) :
    let ending := List.replicate count '\\' ++ '[' :: more
    tagBody? (cs ++ ending) = (tagBody? cs).map fun found => (found.1, found.2 ++ ending) := by
  -- It is decided by where the tag characters end, which is before the bracket at the latest.
  intro ending
  -- A backslash may stand in a tag but not begin one, and an opening bracket may do neither.
  have unbegun : (ending.head?.map beginsTag).getD false = false := by
    cases count <;> rfl
  have stops : ending.dropWhile isTagChar = '[' :: more := by
    rw [List.dropWhile_append_of_pos fun c member => by
      rw [List.eq_of_mem_replicate member]
      decide]
    rfl
  cases cs with
  | nil =>
    rw [List.nil_append, tagBody?, if_neg (by simp [unbegun])]
    rfl
  | cons c rest =>
    have head : ((c :: rest) ++ ending).head? = (c :: rest).head? := rfl
    rw [tagBody?, tagBody?, head]
    split_ifs
    · rw [List.dropWhile_append, List.takeWhile_append]
      cases inner : (c :: rest).dropWhile isTagChar with
      | nil => simp [stops]
      | cons d after =>
        rw [if_neg (length_takeWhile_ne (by simp [inner]))]
        by_cases close : d = ']' <;> simp [close]
    · rfl

/-- Whether characters end with a backslash. -/
def EndsEscaping (cs : List Char) : Prop := cs.getLast? = some '\\'

instance (cs : List Char) : Decidable (EndsEscaping cs) :=
  inferInstanceAs (Decidable (cs.getLast? = some '\\'))

/-- A tag is the same with backslashes and an opening bracket behind it. -/
theorem tag?_append {cs : List Char} (some : cs ≠ []) (whole : ¬EndsEscaping cs)
    (more : List Char) (count : Nat) :
    let ending := List.replicate count '\\' ++ '[' :: more
    tag? (cs ++ ending)
      = (tag? cs).map fun found => (found.1, found.2.1, found.2.2 ++ ending) := by
  -- Behind its backslashes, the text goes on with a bracket or with something else, and only the
  -- first can be a tag.
  intro ending
  -- The backslashes in front do not reach the end of the characters.
  have partly : cs.dropWhile (· == '\\') ≠ [] := by
    intro none
    refine whole ?_
    have last := List.getLast_mem some
    rw [EndsEscaping, List.getLast?_eq_some_getLast some]
    simpa using List.dropWhile_eq_nil_iff.mp none _ last
  rw [tag?, tag?, List.dropWhile_append, List.takeWhile_append,
    if_neg (length_takeWhile_ne partly)]
  cases inner : cs.dropWhile (· == '\\') with
  | nil => exact absurd inner partly
  | cons c rest =>
    by_cases bracket : c = '['
    · subst bracket
      have found := tagBody?_append rest more count
      simp only [List.isEmpty_cons, Bool.false_eq_true, if_false, List.cons_append]
      rw [found, Option.map_map, Option.map_map]
      rfl
    · simp [bracket]

/-- The end of a text that does not end with a backslash is not escaped either. -/
theorem not_endsEscaping_of_suffix {cs rest : List Char} (ending : rest <:+ cs)
    (whole : ¬EndsEscaping cs) : ¬EndsEscaping rest := by
  -- The last character of a part at the end is the last one of the whole.
  intro last
  obtain ⟨front, rfl⟩ := ending
  exact whole (by rw [EndsEscaping, List.getLast?_append, last, Option.some_or])

/-- The pieces of a text before backslashes and a tag are those it has alone. -/
theorem piecesFrom_append {cs body rest more : List Char} {count : Nat} (whole : ¬EndsEscaping cs)
    (tagged : tag? (List.replicate count '\\' ++ '[' :: more) = some (count, body, rest))
    (chunk : List Char) :
    piecesFrom chunk (cs ++ (List.replicate count '\\' ++ '[' :: more))
      = piecesFrom chunk cs ++ tagPieces count body ++ piecesFrom [] rest := by
  -- Whatever is read before the backslashes is read as it is without what follows.
  induction chunk, cs using piecesFrom.induct with
  | case1 chunk cs inner word after found ih =>
    have some : cs ≠ [] := fun none => by
      rw [none] at found
      cases found
    obtain ⟨parts, _⟩ := eq_append_of_tag? found
    have behind := not_endsEscaping_of_suffix ⟨_, parts.symm⟩ whole
    have later : tag? (cs ++ (List.replicate count '\\' ++ '[' :: more))
        = Option.some (inner, word, after ++ (List.replicate count '\\' ++ '[' :: more)) := by
      rw [tag?_append some whole, found, Option.map_some]
    rw [piecesFrom_of_tag chunk later, ih behind, piecesFrom_of_tag chunk found]
    simp only [List.append_assoc]
  | case2 chunk absent =>
    rw [List.nil_append, piecesFrom_of_tag chunk tagged, piecesFrom_nil]
  | case3 chunk c after absent ih =>
    have behind := not_endsEscaping_of_suffix (List.suffix_cons c after) whole
    have later : tag? (c :: (after ++ (List.replicate count '\\' ++ '[' :: more))) = none := by
      have same := tag?_append (List.cons_ne_nil c after) whole more count
      rw [absent] at same
      exact same
    rw [List.cons_append, piecesFrom_cons chunk later, ih behind, piecesFrom_cons chunk absent]

end Endings

end ModelServing.Console
