import ModelServing.Console.Shortcode
import ModelServing.Proofs.Text.Split

/-! Which texts are shown as they are although names between colons are replaced. -/

namespace ModelServing.Console

open ModelServing.Text

/-- No pictograph of a table holds a colon. -/
theorem colon_not_mem_lookup {table : List (List String)} {name picture : List Char}
    (found : (table.findSome? fun texts => texts.findSome? fun text =>
      lookupEntry name text.toList) = some picture) : ':' ∉ picture := by
  -- A pictograph is what stands after the one colon of an entry.
  obtain ⟨texts, _, found⟩ := List.exists_of_findSome?_eq_some found
  obtain ⟨text, _, found⟩ := List.exists_of_findSome?_eq_some found
  obtain ⟨entry, _, found⟩ := List.exists_of_findSome?_eq_some found
  split at found
  · next key other parts =>
    have member : other ∈ entry.splitOn ':' := by simp [parts]
    split_ifs at found
    exact Option.some.inj found ▸ not_mem_of_mem_splitOn member
  · contradiction

/-- No pictograph holds a colon. -/
theorem colon_not_mem_pictograph {name picture : List Char}
    (found : pictograph? name = some picture) : ':' ∉ picture :=
  -- The tables have been looked through once, for every name at the same time.
  colon_not_mem_lookup found

/-- The mark that asks for a form of a pictograph is no colon. -/
theorem colon_not_mem_shortcodeParts {name base mark : List Char}
    (parts : shortcodeParts name = (base, mark)) : ':' ∉ mark := by
  -- The mark is one of three texts, none of which has a colon.
  unfold shortcodeParts at parts
  split at parts <;> cases parts <;> simp

theorem showShortcode_of_unknown {name base mark : List Char}
    (parts : shortcodeParts name = (base, mark)) (unknown : pictograph? (lowerCase base) = none) :
    showShortcode name = ':' :: name ++ [':'] := by
  -- The base is unknown, so the name is put back between its colons.
  unfold showShortcode
  rw [parts]
  dsimp only
  rw [unknown]

theorem showShortcode_of_known {name base mark picture : List Char}
    (parts : shortcodeParts name = (base, mark))
    (known : pictograph? (lowerCase base) = some picture) :
    showShortcode name = picture ++ mark := by
  -- The base is known, so the picture takes the place of the name and both colons.
  unfold showShortcode
  rw [parts]
  dsimp only
  rw [known]

/-- A name between colons is shown as it is, or without a colon. -/
theorem showShortcode_cases (name : List Char) :
    showShortcode name = ':' :: name ++ [':'] ∨ ':' ∉ showShortcode name := by
  -- The table is left closed: only whether it knows the name matters.
  rcases Option.eq_none_or_eq_some (pictograph? (lowerCase (shortcodeParts name).1))
    with unknown | ⟨picture, known⟩
  · exact Or.inl (showShortcode_of_unknown rfl unknown)
  · rw [showShortcode_of_known rfl known, List.mem_append]
    exact Or.inr (not_or.mpr ⟨colon_not_mem_pictograph known, colon_not_mem_shortcodeParts rfl⟩)

/-- A name that is found stands in front of a colon, and holds neither colons nor blanks. -/
theorem eq_append_of_shortcode? {cs name after : List Char}
    (found : shortcode? cs = some (name, after)) :
    cs = name ++ ':' :: after ∧ ∀ c ∈ name, isShortcodeChar c = true := by
  -- The name is taken as far as its characters go, and a colon has to stand there.
  unfold shortcode? at found
  split at found
  · next rest stop =>
    simp only [Option.some.injEq, Prod.mk.injEq] at found
    obtain ⟨rfl, rfl⟩ := found
    exact ⟨by rw [← stop, List.takeWhile_append_dropWhile],
      List.all_eq_true.mp (List.all_takeWhile)⟩
  · contradiction

theorem expandShortcodes_of_name {rest name after : List Char}
    (found : shortcode? rest = some (name, after)) :
    expandShortcodes (':' :: rest) = showShortcode name ++ expandShortcodes after := by
  -- The recursion is well-founded, so its equation for this case is opened here and cited from then
  -- on.
  rw [expandShortcodes]
  split
  · split <;> simp_all
  · contradiction

theorem expandShortcodes_of_colon {rest : List Char} (absent : shortcode? rest = none) :
    expandShortcodes (':' :: rest) = ':' :: expandShortcodes rest := by
  -- Without a name the recursion keeps the colon, and goes on behind it.
  rw [expandShortcodes]
  split
  · split <;> simp_all
  · contradiction

theorem expandShortcodes_of_other {c : Char} (other : c ≠ ':') (rest : List Char) :
    expandShortcodes (c :: rest) = c :: expandShortcodes rest := by
  -- Only a colon makes the recursion look at what follows.
  rw [expandShortcodes]
  simp [other]

/-- Characters are shown as they are, or with fewer colons. -/
theorem expandShortcodes_cases (cs : List Char) :
    expandShortcodes cs = cs ∨ (expandShortcodes cs).count ':' < cs.count ':' := by
  -- Both colons of a name that is replaced are gone.
  induction cs using expandShortcodes.induct with
  | case1 => exact Or.inl (by simp [expandShortcodes])
  | case2 c rest colon name after found ih =>
    obtain ⟨parts, unstopped⟩ := eq_append_of_shortcode? found
    have apart : name.count ':' = 0 := List.count_eq_zero.mpr fun member => by
      simpa [isShortcodeChar] using unstopped ':' member
    rw [beq_iff_eq.mp colon, expandShortcodes_of_name found, parts]
    rcases showShortcode_cases name with kept | gone
    · rcases ih with same | fewer
      · exact Or.inl (by simp [kept, same])
      · exact Or.inr (by simp [kept, apart]; omega)
    · have bound : (expandShortcodes after).count ':' ≤ after.count ':' := by
        rcases ih with same | fewer
        · exact Nat.le_of_eq (by rw [same])
        · omega
      exact Or.inr (by simp [List.count_eq_zero.mpr gone, apart]; omega)
  | case3 c rest colon absent ih =>
    rw [beq_iff_eq.mp colon, expandShortcodes_of_colon absent]
    rcases ih with same | fewer
    · exact Or.inl (by rw [same])
    · exact Or.inr (by simpa using fewer)
  | case4 c rest other ih =>
    rw [expandShortcodes_of_other (by simpa using other)]
    rcases ih with same | fewer
    · exact Or.inl (by rw [same])
    · exact Or.inr (by simp only [List.count_cons]; omega)

/-- A name goes on with each character that may stand in it, and a colon ends it. -/
theorem shortcode?_cons (c : Char) (rest : List Char) :
    shortcode? (c :: rest) =
      if isShortcodeChar c then (shortcode? rest).map fun found => (c :: found.1, found.2)
      else if c = ':' then some ([], rest) else none := by
  -- The characters of a name are taken as long as they go, so the first one decides how the rest is
  -- read.
  unfold shortcode?
  by_cases named : isShortcodeChar c = true
  · rw [List.dropWhile_cons_of_pos named, List.takeWhile_cons_of_pos named, if_pos named]
    split <;> rfl
  · rw [List.dropWhile_cons_of_neg named, List.takeWhile_cons_of_neg named, if_neg named]
    by_cases colon : c = ':' <;> simp [colon]

/-- Names are found up to a blank as if nothing followed it. -/
theorem shortcode?_append (cs rest : List Char) :
    shortcode? (cs ++ ' ' :: rest)
      = (shortcode? cs).map fun found => (found.1, found.2 ++ ' ' :: rest) := by
  -- The blank ends a name that no colon has ended before.
  induction cs with
  | nil =>
    have stop : isShortcodeChar ' ' = false := by decide
    simp [stop, shortcode?]
  | cons c more ih =>
    rw [List.cons_append, shortcode?_cons, shortcode?_cons, ih]
    split_ifs
    · simp only [Option.map_map, Function.comp_def]
    · rfl
    · rfl

/-- A blank keeps names apart. -/
theorem expandShortcodes_append (cs rest : List Char) :
    expandShortcodes (cs ++ ' ' :: rest) = expandShortcodes cs ++ ' ' :: expandShortcodes rest := by
  -- A name before the blank is the same with the blank behind it, and so is the lack of one.
  induction cs using expandShortcodes.induct with
  | case1 => simp [expandShortcodes, expandShortcodes_of_other]
  | case2 c more colon name after found ih =>
    have later : shortcode? (more ++ ' ' :: rest) = some (name, after ++ ' ' :: rest) := by
      rw [shortcode?_append, found, Option.map_some]
    rw [beq_iff_eq.mp colon, List.cons_append, expandShortcodes_of_name later, ih,
      expandShortcodes_of_name found, List.append_assoc]
  | case3 c more colon absent ih =>
    have later : shortcode? (more ++ ' ' :: rest) = none := by
      rw [shortcode?_append, absent, Option.map_none]
    rw [beq_iff_eq.mp colon, List.cons_append, expandShortcodes_of_colon later, ih,
      expandShortcodes_of_colon absent, List.cons_append]
  | case4 c more other ih =>
    have other : c ≠ ':' := by simpa using other
    rw [List.cons_append, expandShortcodes_of_other other, ih, expandShortcodes_of_other other,
      List.cons_append]

/-- Texts on both sides of a blank are shown as they are if each of them is. -/
theorem expandShortcodes_append_eq_iff {cs rest : List Char} :
    expandShortcodes (cs ++ ' ' :: rest) = cs ++ ' ' :: rest ↔
      expandShortcodes cs = cs ∧ expandShortcodes rest = rest := by
  -- A blank is in no name, so each side is replaced on its own, and only losing colons changes a
  -- text.
  rw [expandShortcodes_append]
  constructor
  · intro same
    -- Neither side may have lost a colon.
    have counts := congrArg (List.count ':') same
    simp only [List.count_append, List.count_cons] at counts
    rcases expandShortcodes_cases cs with first | fewer
    · exact ⟨first, by simpa [first] using same⟩
    · rcases expandShortcodes_cases rest with second | both
      · rw [second] at counts
        omega
      · omega
  · rintro ⟨first, second⟩
    rw [first, second]

end ModelServing.Console
