import ModelServing.Proofs.Filesystem.Names

/-! Which characters stand in paths that were simplified, joined or cut. -/

namespace ModelServing.Path

/-- What stands in parts with slashes between them is a slash or stands in one of the parts. -/
theorem mem_glue {parts : List String} {c : Char} (member : c ∈ (glue parts).toList) :
    c = '/' ∨ ∃ part ∈ parts, c ∈ part.toList := by
  -- The text is its parts, each but the last with its slash behind it.
  rw [glue, String.toList_intercalate] at member
  -- The parts come one after the other, each but the last with its slash.
  induction parts with
  | nil => simp at member
  | cons part rest ih =>
    cases rest with
    | nil => exact Or.inr ⟨part, List.mem_cons_self, by simpa using member⟩
    | cons next more =>
      rw [List.map_cons, List.map_cons, List.intercalate_cons_cons, List.append_assoc] at member
      rcases List.mem_append.mp member with here | later
      · exact Or.inr ⟨part, List.mem_cons_self, here⟩
      · rcases List.mem_append.mp later with slash | later
        · exact Or.inl (by simpa using slash)
        · rcases ih later with slash | ⟨other, among, stands⟩
          · exact Or.inl slash
          · exact Or.inr ⟨other, List.mem_cons_of_mem part among, stands⟩

/-- Adding a part to simplified ones brings in no part but that one and double dots. -/
theorem mem_pushPart {rooted : Bool} {kept : List String} {part other : String}
    (member : other ∈ pushPart rooted kept part) : other ∈ kept ∨ other = part ∨ other = ".." := by
  -- A part is passed over, put in front, or takes the one before it away.
  unfold pushPart at member
  split at member
  · exact Or.inl member
  · split at member
    · rcases List.mem_cons.mp member with same | earlier
      · exact Or.inr (Or.inl same)
      · exact Or.inl earlier
    · split at member
      · split at member <;> simp_all
      · rcases List.mem_cons.mp member with same | earlier
        · exact Or.inr (Or.inr same)
        · exact Or.inl earlier
      · exact Or.inl (List.mem_cons_of_mem _ member)

/-- Simplified parts are parts of the path, or double dots. -/
theorem mem_foldl_pushPart {rooted : Bool} {parts kept : List String} {other : String}
    (member : other ∈ parts.foldl (pushPart rooted) kept) :
    other ∈ kept ∨ other ∈ parts ∨ other = ".." := by
  -- Induction on the parts, with what is kept so far left open.
  induction parts generalizing kept with
  | nil => exact Or.inl member
  | cons part rest ih =>
    rcases ih member with pushed | later | dots
    · rcases mem_pushPart pushed with before | same | dots
      · exact Or.inl before
      · exact Or.inr (Or.inl (List.mem_cons.mpr (Or.inl same)))
      · exact Or.inr (Or.inr dots)
    · exact Or.inr (Or.inl (List.mem_cons_of_mem part later))
    · exact Or.inr (Or.inr dots)

/-- What stands in a simplified path stands in the path, or is a slash or a dot. -/
theorem mem_normalize {path : String} {c : Char} (member : c ∈ (normalize path).toList) :
    c ∈ path.toList ∨ c = '/' ∨ c = '.' := by
  -- A simplified path is its slashes at the root and its parts, or a single dot.
  have parts : c ∈ (rootSlashes path ++ glue ((pieces path).foldl
      (pushPart !(rootSlashes path).isEmpty) []).reverse).toList →
      c ∈ path.toList ∨ c = '/' ∨ c = '.' := by
    intro member
    rcases List.mem_append.mp (String.toList_append ▸ member) with root | glued
    · unfold rootSlashes at root
      split at root <;> simp at root <;> exact Or.inr (Or.inl root)
    · rcases mem_glue glued with slash | ⟨part, among, stands⟩
      · exact Or.inr (Or.inl slash)
      · rcases mem_foldl_pushPart (List.mem_reverse.mp among) with none | piece | dots
        · cases none
        · obtain ⟨cs, between, same⟩ := List.mem_map.mp piece
          subst same
          exact Or.inl ((Text.sublist_of_mem_splitOn between).subset (by simpa using stands))
        · subst dots
          exact Or.inr (Or.inr (by simpa using stands))
  simp only [normalize] at member
  split at member
  · exact Or.inr (Or.inr (by simpa using member))
  · exact parts member

/-- What stands in the directory of a path stands in the path. -/
theorem mem_directory {path : String} {c : Char} (member : c ∈ (directory path).toList) :
    c ∈ path.toList :=
  -- The directory is a prefix of the path.
  (directory_begins path).subset member

/-- A relative path that is seen from a directory holds what stands in the directory. -/
theorem mem_join_of_relative {directory path : String} (relative : isAbsolute path = false)
    {c : Char} (stands : c ∈ directory.toList) : c ∈ (join directory path).toList := by
  -- A relative path is put behind the directory, with or without a slash.
  simp only [join, relative, Bool.false_eq_true, if_false]
  split <;> simp [stands]

/-- What stands in a path that is seen from a directory is a slash or stands in one of the two. -/
theorem mem_join {directory path : String} {c : Char} (member : c ∈ (join directory path).toList) :
    c = '/' ∨ c ∈ directory.toList ∨ c ∈ path.toList := by
  -- The three ways to join are gone through; one of them adds a slash.
  unfold join at member
  split at member
  · exact Or.inr (Or.inr member)
  · split at member
    · exact Or.inr (List.mem_append.mp (String.toList_append ▸ member))
    · simp only [String.toList_append, List.mem_append] at member
      rcases member with (here | slash) | there
      · exact Or.inr (Or.inl here)
      · exact Or.inl (by simpa using slash)
      · exact Or.inr (Or.inr there)

end ModelServing.Path
