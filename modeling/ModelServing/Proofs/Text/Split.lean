import Mathlib.Data.List.Induction

/-! Texts cut at a character. -/

namespace ModelServing.Text

/-- Parts with a separator between them, and one more after the last, are the parts with one after
each. -/
theorem flatMap_eq_intercalate {α : Type} (separator : α) {parts : List (List α)}
    (some : parts ≠ []) :
    parts.flatMap (· ++ [separator]) = [separator].intercalate parts ++ [separator] := by
  -- Between two parts stands what is put after the first.
  induction parts with
  | nil => contradiction
  | cons part rest ih =>
    cases rest with
    | nil => simp
    | cons next more =>
      rw [List.flatMap_cons, ih (List.cons_ne_nil next more), List.intercalate_cons_cons]
      simp

/-- The parts between separators, with one after each, are the whole list with one at its end. -/
theorem flatMap_splitOn {α : Type} [BEq α] [LawfulBEq α] (separator : α) (items : List α) :
    (items.splitOn separator).flatMap (· ++ [separator]) = items ++ [separator] := by
  -- A separator behind every part is one between them and one at the end.
  rw [flatMap_eq_intercalate separator (List.splitOn_ne_nil separator items),
    List.intercalate_splitOn]

/-- What stands between separators of a list stands in the list. -/
theorem sublist_of_mem_splitOn {α : Type} [BEq α] [LawfulBEq α] {separator : α}
    {items part : List α} (member : part ∈ items.splitOn separator) : part.Sublist items := by
  -- The part and the separator after it stand in the list with a separator at its end.
  have within : (part ++ [separator]).Sublist (items ++ [separator]) :=
    flatMap_splitOn separator items ▸ List.sublist_flatten_of_mem
      (List.mem_map_of_mem (f := (· ++ [separator])) member)
  simpa using within

/-- What stands between separators of a list holds none. -/
theorem not_mem_of_mem_splitOn {α : Type} [BEq α] [LawfulBEq α] {separator : α}
    {items part : List α} (member : part ∈ items.splitOn separator) : separator ∉ part := by
  -- A separator begins an empty part, and any other element goes in front of the first part.
  induction items generalizing part with
  | nil => simp_all
  | cons first rest ih =>
    rw [List.splitOn_cons_eq_if_modifyHead] at member
    split at member
    · rcases List.mem_cons.mp member with same | later
      · simp [same]
      · exact ih later
    · next other =>
      obtain ⟨head, more, split⟩ := List.exists_cons_of_ne_nil (List.splitOn_ne_nil separator rest)
      rw [split] at ih member
      rcases List.mem_cons.mp member with same | later
      · subst same
        simpa using ⟨fun same => other (by simp [same]), ih List.mem_cons_self⟩
      · exact ih (List.mem_cons_of_mem head later)

end ModelServing.Text
