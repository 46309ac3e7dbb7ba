import Mathlib.Data.List.Infix
import ModelServing.Proofs.Filesystem.Entries

/-! Trees from which one entry is removed, and what is left of them. -/

namespace ModelServing.Entry

/-- What is a directory has entries. -/
theorem exists_directory {entry : Entry} (directory : entry.isDirectory = true) :
    ∃ entries, entry = .directory entries := by
  -- All other kinds of entries are no directories.
  cases entry with
  | directory entries => exact ⟨entries, rfl⟩
  | _ => cases directory

/-- Two entries that are the same, or both directories. -/
def Alike (first second : Entry) : Prop :=
  first = second ∨ first.isDirectory = true ∧ second.isDirectory = true

/-- What is like a directory is a directory. -/
theorem Alike.exists_directory {entries : List (String × Entry)} {second : Entry}
    (alike : Alike (.directory entries) second) : ∃ others, second = .directory others := by
  -- Being alike means being the same, or being directories both.
  rcases alike with same | ⟨_, directory⟩
  · exact ⟨entries, same.symm⟩
  · exact Entry.exists_directory directory

/-- What is like an entry that is no directory is the same entry. -/
theorem Alike.eq_of_leaf {first second : Entry} (alike : Alike first second)
    (leaf : first.isDirectory = false) : second = first := by
  -- The second way to be alike is for directories.
  rcases alike with same | ⟨directory, _⟩
  · exact same.symm
  · rw [leaf] at directory
    cases directory

/-- What stands at some names, if anything does, is like itself. -/
theorem rel_alike_refl (entry : Option Entry) : Option.Rel Alike entry entry := by
  -- Every entry is like itself, as it is the same.
  cases entry with
  | none => exact .none
  | some entry => exact .some (.inl rfl)

/-- What stands at some names is like an entry that is no directory exactly if it is that entry. -/
theorem rel_alike_leaf_iff {leaf : Entry} {found : Option Entry} (flat : leaf.isDirectory = false) :
    Option.Rel Alike (some leaf) found ↔ found = some leaf := by
  -- For what is no directory, being alike is being the same.
  constructor
  · rintro (alike | _)
    rw [alike.eq_of_leaf flat]
  · rintro rfl
    exact rel_alike_refl _

/-- Putting or removing the entry of a name concerns the first one that carries it. -/
theorem setChild_append {name : String} {before behind : List (String × Entry)} {old : Entry}
    (first : name ∉ before.map Prod.fst) (child : Option Entry) :
    setChild name child (before ++ (name, old) :: behind)
      = before ++ (child.map (name, ·)).toList ++ behind := by
  -- Induction on the entries before it, none of which has that name.
  induction before with
  | nil => cases child <;> simp [setChild]
  | cons other rest ih =>
    rw [List.map_cons, List.mem_cons, not_or] at first
    simp [setChild, Ne.symm first.1, ih first.2]

/-- A tree is another one without an entry that stood at some names there. That entry is gone from
its directory, and nothing else is changed. -/
inductive Lacks (entry : Entry) : (names : List String) → (tree left : Entry) → Prop
  | here {name : String} {before behind : List (String × Entry)}
    (first : name ∉ before.map Prod.fst) :
    Lacks entry [name] (.directory (before ++ (name, entry) :: behind))
      (.directory (before ++ behind))
  | further {name : String} {names : List String} {before behind : List (String × Entry)}
    {inner left : Entry} (first : name ∉ before.map Prod.fst)
    (lacks : Lacks entry names inner left) :
    Lacks entry (name :: names) (.directory (before ++ (name, inner) :: behind))
      (.directory (before ++ (name, left) :: behind))

variable {entry tree left : Entry} {names other : List String}

/-- Removing what stands at some names leaves the tree without it. -/
theorem lacks_set_none (placed : names ≠ []) (stands : tree.at? names = some entry) :
    Lacks entry names tree (tree.set none names) := by
  -- Induction on the names: the last one is taken out of its directory, and the others are put
  -- back.
  induction names generalizing tree with
  | nil => exact absurd rfl placed
  | cons name rest ih =>
    obtain ⟨child, leads, onward⟩ := Option.bind_eq_some_iff.mp stands
    have found := leads
    obtain ⟨before, behind, rfl, first⟩ := child?_eq_some_iff.mp leads
    cases rest with
    | nil =>
      -- The last name is that of the entry itself.
      obtain rfl := Option.some.inj onward
      simpa only [set, setChild_append first, Option.map_none, Option.toList_none, List.append_nil]
        using Lacks.here first
    | cons next more =>
      obtain ⟨⟨_, _⟩, sought, rfl⟩ := Option.map_eq_some_iff.mp found
      rw [Entry.entries] at sought
      simpa only [set, sought, setChild_append first, Option.map_some, Option.toList_some,
        List.append_assoc, List.singleton_append] using Lacks.further first (ih (by simp) onward)

/-- A tree without one of its entries is another tree. -/
theorem Lacks.ne (lacks : Lacks entry names tree left) : left ≠ tree := by
  -- Somewhere on the way a directory has one entry less.
  induction lacks with
  | here first =>
    intro same
    have lengths := congrArg List.length (directory.inj same)
    simp at lengths
  | further first lacks ih =>
    intro same
    simp only [directory.injEq, List.append_cancel_left_eq, List.cons.injEq, Prod.mk.injEq, true_and,
      and_true] at same
    exact ih same

/-- Names that do not lead through the entry that is gone lead to what they led to before, but for
the entries of the directories above it. -/
theorem Lacks.rel_at? (lacks : Lacks entry names tree left) (apart : ¬names <+: other) :
    Option.Rel Alike (tree.at? other) (left.at? other) := by
  -- The induction follows the names of what is gone for as long as the others go along with them.
  induction lacks generalizing other with
  | @here name before behind first =>
    cases other with
    | nil => exact .some (.inr ⟨rfl, rfl⟩)
    | cons next more =>
      have parted : name ≠ next := by simpa using apart
      rw [at?, at?, child?_of_ne parted]
      exact rel_alike_refl _
  | @further name names before behind inner left first lacks ih =>
    cases other with
    | nil => exact .some (.inr ⟨rfl, rfl⟩)
    | cons next more =>
      by_cases same : name = next
      · subst same
        rw [at?, at?, child?_first first, child?_first first]
        exact ih fun within => apart ((List.prefix_cons_inj name).mpr within)
      · rw [at?, at?, child?_of_ne same, child?_of_ne same]
        exact rel_alike_refl _

/-- Where names stand for one entry each, none lead to or through the entry that is gone. -/
theorem Lacks.at?_eq_none (lacks : Lacks entry names tree left) (distinct : tree.Distinct)
    (through : names <+: other) : left.at? other = none := by
  -- Induction on how the entry is lacking, with the names before it passed one by one.
  obtain ⟨more, rfl⟩ := through
  induction lacks with
  | @here name before behind first =>
    -- The name would stand for a second entry.
    have apart := distinct.1
    rw [List.map_append, List.map_cons, List.nodup_append, List.nodup_cons] at apart
    cases leads : (directory (before ++ behind)).child? name with
    | none => simp [at?, leads]
    | some child =>
      obtain ⟨before', behind', same, _⟩ := child?_eq_some_iff.mp leads
      have carried : (name, child) ∈ before ++ behind := by
        rw [directory.inj same]
        simp
      rcases List.mem_append.mp carried with within | within
      · exact absurd (List.mem_map_of_mem (f := Prod.fst) within) first
      · exact absurd (List.mem_map_of_mem (f := Prod.fst) within) apart.2.1.1
  | @further name names before behind inner left first lacks ih =>
    rw [List.cons_append, at?, child?_first first]
    exact ih (distinctIn_iff.mp distinct.2 (name, inner) (by simp))

end ModelServing.Entry
