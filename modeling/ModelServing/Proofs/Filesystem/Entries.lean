import Mathlib.Data.List.Nodup
import ModelServing.Filesystem.Tree

/-! What names stand for in a tree, and the list of everything that is below a directory. -/

namespace ModelServing.Entry

/-- A name leads to the first of a directory's entries that carry it. -/
theorem child?_eq_some_iff {name : String} {tree child : Entry} :
    tree.child? name = some child ↔ ∃ before behind,
      tree = .directory (before ++ (name, child) :: behind) ∧ name ∉ before.map Prod.fst := by
  -- A search tells the first hit, that is, a place with no hit before it.
  cases tree with
  | directory entries =>
    simp only [child?, Entry.entries, Option.map_eq_some_iff, List.find?_eq_some_iff_append,
      beq_iff_eq, Bool.not_eq_eq_eq_not, Bool.not_true, beq_eq_false_iff_ne, directory.injEq]
    constructor
    · rintro ⟨⟨found, _⟩, ⟨rfl, before, behind, same, first⟩, rfl⟩
      refine ⟨before, behind, same, fun carried => ?_⟩
      obtain ⟨other, within, named⟩ := List.mem_map.mp carried
      exact first other within named
    · rintro ⟨before, behind, same, first⟩
      exact ⟨(name, child), ⟨rfl, before, behind, same,
        fun other within named => first (List.mem_map.mpr ⟨other, within, named⟩)⟩, rfl⟩
  | _ => simp [child?, Entry.entries]

/-- The first entry of a name is what the name leads to. -/
theorem child?_first {name : String} {before behind : List (String × Entry)}
    (first : name ∉ before.map Prod.fst) (child : Entry) :
    (directory (before ++ (name, child) :: behind)).child? name = some child :=
  -- The place is the one that is given.
  child?_eq_some_iff.mpr ⟨before, behind, rfl, first⟩

/-- An entry of another name makes no difference to what a name leads to. -/
theorem child?_of_ne {name other : String} (apart : other ≠ name)
    (before behind : List (String × Entry)) (child : Entry) :
    (directory (before ++ (other, child) :: behind)).child? name
      = (directory (before ++ behind)).child? name := by
  -- The search passes over that entry.
  simp [child?, Entry.entries, List.find?_append, apart]

/-- Names lead on from where the first of them lead. -/
theorem at?_append (root : Entry) (names more : List String) :
    root.at? (names ++ more) = (root.at? names).bind fun entry => entry.at? more := by
  -- A name that stands for nothing ends both.
  induction names generalizing root with
  | nil => rfl
  | cons name rest ih =>
    simp only [List.cons_append, at?]
    cases root.child? name with
    | none => rfl
    | some child => exact ih child

mutual

/-- In no directory of a tree does one name stand for two entries. -/
def Distinct : Entry → Prop
  | .directory entries => (entries.map Prod.fst).Nodup ∧ DistinctIn entries
  | _ => True

/-- In none of the entries of a directory does one name stand for two entries. -/
def DistinctIn : List (String × Entry) → Prop
  | [] => True
  | (_, entry) :: rest => Distinct entry ∧ DistinctIn rest

end

/-- Names stand for one entry each below a directory exactly if they do in each of its entries. -/
theorem distinctIn_iff {entries : List (String × Entry)} :
    DistinctIn entries ↔ ∀ child ∈ entries, Distinct child.2 := by
  -- Both sides are defined entry by entry.
  induction entries with
  | nil => simp [DistinctIn]
  | cons first rest ih => simp [DistinctIn, ih]

/-- Where names stand for one entry each, a name leads to the entry that carries it. -/
theorem Distinct.child?_eq_some_iff {entries : List (String × Entry)} {name : String}
    {child : Entry} (distinct : Distinct (.directory entries)) :
    (directory entries).child? name = some child ↔ (name, child) ∈ entries := by
  -- Being the first with a name and carrying it are the same where names are not repeated.
  rw [Entry.child?_eq_some_iff]
  constructor
  · rintro ⟨before, behind, same, _⟩
    rw [directory.inj same]
    exact List.mem_append_right before List.mem_cons_self
  · intro within
    obtain ⟨before, behind, rfl⟩ := List.append_of_mem within
    refine ⟨before, behind, rfl, fun carried => ?_⟩
    -- The name would stand for an entry before that one as well.
    have apart := distinct.1
    rw [List.map_append, List.nodup_append] at apart
    exact apart.2.2 name carried name (by simp) rfl

/-- Below a tree in which names stand for one entry each, they do so as well. -/
theorem Distinct.of_at? {tree entry : Entry} {names : List String} (distinct : tree.Distinct)
    (stands : tree.at? names = some entry) : entry.Distinct := by
  -- Induction on the names, each of which leads one step down.
  induction names generalizing tree with
  | nil => exact Option.some.inj stands ▸ distinct
  | cons name rest ih =>
    obtain ⟨child, leads, onward⟩ := Option.bind_eq_some_iff.mp stands
    obtain ⟨before, behind, rfl, _⟩ := Entry.child?_eq_some_iff.mp leads
    exact ih (distinctIn_iff.mp distinct.2 (name, child) (by simp)) onward

mutual

/-- Everything that is below a directory, with the names that lead there. -/
def descendants : Entry → List (List String × Entry)
  | .directory entries => descendantsIn entries
  | _ => []

/-- The entries of a directory and everything that is below them. -/
def descendantsIn : List (String × Entry) → List (List String × Entry)
  -- Names are told from the directory on, so the name of each entry is put in front.
  | [] => []
  | (name, entry) :: rest =>
    ([name], entry) :: (descendants entry).map (fun found => (name :: found.1, found.2))
      ++ descendantsIn rest

end

/-- Below a directory there are its entries and what is below them. -/
theorem mem_descendantsIn_iff {entries : List (String × Entry)} {names : List String}
    {entry : Entry} : (names, entry) ∈ descendantsIn entries ↔ ∃ name child more, (name, child) ∈ entries ∧
      names = name :: more ∧ (more = [] ∧ entry = child ∨ (more, entry) ∈ child.descendants) := by
  -- Induction on the entries: what is found is the first entry, below it, or in the rest.
  induction entries with
  | nil => simp [descendantsIn]
  | cons first rest ih =>
    obtain ⟨name, child⟩ := first
    simp only [descendantsIn, List.cons_append, List.mem_cons, List.mem_append, ih, List.mem_map]
    constructor
    · rintro (same | ⟨⟨more, found⟩, within, same⟩ | ⟨name', child', more, within, same, further⟩)
      · cases same
        exact ⟨name, entry, [], .inl rfl, rfl, .inl ⟨rfl, rfl⟩⟩
      · cases same
        exact ⟨name, child, more, .inl rfl, rfl, .inr within⟩
      · exact ⟨name', child', more, .inr within, same, further⟩
    · rintro ⟨name', child', more, same | within, rfl, further⟩
      · cases same
        rcases further with ⟨rfl, rfl⟩ | within
        · exact .inl rfl
        · exact .inr (.inl ⟨(more, entry), within, rfl⟩)
      · exact .inr (.inr ⟨name', child', more, within, rfl, further⟩)

/-- Nothing is below what is no directory. -/
theorem descendants_of_leaf {leaf : Entry} (flat : leaf.isDirectory = false) :
    leaf.descendants = [] := by
  -- Only directories have anything below them.
  cases leaf with
  | directory entries => cases flat
  | _ => rfl

/-- At least one name leads to what is below a directory. -/
theorem nil_not_mem_descendants (tree : Entry) : [] ∉ tree.descendants.map Prod.fst := by
  -- Everything that is listed has the name of an entry in front.
  cases tree <;> simp [descendants, mem_descendantsIn_iff]

/-- What is below a directory is what stands at one name or more. -/
theorem Distinct.mem_descendants_iff {tree entry : Entry} {names : List String}
    (distinct : tree.Distinct) :
    (names, entry) ∈ tree.descendants ↔ names ≠ [] ∧ tree.at? names = some entry := by
  -- The induction goes down the names, by one directory for each.
  induction names generalizing tree with
  | nil => cases tree <;> simp [descendants, mem_descendantsIn_iff]
  | cons name rest ih =>
    cases tree with
    | directory entries =>
      simp only [descendants, mem_descendantsIn_iff, at?, Option.bind_eq_some_iff,
        distinct.child?_eq_some_iff, List.cons.injEq, ne_eq, reduceCtorEq, not_false_eq_true,
        true_and]
      constructor
      · rintro ⟨_, child, _, within, ⟨rfl, rfl⟩, further⟩
        refine ⟨child, within, ?_⟩
        rcases further with ⟨rfl, rfl⟩ | further
        · rfl
        · exact ((ih (distinctIn_iff.mp distinct.2 _ within)).mp further).2
      · rintro ⟨child, within, stands⟩
        refine ⟨name, child, rest, within, ⟨rfl, rfl⟩, ?_⟩
        cases rest with
        | nil => exact .inl ⟨rfl, (Option.some.inj stands).symm⟩
        | cons next more =>
          exact .inr ((ih (distinctIn_iff.mp distinct.2 _ within)).mpr ⟨by simp, stands⟩)
    | _ => simp [descendants, at?, child?, Entry.entries]

mutual

/-- Below a directory everything is listed once. -/
theorem Distinct.nodup_descendants : ∀ {tree : Entry}, tree.Distinct →
    (tree.descendants.map Prod.fst).Nodup
  -- The two statements are proved together, since the listing of a tree and that of its entries
  -- are.
  | .directory _, distinct => nodup_descendantsIn distinct.1 distinct.2
  | .file _, _ | .link _, _ | .pipe, _ | .socket, _ => List.nodup_nil

/-- The entries of a directory and everything that is below them are listed once. -/
theorem nodup_descendantsIn : ∀ {entries : List (String × Entry)}, (entries.map Prod.fst).Nodup →
    DistinctIn entries → ((descendantsIn entries).map Prod.fst).Nodup
  -- The names of the first entry, of what is below it and of the rest are all different.
  | [], _, _ => List.nodup_nil
  | (name, entry) :: rest, apart, distinct => by
    obtain ⟨alone, apart⟩ := List.nodup_cons.mp apart
    have inner := distinct.1.nodup_descendants
    have others := nodup_descendantsIn apart distinct.2
    -- The first name tells what is below the first entry from everything else.
    have elsewhere : ∀ more, name :: more ∉ (descendantsIn rest).map Prod.fst := by
      intro more listed
      obtain ⟨⟨_, found⟩, within, rfl⟩ := List.mem_map.mp listed
      obtain ⟨_, child, _, carried, same, _⟩ := mem_descendantsIn_iff.mp within
      cases same
      exact alone (List.mem_map.mpr ⟨(name, child), carried, rfl⟩)
    have behind : ((entry.descendants.map fun found => (name :: found.1, found.2)).map Prod.fst)
        = (entry.descendants.map Prod.fst).map (name :: ·) := by
      simp
    rw [descendantsIn, List.cons_append, List.map_cons, List.map_append, behind, List.nodup_cons,
      List.mem_append, List.nodup_append']
    refine ⟨?_, inner.map fun _ _ => List.tail_eq_of_cons_eq, others, ?_⟩
    · rintro (listed | listed)
      · obtain ⟨more, listed, same⟩ := List.mem_map.mp listed
        rw [List.cons.injEq] at same
        exact nil_not_mem_descendants entry (same.2 ▸ listed)
      · exact elsewhere [] listed
    · intro names listed
      obtain ⟨more, _, rfl⟩ := List.mem_map.mp listed
      exact elsewhere more

end

end ModelServing.Entry
