import Mathlib.Algebra.BigOperators.Group.List.Basic
import Mathlib.Algebra.GroupWithZero.Nat
import ModelServing.Filesystem.Size
import ModelServing.Proofs.Filesystem.PathLookup

/-! The size of a tree as a sum over everything that is below it. -/

namespace ModelServing

/-- The path of what names lead to from a directory. -/
def Path.along (directory : String) (names : List String) : String :=
  names.foldl Path.join directory

namespace Filesystem

/-- What a measurement of some paths comes to: the sum of the sizes if the system takes all of the
paths, and otherwise a failure that names one which is too long. -/
def Measures (paths : List (String × Nat)) : Except SystemError Nat → Prop
  -- A path that is too long is named, but which one depends on the order of the listing.
  | .ok total =>
    (∀ path ∈ paths, path.1.utf8ByteSize ≤ pathLimit) ∧ total = (paths.map Prod.snd).sum
  | .error cause =>
    ∃ path ∈ paths, pathLimit < path.1.utf8ByteSize ∧ cause = ⟨.nameTooLong, path.1⟩

variable {paths others : List (String × Nat)} {measured more : Except SystemError Nat}

/-- Nothing has the size zero. -/
theorem measures_nil : Measures [] (.ok 0) :=
  -- No paths are too long, and none have a size.
  ⟨by simp, rfl⟩

/-- One path is measured by looking at its length. -/
theorem measures_checkLength (path : String) (size : Nat) :
    Measures [(path, size)] (do checkLength path; return size) := by
  -- The length is what decides.
  unfold checkLength
  split
  · rename_i long
    exact ⟨(path, size), List.mem_cons_self, long, rfl⟩
  · rename_i short
    exact ⟨by simpa using short, by simp⟩

/-- Two measurements after each other measure the paths of both. -/
theorem Measures.add (first : Measures paths measured) (second : Measures others more) :
    Measures (paths ++ others) (do return (← measured) + (← more)) := by
  -- The first failure is that of the whole, and sums are added.
  cases measured with
  | error cause =>
    obtain ⟨path, within, long⟩ := first
    exact ⟨path, List.mem_append_left _ within, long⟩
  | ok size =>
    cases more with
    | error cause =>
      obtain ⟨path, within, long⟩ := second
      exact ⟨path, List.mem_append_right _ within, long⟩
    | ok rest =>
      obtain ⟨short, rfl⟩ := first
      obtain ⟨others, rfl⟩ := second
      refine ⟨fun path within => ?_, by simp⟩
      exact (List.mem_append.mp within).elim (short path) (others path)

/-- The order of the paths does not matter for their sum. -/
theorem Measures.perm (measures : Measures paths measured) (same : paths.Perm others) :
    Measures others measured := by
  -- Neither condition depends on the order.
  cases measured with
  | ok total =>
    exact ⟨fun path within => measures.1 path (same.mem_iff.mpr within),
      measures.2.trans ((same.map Prod.snd).sum_eq)⟩
  | error cause =>
    obtain ⟨path, within, long⟩ := measures
    exact ⟨path, same.mem_iff.mp within, long⟩

/-- The paths of what is found below a directory, with the sizes of the files. -/
def pathsOf (path : String) (found : List (List String × Entry)) : List (String × Nat) :=
  found.map fun found => (Path.along path found.1, found.2.fileSize)

/-- The paths of what lies directly in a directory and is none. -/
def filePaths (path : String) (entries : List (String × Entry)) : List (String × Nat) :=
  (entries.filter fun child => !child.2.isDirectory).map fun child =>
    (Path.join path child.1, child.2.fileSize)

/-- The paths of the directories in a directory and of everything below them. -/
def subtreePaths (path : String) (entries : List (String × Entry)) : List (String × Nat) :=
  (entries.filter fun child => child.2.isDirectory).flatMap fun child =>
    pathsOf (Path.join path child.1) (([], child.2) :: child.2.descendants)

/-- The paths in a directory are those of its files and those of its directories, in some order. -/
theorem perm_pathsOf_descendantsIn (path : String) (entries : List (String × Entry)) :
    (filePaths path entries ++ subtreePaths path entries).Perm
      (pathsOf path (Entry.descendantsIn entries)) := by
  -- Induction on the entries: each is among the files or among the directories, with all that is
  -- below it.
  induction entries with
  | nil => exact .refl _
  | cons first rest ih =>
    obtain ⟨name, entry⟩ := first
    -- Below the first entry, all names have its own in front.
    have deeper : pathsOf path (Entry.descendantsIn ((name, entry) :: rest))
        = pathsOf (Path.join path name) (([], entry) :: entry.descendants)
          ++ pathsOf path (Entry.descendantsIn rest) := by
      simp [pathsOf, Entry.descendantsIn, Path.along]
    rw [deeper]
    cases flat : entry.isDirectory with
    | true =>
      have there : subtreePaths path ((name, entry) :: rest)
          = pathsOf (Path.join path name) (([], entry) :: entry.descendants)
            ++ subtreePaths path rest := by
        simp [subtreePaths, flat]
      have none : filePaths path ((name, entry) :: rest) = filePaths path rest := by
        simp [filePaths, flat]
      rw [there, none]
      exact List.perm_append_comm_assoc _ _ _ |>.trans (ih.append_left _)
    | false =>
      have there : subtreePaths path ((name, entry) :: rest) = subtreePaths path rest := by
        simp [subtreePaths, flat]
      have here : filePaths path ((name, entry) :: rest)
          = pathsOf (Path.join path name) [([], entry)] ++ filePaths path rest := by
        simp [filePaths, flat, pathsOf, Path.along]
      rw [there, here, Entry.descendants_of_leaf flat, List.append_assoc]
      exact ih.append_left _

/-- The size of the files in a directory measures their paths. -/
theorem filesSize_measures (path : String) (entries : List (String × Entry)) :
    Measures (filePaths path entries) (filesSize path entries) := by
  -- Induction on the files, one after the other.
  unfold filePaths filesSize
  induction entries.filter fun child => !child.2.isDirectory with
  | nil => exact measures_nil
  | cons child rest ih =>
    simpa [List.mapM_cons] using
      (measures_checkLength (Path.join path child.1) child.2.fileSize).add ih

/-- Anything but a directory has no size as a tree. -/
theorem treeSize_of_leaf {leaf : Entry} (flat : leaf.isDirectory = false) (path : String) :
    treeSize path leaf = .ok 0 := by
  -- Only directories are measured as trees.
  cases leaf with
  | directory entries => cases flat
  | _ => rfl

mutual

/-- The size of a directory tree measures its path and all paths below it. -/
theorem treeSize_measures (path : String) : ∀ tree : Entry, tree.isDirectory = true →
    Measures (pathsOf path (([], tree) :: tree.descendants)) (treeSize path tree)
  -- The tree is measured together with the entries of its directories, as the two functions call
  -- each other.
  | .directory entries, _ => by
    have inner := ((filesSize_measures path entries).add (subtreesSize_measures path entries)).perm
      (perm_pathsOf_descendantsIn path entries)
    simpa [treeSize, pathsOf, Path.along, Entry.descendants, Entry.fileSize] using
      (measures_checkLength path 0).add inner

/-- The size of the directories in a directory measures their paths and all paths below them. -/
theorem subtreesSize_measures (path : String) : ∀ entries : List (String × Entry),
    Measures (subtreePaths path entries) (subtreesSize path entries)
  -- The first entry is a directory, which is measured as a tree, or it is left to the files.
  | [] => measures_nil
  | (name, entry) :: rest => by
    have others := subtreesSize_measures path rest
    cases flat : entry.isDirectory with
    | true =>
      have inner := treeSize_measures (Path.join path name) entry flat
      simpa [subtreesSize, subtreePaths, flat] using inner.add others
    | false =>
      -- Anything else counts among the files.
      simpa [subtreesSize, subtreePaths, flat, treeSize_of_leaf flat] using measures_nil.add others

end

/-- A directory whose own path is short enough has the sum over all that is below it as its size, or
there is something below it whose path is too long. -/
theorem treeSize_directory_cases {path : String} {entries : List (String × Entry)}
    (distinct : (Entry.directory entries).Distinct) (short : path.utf8ByteSize ≤ pathLimit) :
    ((∀ found ∈ (Entry.directory entries).descendants,
        (Path.along path found.1).utf8ByteSize ≤ pathLimit) ∧
      treeSize path (.directory entries) = .ok
        ((Entry.directory entries).descendants.map fun found => found.2.fileSize).sum) ∨
    ∃ names entry, names ≠ [] ∧ (Entry.directory entries).at? names = some entry ∧
      pathLimit < (Path.along path names).utf8ByteSize ∧
      treeSize path (.directory entries) = .error ⟨.nameTooLong, Path.along path names⟩ := by
  -- The names that are too long cannot be those of the directory itself, whose path is short.
  have measures := treeSize_measures path (.directory entries) rfl
  cases told : treeSize path (.directory entries) with
  | ok total =>
    rw [told] at measures
    obtain ⟨within, rfl⟩ := measures
    refine .inl ⟨fun found below => ?_, ?_⟩
    · exact within _ (List.mem_cons_of_mem _ (List.mem_map_of_mem below))
    · simp [pathsOf, Entry.fileSize, Function.comp_def]
  | error cause =>
    rw [told] at measures
    obtain ⟨_, below, long, rfl⟩ := measures
    rw [pathsOf, List.map_cons, List.mem_cons, List.mem_map] at below
    rcases below with rfl | ⟨⟨names, entry⟩, below, rfl⟩
    · -- This is the path of the directory itself.
      exact absurd short (Nat.not_le.mpr long)
    · obtain ⟨deeper, stands⟩ := distinct.mem_descendants_iff.mp below
      exact .inr ⟨names, entry, deeper, stands, long, rfl⟩

/-- A list of all that is below a directory: each entry once, with the names that lead there without
passing a link. -/
structure Lists (tree : Entry) (listing : List (List String × Entry)) : Prop where
  once : (listing.map Prod.fst).Nodup
  all : ∀ names entry, (names, entry) ∈ listing ↔ names ≠ [] ∧ tree.at? names = some entry

/-- Where names stand for one entry each, everything below a directory can be listed. -/
theorem lists_descendants {tree : Entry} (distinct : tree.Distinct) :
    Lists tree tree.descendants where
  -- The listing is the one that the tree is defined with.
  once := distinct.nodup_descendants
  all _ _ := distinct.mem_descendants_iff

/-- Two lists of all that is below a directory differ in their order only. -/
theorem Lists.perm {tree : Entry} {first second : List (List String × Entry)}
    (lists : Lists tree first) (again : Lists tree second) : first.Perm second := by
  -- Both hold the same entries, each of them once.
  refine (List.perm_ext_iff_of_nodup lists.once.of_map again.once.of_map).mpr ?_
  rintro ⟨names, entry⟩
  rw [lists.all, again.all]

/-- What keeps the size of a tree from being told, with the path that is at fault: nothing is there,
it is no directory, or something below it has a path that the system does not take. -/
inductive Unmeasurable (fs : Filesystem) (path : String) : SystemError → Prop
  | lost {errno : Errno} (lost : fs.find true path = .error errno) :
    Unmeasurable fs path ⟨errno, path⟩
  | leaf {names : List String} {entry : Entry} (found : fs.find true path = .ok (names, entry))
    (leaf : entry.isDirectory = false) : Unmeasurable fs path ⟨.notDirectory, path⟩
  | long {names more : List String} {entries : List (String × Entry)} {entry : Entry}
    (found : fs.find true path = .ok (names, .directory entries)) (deeper : more ≠ [])
    (stands : (Entry.directory entries).at? more = some entry)
    (long : pathLimit < (Path.along path more).utf8ByteSize) :
    Unmeasurable fs path ⟨.nameTooLong, Path.along path more⟩

/-- The size of a tree is told as the sum over all that is below it, or there is something that
keeps it from being told. -/
theorem measure_cases {fs : Filesystem} (distinct : fs.root.Distinct) {path : String}
    (clean : hasNull path = false) :
    (∃ names entries, fs.find true path = .ok (names, .directory entries) ∧
      (∀ found ∈ (Entry.directory entries).descendants,
        (Path.along path found.1).utf8ByteSize ≤ pathLimit) ∧
      fs.measure path = .ok
        ((Entry.directory entries).descendants.map fun found => found.2.fileSize).sum) ∨
    ∃ cause, Unmeasurable fs path cause ∧ fs.measure path = .error (.system cause) := by
  -- The cases are what the path leads to: nothing, something that is no directory, or a directory.
  cases reaches : fs.find true path with
  | error errno =>
    exact .inr ⟨_, .lost reaches, by simp [measure, clean, size, status, reaches, Except.map,
      Except.mapError]⟩
  | ok place =>
    obtain ⟨names, entry⟩ := place
    cases directory : entry.isDirectory with
    | false =>
      refine .inr ⟨_, .leaf reaches directory, ?_⟩
      cases entry with
      | directory entries => cases directory
      | _ => simp [measure, clean, size, status, reaches, Except.map, Except.mapError]
    | true =>
      obtain ⟨entries, rfl⟩ := Entry.exists_directory directory
      have same : fs.measure path = (treeSize path (.directory entries)).mapError .system := by
        simp [measure, clean, size, status, reaches, Except.map]
      -- A path that is found is short enough.
      rcases treeSize_directory_cases (distinct.of_at? (at?_of_find reaches))
          (find_eq_ok_iff.mp reaches).2.1 with
        ⟨short, told⟩ | ⟨more, entry, deeper, stands, long, told⟩
      · exact .inl ⟨names, entries, rfl, short, by rw [same, told, Except.mapError]⟩
      · exact .inr ⟨_, .long reaches deeper stands long, by rw [same, told, Except.mapError]⟩

/-- What keeps a size from being told leaves no directory with short paths below it. -/
theorem Unmeasurable.exists_long {fs : Filesystem} {path : String} {cause : SystemError}
    (unmeasurable : Unmeasurable fs path cause) {names : List String}
    {entries : List (String × Entry)} {listing : List (List String × Entry)}
    (found : fs.find true path = .ok (names, .directory entries))
    (lists : Lists (.directory entries) listing) :
    ∃ found ∈ listing, pathLimit < (Path.along path found.1).utf8ByteSize := by
  -- One after the other, the reasons contradict what was found, until the long path is left.
  cases unmeasurable with
  | lost lost =>
    rw [found] at lost
    cases lost
  | leaf reached leaf =>
    rw [found] at reached
    cases reached
    cases leaf
  | @long _ more _ entry reached deeper stands long =>
    rw [found] at reached
    cases reached
    exact ⟨(more, entry), (lists.all _ _).mpr ⟨deeper, stands⟩, long⟩

variable {fs : Filesystem} {path : String}

/-- A path with a null character has no size. -/
theorem measure_of_null (null : hasNull path = true) : fs.measure path = .error .nullCharacter := by
  -- The null character is found before the system is asked.
  simp [measure, null]

/-- The size of a tree is the sum over any list of all that is below it. It is told if all paths
there are short enough. -/
theorem measure_eq_ok_iff (distinct : fs.root.Distinct) {total : Nat} :
    fs.measure path = .ok total ↔ hasNull path = false ∧
      ∃ names entries listing, fs.find true path = .ok (names, .directory entries) ∧
        Lists (.directory entries) listing ∧
        (∀ found ∈ listing, (Path.along path found.1).utf8ByteSize ≤ pathLimit) ∧
        total = (listing.map fun found => found.2.fileSize).sum := by
  -- What was measured decides between the sum and a reason, and the reasons are excluded by the
  -- right-hand side.
  constructor
  · intro told
    cases clean : hasNull path with
    | true => simp [measure_of_null clean] at told
    | false =>
      rcases measure_cases distinct clean with ⟨names, entries, found, short, same⟩ | ⟨_, _, failed⟩
      · have inner : (Entry.directory entries).Distinct := distinct.of_at? (at?_of_find found)
        rw [told, Except.ok.injEq] at same
        exact ⟨rfl, names, entries, _, found, lists_descendants inner, short, same⟩
      · rw [told] at failed
        cases failed
  · rintro ⟨clean, names, entries, listing, found, lists, short, rfl⟩
    rcases measure_cases distinct clean with ⟨_, _, again, _, same⟩ | ⟨cause, unmeasurable, _⟩
    · -- The list that is measured has the same entries in another order.
      rw [found] at again
      cases again
      have inner : (Entry.directory entries).Distinct := distinct.of_at? (at?_of_find found)
      rw [same, (((lists_descendants inner).perm lists).map _).sum_eq]
    · obtain ⟨entry, within, long⟩ := unmeasurable.exists_long found lists
      exact absurd (short entry within) (Nat.not_le.mpr long)

/-- A size that is not told fails for a null character in the path or for what keeps it from being
told. -/
theorem measure_eq_error (distinct : fs.root.Distinct) {failure : Failure}
    (failed : fs.measure path = .error failure) :
    hasNull path = true ∧ failure = .nullCharacter ∨
      ∃ cause, Unmeasurable fs path cause ∧ failure = .system cause := by
  -- A path without a null character fails for one of the reasons.
  cases clean : hasNull path with
  | true =>
    rw [measure_of_null clean, Except.error.injEq] at failed
    exact .inl ⟨rfl, failed.symm⟩
  | false =>
    rcases measure_cases distinct clean with ⟨_, _, _, _, told⟩ | ⟨cause, unmeasurable, same⟩
    · rw [told] at failed
      cases failed
    · rw [same, Except.error.injEq] at failed
      exact .inr ⟨cause, unmeasurable, failed.symm⟩

/-- What keeps a size from being told does so. -/
theorem exists_measure_eq_error (distinct : fs.root.Distinct)
    (kept : hasNull path = true ∨ ∃ cause, Unmeasurable fs path cause) :
    ∃ failure, fs.measure path = .error failure := by
  -- If the size was told, then all the paths would be short.
  cases measured : fs.measure path with
  | error failure => exact ⟨failure, rfl⟩
  | ok total =>
    obtain ⟨clean, names, entries, listing, found, lists, short, _⟩ :=
      (measure_eq_ok_iff distinct).mp measured
    rcases kept with null | ⟨cause, unmeasurable⟩
    · rw [clean] at null
      cases null
    · obtain ⟨entry, within, long⟩ := unmeasurable.exists_long found lists
      exact absurd (short entry within) (Nat.not_le.mpr long)

end Filesystem

end ModelServing
