import Mathlib.Data.List.Infix
import ModelServing.Proofs.Filesystem.Characters

/-! Simplified paths: which names they have, and how their directories and what is seen from them
are spelled. -/

namespace ModelServing.Path

/-- A double dot is a name. -/
theorem isName_dots : IsName ".." :=
  -- It holds no slash, and is neither empty nor a single dot.
  ⟨by decide, by decide, by decide⟩

/-- A name that is no double dot is put behind the parts before it. -/
theorem pushPart_of_proper {part : String} (named : IsName part) (proper : part ≠ "..")
    (rooted : Bool) (kept : List String) : pushPart rooted kept part = part :: kept := by
  -- Of the parts that are treated in another way, it is none.
  simp [pushPart, named.nonempty, named.undotted, proper]

/-- A double dot takes away the part before it, and nothing at the root. -/
theorem pushPart_dots {kept : List String} (proper : ".." ∉ kept) :
    pushPart true kept ".." = kept.tail := by
  -- Only a double dot before it would have to be kept, and there is none.
  cases kept with
  | nil => rfl
  | cons part rest =>
    have other : part ≠ ".." := fun same => proper (by simp [same])
    simp [pushPart]

/-- Only the names on a path count when it is simplified. -/
theorem foldl_pushPart_pieces (rooted : Bool) (path : String) (kept : List String) :
    (pieces path).foldl (pushPart rooted) kept = (names path).foldl (pushPart rooted) kept := by
  -- Empty parts and single dots are passed over.
  rw [names]
  generalize pieces path = parts
  induction parts generalizing kept with
  | nil => rfl
  | cons part rest ih =>
    rw [List.foldl_cons, ih]
    by_cases skipped : part = "" ∨ part = "."
    · rcases skipped with rfl | rfl <;> simp [pushPart]
    · rw [not_or] at skipped
      simp [skipped.1, skipped.2]

/-- Names without double dots are put behind the parts before them. -/
theorem foldl_pushPart_of_proper {parts : List String}
    (proper : ∀ part ∈ parts, IsName part ∧ part ≠ "..") (rooted : Bool) (kept : List String) :
    parts.foldl (pushPart rooted) kept = parts.reverse ++ kept := by
  -- Induction on the names, each of which is put in front of those before it.
  induction parts generalizing kept with
  | nil => rfl
  | cons part rest ih =>
    obtain ⟨named, undotted⟩ := proper part List.mem_cons_self
    rw [List.foldl_cons, pushPart_of_proper named undotted,
      ih fun other member => proper other (List.mem_cons_of_mem part member)]
    simp

/-- Below the root, no double dot stays. -/
theorem dots_not_mem_foldl_pushPart {parts kept : List String} (named : ∀ part ∈ parts, IsName part)
    (proper : ".." ∉ kept) : ".." ∉ parts.foldl (pushPart true) kept := by
  -- Induction on the parts: a double dot takes one away, and any other part is none.
  induction parts generalizing kept with
  | nil => exact proper
  | cons part rest ih =>
    refine ih (fun other member => named other (List.mem_cons_of_mem part member)) ?_
    by_cases dots : part = ".."
    · rw [dots, pushPart_dots proper]
      exact fun member => proper (List.mem_of_mem_tail member)
    · rw [pushPart_of_proper (named part List.mem_cons_self) dots]
      simp [proper, Ne.symm dots]

/-- Adding a name to names leaves names. -/
theorem isName_of_mem_pushPart {rooted : Bool} {kept : List String} {part : String}
    (named : IsName part) (before : ∀ other ∈ kept, IsName other) :
    ∀ other ∈ pushPart rooted kept part, IsName other := by
  -- What is there afterwards was there before, or is the part itself, or a double dot.
  intro other member
  rcases mem_pushPart member with earlier | same | dots
  · exact before other earlier
  · exact same ▸ named
  · exact dots ▸ isName_dots

/-- Simplifying names leaves names. -/
theorem isName_of_mem_foldl_pushPart {rooted : Bool} {parts kept : List String}
    (named : ∀ part ∈ parts, IsName part) (before : ∀ part ∈ kept, IsName part) :
    ∀ part ∈ parts.foldl (pushPart rooted) kept, IsName part := by
  -- What is left are parts of the path, or double dots, and all of these are names.
  intro part member
  rcases mem_foldl_pushPart member with earlier | later | dots
  · exact before part earlier
  · exact named part later
  · exact dots ▸ isName_dots

/-- Going along simplified parts from somewhere ends where going along the parts themselves does,
one part further. -/
theorem foldl_pushPart_pushPart {kept : List String} (before : ∀ part ∈ kept, IsName part)
    {part : String} (named : IsName part) (rooted : Bool) (start : List String) :
    (pushPart false kept part).reverse.foldl (pushPart rooted) start
      = pushPart rooted (kept.reverse.foldl (pushPart rooted) start) part := by
  -- The part is put behind the others, or it takes the last of them away, and then both ways take
  -- one step back.
  by_cases dots : part = ".."
  · subst dots
    cases kept with
    | nil => rfl
    | cons last rest =>
      by_cases same : last = ".."
      · simp [pushPart, same]
      · -- The double dot takes back the step to the part before it.
        have back : pushPart false (last :: rest) ".." = rest := by simp [pushPart]
        rw [back, List.reverse_cons, List.foldl_append, List.foldl_cons, List.foldl_nil,
          pushPart_of_proper (before last List.mem_cons_self) same]
        simp [pushPart]
  · rw [pushPart_of_proper named dots]
    simp

/-- Going along simplified parts from somewhere ends where going along the parts themselves does. -/
theorem foldl_pushPart_simplified {parts kept : List String} (named : ∀ part ∈ parts, IsName part)
    (before : ∀ part ∈ kept, IsName part) (rooted : Bool) (start : List String) :
    (parts.foldl (pushPart false) kept).reverse.foldl (pushPart rooted) start
      = parts.foldl (pushPart rooted) (kept.reverse.foldl (pushPart rooted) start) := by
  -- Induction on the parts, which carries the parts that are kept along.
  induction parts generalizing kept with
  | nil => rfl
  | cons part rest ih =>
    have first := named part List.mem_cons_self
    have others : ∀ other ∈ rest, IsName other :=
      fun other member => named other (List.mem_cons_of_mem part member)
    rw [List.foldl_cons, List.foldl_cons, ih others (isName_of_mem_pushPart first before),
      foldl_pushPart_pushPart before first]

/-- The names that are left of a path when it is simplified: double dots have taken away the names
before them. -/
def resolved (path : String) : List String :=
  ((names path).foldl (pushPart (isAbsolute path)) []).reverse

/-- What is left of a path is made of names. -/
theorem isName_of_mem_resolved {path part : String} (member : part ∈ resolved path) :
    IsName part :=
  -- The parts that are left are parts of the path, from which everything but names was taken out.
  isName_of_mem_foldl_pushPart (fun _ => isName_of_mem) (by simp) part (List.mem_reverse.mp member)

/-- A simplified path starts where the path does and has the names that are left of it. -/
theorem normalize_eq (path : String) : normalize path = rooted path (resolved path) := by
  -- A path has slashes at its root exactly if it is absolute.
  have root : (!(rootSlashes path).isEmpty) = isAbsolute path := by
    rcases rootSlashes_cases path with ⟨relative, empty⟩ | ⟨absolute, one | two⟩
    · rw [relative, empty]; rfl
    · rw [absolute, one]; rfl
    · rw [absolute, two]; rfl
  simp only [normalize, root, foldl_pushPart_pieces]
  rfl

/-- The names on a simplified path are those that are left of the path. -/
theorem names_normalize (path : String) : names (normalize path) = resolved path := by
  -- A simplified path is made of the names that are left.
  rw [normalize_eq, names_rooted path fun _ => isName_of_mem_resolved]

/-- Nothing that is left of an absolute path is a double dot. -/
theorem dots_not_mem_resolved {path : String} (absolute : isAbsolute path = true) :
    ".." ∉ resolved path := by
  -- An absolute path is simplified below the root.
  rw [resolved, absolute, List.mem_reverse]
  exact dots_not_mem_foldl_pushPart (fun _ => isName_of_mem) (by simp)

/-- Names end in no slash. -/
theorem endsInSlash_append_glue (root : String) {parts : List String}
    (named : ∀ part ∈ parts, IsName part) (nonempty : parts ≠ []) :
    endsInSlash (root ++ glue parts) = false := by
  -- The last name stands at the end.
  obtain ⟨front, last, rfl⟩ : ∃ front last, parts = front ++ [last] := by
    rcases List.eq_nil_or_concat parts with empty | ⟨front, last, split⟩
    · exact absurd empty nonempty
    · exact ⟨front, last, by rw [split, List.concat_eq_append]⟩
  have final := named last (by simp)
  obtain ⟨before, -, glued⟩ := glue_append_singleton front last
  have some : last.toList ≠ [] := by simpa using final.nonempty
  rw [glued, endsInSlash, beq_eq_false_iff_ne, String.toList_append, String.toList_append,
    List.getLast?_append_of_ne_nil _ (by simp [some]), List.getLast?_append_of_ne_nil _ some]
  exact fun slash => final.unslashed (List.mem_of_getLast? slash)

/-- A relative text behind a path that ends in a slash, or anything behind one that does not, leaves
the slashes at its root. -/
theorem rootSlashes_append {path text : String} (absolute : isAbsolute path = true)
    (joint : isAbsolute text = false ∨ endsInSlash path = false) :
    rootSlashes (path ++ text) = rootSlashes path := by
  -- At most three characters at the start decide, and the first one is a slash.
  obtain ⟨rest, starts⟩ : ∃ rest, path.toList = '/' :: rest := by
    simpa [isAbsolute, List.head?_eq_some_iff] using absolute
  have relative : path.toList = ['/'] ∨ path.toList = ['/', '/'] → text.toList.head? ≠ some '/' := by
    intro slashes
    rcases joint with relative | ends
    · simpa [isAbsolute] using relative
    · rcases slashes with same | same <;> simp [endsInSlash, same] at ends
  unfold rootSlashes
  rw [String.toList_append]
  rcases rest with _ | ⟨second, _ | ⟨third, more⟩⟩
  · have first := relative (.inl starts)
    rw [starts]
    cases given : text.toList with
    | nil => rfl
    | cons c more =>
      have other : c ≠ '/' := by simpa [given] using first
      simp [other]
  · by_cases slash : second = '/'
    · subst slash
      have first := relative (.inr starts)
      rw [starts]
      cases given : text.toList with
      | nil => rfl
      | cons c more =>
        have other : c ≠ '/' := by simpa [given] using first
        simp [other]
    · simp [starts, slash]
  · by_cases slash : second = '/' <;> by_cases last : third = '/' <;> simp [starts, slash, last]

/-- A relative path that is seen from an absolute one starts with the same slashes. -/
theorem rootSlashes_join {directory path : String} (absolute : isAbsolute directory = true)
    (relative : isAbsolute path = false) :
    rootSlashes (join directory path) = rootSlashes directory := by
  -- The relative path adds no slash at the front, with a slash between the two or without one.
  simp only [join, relative, Bool.false_eq_true, if_false]
  split
  · exact rootSlashes_append absolute (.inl relative)
  · rename_i joint
    rw [Bool.or_eq_true, not_or, Bool.not_eq_true, Bool.not_eq_true] at joint
    rw [String.append_assoc]
    exact rootSlashes_append absolute (.inr joint.2)

/-- A path that was made from names starts with the slashes of the one where it starts. -/
theorem rootSlashes_rooted (path : String) {parts : List String}
    (named : ∀ part ∈ parts, IsName part) :
    rootSlashes (rooted path parts) = rootSlashes path := by
  -- The names begin with no slash, so it is the root that decides.
  rcases rootSlashes_cases path with ⟨relative, root⟩ | ⟨absolute, root⟩
  · have begins := isAbsolute_rooted path named
    rcases rootSlashes_cases (rooted path parts) with ⟨_, same⟩ | ⟨other, _⟩
    · rw [same, root]
    · rw [begins, relative] at other
      cases other
  · have joint : isAbsolute (glue parts) = false ∨ endsInSlash (rootSlashes path) = false :=
      .inl (isAbsolute_glue named)
    have start : isAbsolute (rootSlashes path) = true := by
      rcases root with root | root <;> rw [root] <;> rfl
    have own : rootSlashes (rootSlashes path) = rootSlashes path := by
      rcases root with root | root <;> rw [root] <;> rfl
    have nonempty : (rootSlashes path ++ glue parts).isEmpty = false := by
      rcases root with root | root <;> simp [root]
    simp only [rooted, nonempty, Bool.false_eq_true, if_false]
    rw [rootSlashes_append start joint, own]

/-- What stands behind a path and a slash is seen from that path, if it does not end in a slash
itself. -/
theorem directory_append_slash {path last : String} (nonempty : path ≠ "")
    (ends : endsInSlash path = false) (unslashed : '/' ∉ last.toList) :
    directory (path ++ "/" ++ last) = path := by
  -- The last slash is the one in the middle.
  have text : path ++ "/" ++ last = String.ofList (path.toList ++ '/' :: last.toList) := by
    rw [← String.toList_inj]
    simp
  -- The path's last character is no slash, so that nothing is cut off.
  obtain ⟨c, rest, same⟩ := List.exists_cons_of_ne_nil
    (show path.toList.reverse ≠ [] by simpa using nonempty)
  have other : c ≠ '/' := by
    rw [endsInSlash, ← List.head?_reverse, same, beq_eq_false_iff_ne] at ends
    exact fun slash => ends (by simp [slash])
  have kept : path.toList.all (· == '/') = false := by
    rw [← List.all_reverse, same]
    simp [other]
  rw [text, directory_append unslashed, kept, same]
  simp only [Bool.false_eq_true, if_false]
  rw [List.dropWhile_cons_of_neg (by simpa using other), ← same, List.reverse_reverse,
    String.ofList_toList]

/-- Some names are not spelled by the empty text. -/
theorem rootSlashes_append_glue_ne_empty (path : String) {parts : List String}
    (named : ∀ part ∈ parts, IsName part) (nonempty : parts ≠ []) :
    rootSlashes path ++ glue parts ≠ "" := by
  -- The path that is made from them would have no names.
  intro empty
  have spelled := names_rooted path named
  rw [rooted, empty] at spelled
  exact nonempty spelled.symm

/-- A path that was made from some names is spelled by these names. -/
theorem rooted_of_nonempty (path : String) {parts : List String}
    (named : ∀ part ∈ parts, IsName part) (nonempty : parts ≠ []) :
    rooted path parts = rootSlashes path ++ glue parts := by
  -- The text is not empty, so no dot stands in for it.
  simp [rooted, rootSlashes_append_glue_ne_empty path named nonempty]

/-- A path that was made from names is never empty. -/
theorem rooted_ne_empty (path : String) (parts : List String) : rooted path parts ≠ "" := by
  -- An empty text is replaced by a dot.
  simp only [rooted]
  split
  · decide
  · rename_i filled
    exact mt String.isEmpty_iff.mpr filled

/-- The parts of a path that was made from names are these names, behind the empty parts at its
root. Only a relative path without any name is a single dot. -/
theorem pieces_rooted (path : String) {parts : List String} (named : ∀ part ∈ parts, IsName part) :
    rooted path parts = "." ∨ (pieces (rooted path parts)).dropWhile (· == "") = parts := by
  -- The root is split off, and what is behind it is split at the slashes between the names.
  by_cases empty : rootSlashes path ++ glue parts = ""
  · left
    simp [rooted, empty]
  · right
    have text : rooted path parts = rootSlashes path ++ glue parts := by simp [rooted, empty]
    obtain ⟨count, split⟩ := pieces_behind_root path (glue parts)
    have root : (List.replicate count "").dropWhile (· == "") = [] := by simp
    rw [text, split, List.dropWhile_append, root, List.isEmpty_nil, if_pos rfl]
    -- The text behind the root is empty, or its first part is a name.
    rcases parts with _ | ⟨first, rest⟩
    · rfl
    · have nonempty := (named first List.mem_cons_self).nonempty
      rw [pieces_glue (fun part member => (named part member).unslashed) (by simp)]
      exact List.dropWhile_cons_of_neg (by simpa using nonempty)

/-- The last of several names stands behind a slash. -/
theorem glue_append_slash {parts : List String} (nonempty : parts ≠ []) (last : String) :
    glue (parts ++ [last]) = glue parts ++ "/" ++ last := by
  -- The slash is what stands between the parts.
  rw [glue, String.intercalate_append_of_ne_nil nonempty (by simp), String.intercalate_singleton]
  rfl

/-- Slashes in front of a name are its directory. -/
theorem directory_slashes_append (slashes : List Char) (all : slashes.all (· == '/') = true)
    {last : String} (unslashed : '/' ∉ last.toList) :
    directory (String.ofList (slashes ++ ['/']) ++ last) = String.ofList (slashes ++ ['/']) := by
  -- There are only slashes in front, and they are not taken away.
  have text : String.ofList (slashes ++ ['/']) ++ last
      = String.ofList (slashes ++ '/' :: last.toList) := by
    rw [← String.toList_inj]
    simp
  rw [text, directory_append unslashed, if_pos all]

/-- The directory of a path that was made from names is spelled by all of them but the last. -/
theorem directory_rooted (path : String) {parts : List String}
    (named : ∀ part ∈ parts, IsName part) :
    directory (rooted path parts) = rootSlashes path ++ glue parts.dropLast := by
  -- A single name, several names and no name at all leave different texts in front of the last
  -- slash.
  rcases List.eq_nil_or_concat parts with rfl | ⟨front, last, split⟩
  · -- Without names, there are the slashes at the root or a single dot.
    rcases rootSlashes_cases path with ⟨_, root⟩ | ⟨_, root | root⟩ <;>
      rw [rooted, root] <;> decide
  · rw [List.concat_eq_append] at split
    subst split
    have final : IsName last := named last (by simp)
    have before : ∀ part ∈ front, IsName part := fun part member => named part (by simp [member])
    rw [rooted_of_nonempty path named (by simp), List.dropLast_concat]
    by_cases empty : front = []
    · subst empty
      have single : glue [last] = last := String.intercalate_singleton
      rw [List.nil_append, single]
      rcases rootSlashes_cases path with ⟨_, root⟩ | ⟨_, root | root⟩ <;> rw [root]
      · rw [String.empty_append, directory_of_unslashed final.unslashed]
        rfl
      · exact directory_slashes_append [] rfl final.unslashed
      · exact directory_slashes_append ['/'] rfl final.unslashed
    · rw [glue_append_slash empty, ← String.append_assoc, ← String.append_assoc]
      exact directory_append_slash (rootSlashes_append_glue_ne_empty path before empty)
        (endsInSlash_append_glue _ before empty) final.unslashed

/-- A name that is seen from a directory spelled by names is spelled behind them. -/
theorem join_rootSlashes_glue (path : String) {parts : List String} {last : String}
    (named : ∀ part ∈ parts, IsName part) (final : IsName last) :
    join (rootSlashes path ++ glue parts) last = rootSlashes path ++ glue (parts ++ [last]) := by
  -- A slash is put between the two unless the first ends in one, which the root does.
  have single : glue [last] = last := String.intercalate_singleton
  have relative : isAbsolute last = false := by
    rw [← single]
    exact isAbsolute_glue (by simpa using final)
  by_cases empty : parts = []
  · -- The slashes at the root need no other one behind them.
    subst empty
    rw [List.nil_append, single]
    rcases rootSlashes_cases path with ⟨_, root⟩ | ⟨_, root | root⟩ <;>
      simp [join, relative, root, glue, endsInSlash]
  · have nonempty := rootSlashes_append_glue_ne_empty path named empty
    rw [join, relative, endsInSlash_append_glue _ named empty, glue_append_slash empty]
    simp [nonempty, String.append_assoc]

/-- A name that is seen from the directory of a path made from names takes the place of the last of
them. -/
theorem join_directory_rooted (path : String) {parts : List String} {last : String}
    (named : ∀ part ∈ parts, IsName part) (final : IsName last) :
    join (directory (rooted path parts)) last = rooted path (parts.dropLast ++ [last]) := by
  -- The directory drops the last name, and joining puts the new one there.
  have front : ∀ part ∈ parts.dropLast, IsName part :=
    fun part member => named part (List.mem_of_mem_dropLast member)
  rw [directory_rooted path named, join_rootSlashes_glue path front final,
    rooted_of_nonempty path (List.forall_mem_append.mpr ⟨front, by simpa using final⟩) (by simp)]

/-- Two paths that were made from names and start alike are the same exactly if their names are. -/
theorem rooted_eq_rooted_iff {first second : String} (root : rootSlashes first = rootSlashes second)
    {parts others : List String} (named : ∀ part ∈ parts, IsName part)
    (also : ∀ part ∈ others, IsName part) :
    rooted first parts = rooted second others ↔ parts = others := by
  -- The names can be read back from a path.
  constructor
  · intro same
    rw [← names_rooted first named, same, names_rooted second also]
  · rintro rfl
    simp only [rooted, root]

/-- A relative path that is seen from a directory has the names on the directory's path in front of
its own. -/
theorem names_join {directory path : String} (relative : isAbsolute path = false) :
    names (join directory path) = names directory ++ names path := by
  -- The directory may be empty, end in a slash or end in something else.
  by_cases empty : directory = ""
  · subst empty
    simp [join, relative, names, pieces]
  · obtain ⟨front, joined, same | ⟨same, _⟩⟩ := join_cases empty relative
    · -- The slash at the end of the directory's path spells nothing.
      rw [joined, same, names_append_slash, names_append_slash, String.ofList_toList]
      simp [names, pieces]
    · rw [joined, same, names_append_slash, String.ofList_toList]

/-- What is seen from an absolute path is absolute. -/
theorem isAbsolute_join_of_absolute {directory : String} (absolute : isAbsolute directory = true)
    (path : String) : isAbsolute (join directory path) = true := by
  -- The first character is that of the directory or of the path itself.
  obtain ⟨rest, starts⟩ : ∃ rest, directory.toList = '/' :: rest := by
    simpa [isAbsolute, List.head?_eq_some_iff] using absolute
  simp only [join]
  split
  · assumption
  · split <;> simp [isAbsolute, starts]

/-- An absolute path is the same wherever it is seen from. -/
theorem join_of_absolute (directory : String) {path : String} (absolute : isAbsolute path = true) :
    join directory path = path := by
  -- Joining asks first whether the path is absolute.
  simp [join, absolute]

/-- A relative path that is seen from an absolute one leads on along its own names. -/
theorem resolved_join {directory path : String} (absolute : isAbsolute directory = true)
    (relative : isAbsolute path = false) :
    resolved (join directory path)
      = ((names path).foldl (pushPart true) (resolved directory).reverse).reverse := by
  -- The simplifying reads names from the left, so it can be cut between the two paths.
  rw [resolved, isAbsolute_join_of_absolute absolute, names_join relative, List.foldl_append,
    resolved, absolute, List.reverse_reverse]

end ModelServing.Path
