import Mathlib.Data.List.DropRight
import Mathlib.Data.List.Induction
import Mathlib.Data.List.TakeWhile
import ModelServing.Filesystem.Path
import ModelServing.Proofs.Text.Split

/-! The names on paths that were simplified, joined or cut. -/

namespace ModelServing.Path

/-- A part of a path that counts as a name. -/
structure IsName (part : String) : Prop where
  /-- It is not empty. -/
  nonempty : part ≠ ""
  /-- It is no single dot. -/
  undotted : part ≠ "."
  /-- It holds no slash. -/
  unslashed : '/' ∉ part.toList

/-- The parts on both sides of a slash are those on its left, then those on its right. -/
theorem pieces_append_slash (first second : List Char) :
    pieces (String.ofList (first ++ '/' :: second))
      = pieces (String.ofList first) ++ pieces (String.ofList second) := by
  -- Splitting at a slash splits the text there.
  simp [pieces, List.splitOn_append_cons_self]

/-- The names on both sides of a slash are those on its left, then those on its right. -/
theorem names_append_slash (first second : List Char) :
    names (String.ofList (first ++ '/' :: second))
      = names (String.ofList first) ++ names (String.ofList second) := by
  -- Taking out what is no name works on each side alone.
  simp only [names, pieces_append_slash, List.filter_append]

/-- A name spells itself. -/
theorem IsName.names_eq {part : String} (named : IsName part) : names part = [part] := by
  -- Without a slash there is one part, and it is not taken out.
  simp [names, pieces, List.splitOn_eq_singleton named.unslashed, named.nonempty, named.undotted]

/-- What stands among the names on a path is a name. -/
theorem isName_of_mem {path part : String} (member : part ∈ names path) : IsName part := by
  -- A name is a part between slashes that the filter has let through.
  obtain ⟨piece, proper⟩ := List.mem_filter.mp member
  obtain ⟨cs, between, same⟩ := List.mem_map.mp piece
  simp only [Bool.and_eq_true, bne_iff_ne] at proper
  subst same
  exact ⟨proper.1, proper.2, by simpa using Text.not_mem_of_mem_splitOn between⟩

/-- Parts without slashes are the parts of what they make with slashes between them. -/
theorem pieces_glue {parts : List String} (unslashed : ∀ part ∈ parts, '/' ∉ part.toList)
    (nonempty : parts ≠ []) : pieces (glue parts) = parts := by
  -- Splitting at slashes undoes putting them between parts that have none.
  have split : (['/'].intercalate (parts.map String.toList)).splitOn '/'
      = parts.map String.toList :=
    List.splitOn_intercalate '/' (by simpa using unslashed) (by simpa using nonempty)
  have text : (glue parts).toList = List.intercalate ['/'] (parts.map String.toList) :=
    String.toList_intercalate
  rw [pieces, text, split, List.map_map]
  simp

/-- Names with slashes between them spell these names. -/
theorem names_glue {parts : List String} (named : ∀ part ∈ parts, IsName part) :
    names (glue parts) = parts := by
  -- The filter keeps every part, because all of them are names.
  by_cases empty : parts = []
  · rw [empty]
    rfl
  · rw [names, pieces_glue (fun part member => (named part member).unslashed) empty,
      List.filter_eq_self]
    intro part member
    simp [(named part member).nonempty, (named part member).undotted]

/-- A path starts with slashes exactly when it is absolute. -/
theorem rootSlashes_cases (path : String) :
    (isAbsolute path = false ∧ rootSlashes path = "") ∨
      (isAbsolute path = true ∧ (rootSlashes path = "/" ∨ rootSlashes path = "//")) := by
  -- One slash, two and more than two are told apart, and all of them start at the root.
  unfold isAbsolute rootSlashes
  rcases path.toList with _ | ⟨c, rest⟩
  · exact Or.inl ⟨rfl, rfl⟩
  · by_cases slash : c = '/'
    · subst slash
      right
      split <;> simp_all
    · left
      simp [slash]

/-- A slash in front of a text has an empty part in front of it. -/
theorem pieces_slash (text : String) : pieces ("/" ++ text) = "" :: pieces text := by
  -- What stands in front of the slash is the empty text.
  have split := pieces_append_slash [] text.toList
  have same : String.ofList ([] ++ '/' :: text.toList) = "/" ++ text := by
    rw [← String.toList_inj]
    simp
  rw [same, String.ofList_toList] at split
  exact split

/-- The slashes at the root of a path bring some empty parts with them, in front of those of the
text behind them. -/
theorem pieces_behind_root (path text : String) :
    ∃ count, pieces (rootSlashes path ++ text) = List.replicate count "" ++ pieces text := by
  -- Each of the slashes brings one.
  rcases rootSlashes_cases path with ⟨_, root⟩ | ⟨_, root | root⟩
  · exact ⟨0, by rw [root, String.empty_append]; rfl⟩
  · exact ⟨1, by rw [root, pieces_slash]; rfl⟩
  · have twice : "//" ++ text = "/" ++ ("/" ++ text) := by
      rw [← String.append_assoc]
      rfl
    exact ⟨2, by rw [root, twice, pieces_slash, pieces_slash]; rfl⟩

/-- The names on a path that was made from names are these names. -/
theorem names_rooted (path : String) {parts : List String} (named : ∀ part ∈ parts, IsName part) :
    names (rooted path parts) = parts := by
  -- The slashes at the root spell nothing, and neither does the dot of an empty path.
  have spelled : names (rootSlashes path ++ glue parts) = parts := by
    obtain ⟨count, split⟩ := pieces_behind_root path (glue parts)
    have root : (List.replicate count "").filter (fun part => part != "" && part != ".") = [] := by
      simp
    rw [names, split, List.filter_append, root, List.nil_append]
    exact names_glue named
  simp only [rooted]
  split
  · rename_i empty
    rw [String.isEmpty_iff.mp empty] at spelled
    exact spelled
  · exact spelled

/-- Names with slashes between them do not start at the root. -/
theorem isAbsolute_glue {parts : List String} (named : ∀ part ∈ parts, IsName part) :
    isAbsolute (glue parts) = false := by
  -- What starts at the root is no name, and neither is a text that begins like it.
  rcases parts with _ | ⟨first, rest⟩
  · rfl
  · have unslashed := (named first List.mem_cons_self).unslashed
    obtain ⟨c, more, same⟩ := List.exists_cons_of_ne_nil
      (show first.toList ≠ [] by simpa using (named first List.mem_cons_self).nonempty)
    have other : c ≠ '/' := fun slash => unslashed (by simp [same, slash])
    cases rest <;> simp [isAbsolute, glue, String.toList_intercalate, same, other]

/-- A path that was made from names is absolute exactly when the one is where it starts. -/
theorem isAbsolute_rooted (path : String) {parts : List String}
    (named : ∀ part ∈ parts, IsName part) :
    isAbsolute (rooted path parts) = isAbsolute path := by
  -- The names begin with no slash, so those at the root decide.
  simp only [rooted]
  rcases rootSlashes_cases path with ⟨relative, empty⟩ | ⟨absolute, one | two⟩
  · rw [relative, empty, String.empty_append]
    split
    · rfl
    · exact isAbsolute_glue named
  · rw [absolute, one]
    simp [isAbsolute]
  · rw [absolute, two]
    simp [isAbsolute]

/-- Without a slash, no character read backwards is one. -/
theorem unslashed_reverse {cs : List Char} (unslashed : '/' ∉ cs) :
    ∀ c ∈ cs.reverse, (c != '/') = true := by
  -- Reading backwards changes no character.
  intro c member
  rw [bne_iff_ne]
  rintro rfl
  exact unslashed (List.mem_reverse.mp member)

/-- What stands behind the last slash is the last name, if it is a name. -/
theorem lastName_append {front last : List Char} (unslashed : '/' ∉ last) :
    lastName (String.ofList (front ++ '/' :: last)) = String.ofList last := by
  -- The characters are taken from the end up to that slash.
  simp [lastName, List.takeWhile_append_of_pos (unslashed_reverse unslashed)]

/-- A text without a slash is its own last name. -/
theorem lastName_of_unslashed {path : String} (unslashed : '/' ∉ path.toList) :
    lastName path = path := by
  -- Reading backwards, no slash stops the name.
  have all : path.toList.reverse.takeWhile (· != '/') = path.toList.reverse :=
    List.takeWhile_eq_self_iff.mpr (unslashed_reverse unslashed)
  simp [lastName, all]

/-- Nothing stands before the last slash of a text without one. -/
theorem directory_of_unslashed {path : String} (unslashed : '/' ∉ path.toList) :
    directory path = "" := by
  -- Reading backwards, everything is dropped.
  have empty : path.toList.reverse.dropWhile (· != '/') = [] := by
    simpa using unslashed_reverse unslashed
  simp [directory, empty]

/-- What stands before the last slash is cut of its own slashes, unless there is nothing else. -/
theorem directory_append {front last : List Char} (unslashed : '/' ∉ last) :
    directory (String.ofList (front ++ '/' :: last)) =
      if front.all (· == '/') then String.ofList (front ++ ['/'])
      else String.ofList (front.reverse.dropWhile (· == '/')).reverse := by
  -- The characters are dropped from the end up to that slash, which leaves what is before it.
  simp [directory, List.dropWhile_append_of_pos (unslashed_reverse unslashed)]

/-- A path has no slash, or a last one. -/
theorem last_slash (path : String) :
    '/' ∉ path.toList ∨
      ∃ front last, '/' ∉ last ∧ path = String.ofList (front ++ '/' :: last) := by
  -- The last slash is the first one for who reads backwards.
  by_cases slash : '/' ∈ path.toList.reverse
  · obtain ⟨last, front, split, unslashed⟩ := List.eq_append_cons_of_mem slash
    right
    refine ⟨front.reverse, last.reverse, by simpa using unslashed, ?_⟩
    rw [← String.toList_inj, ← List.reverse_inj, split]
    simp
  · left
    simpa using slash

/-- The directory of a path is a beginning of it. -/
theorem directory_begins (path : String) : (directory path).toList <+: path.toList := by
  -- Only characters at the end are cut off, twice at most.
  have head : (path.toList.reverse.dropWhile (· != '/')).reverse <+: path.toList :=
    List.rdropWhile_prefix _ _
  simp only [directory]
  split
  · rwa [String.toList_ofList]
  · rw [String.toList_ofList]
    exact (List.rdropWhile_prefix _ _).trans head

/-- A path has a directory exactly if there is a slash in it. -/
theorem directory_ne_empty_iff {path : String} : directory path ≠ "" ↔ '/' ∈ path.toList := by
  -- Without a slash there is nothing before the last name, and with one there is that slash at
  -- least.
  rcases last_slash path with unslashed | ⟨front, last, unslashed, same⟩
  · simp [directory_of_unslashed unslashed, unslashed]
  · refine iff_of_true ?_ (by simp [same])
    rw [same, directory_append unslashed]
    split
    · simp
    · -- Something else than a slash stands before the last one, and stays.
      rename_i named
      simpa using named

/-- Slashes at the end of a text add no part to it but empty ones. -/
theorem filter_pieces_dropSlashes {keep : String → Bool} (empty : keep "" = false)
    (cs : List Char) :
    (pieces (String.ofList (cs.reverse.dropWhile (· == '/')).reverse)).filter keep
      = (pieces (String.ofList cs)).filter keep := by
  -- The slashes are dropped one by one from the end, and behind each stands an empty part.
  induction cs using List.reverseRecOn with
  | nil => rfl
  | append_singleton front c ih =>
    rw [List.reverse_append]
    by_cases slash : c = '/'
    · subst slash
      have last : (pieces (String.ofList [])).filter keep = [] := by simp [pieces, empty]
      rw [pieces_append_slash, List.filter_append, last, List.append_nil, ← ih]
      rfl
    · simp [slash]

/-- Slashes at the end of a text spell no name. -/
theorem names_dropSlashes (cs : List Char) :
    names (String.ofList (cs.reverse.dropWhile (· == '/')).reverse) = names (String.ofList cs) :=
  -- Slashes only separate empty parts, which are no names.
  filter_pieces_dropSlashes rfl cs

/-- The names on a path are those before its last slash, then the one behind it. -/
theorem names_eq_directory_append (path : String) :
    names path = names (directory path) ++ names (lastName path) := by
  -- What is cut from the part before the slash are slashes, which spell nothing.
  rcases last_slash path with unslashed | ⟨front, last, unslashed, same⟩
  · rw [directory_of_unslashed unslashed, lastName_of_unslashed unslashed]
    rfl
  · have before : names (directory path) = names (String.ofList front) := by
      rw [same, directory_append unslashed]
      split
      · exact (names_append_slash front []).trans (List.append_nil _)
      · exact names_dropSlashes front
    rw [before, same, lastName_append unslashed]
    exact names_append_slash front last

/-- Whether a path ends in the name of what it leads to, and not in a slash or a single dot. -/
def EndsInName (path : String) : Prop := lastName path ≠ "" ∧ lastName path ≠ "."

/-- No last name holds a slash. -/
theorem unslashed_lastName (path : String) : '/' ∉ (lastName path).toList := by
  -- It starts behind the last slash, if there is one.
  rcases last_slash path with unslashed | ⟨front, last, unslashed, same⟩
  · rwa [lastName_of_unslashed unslashed]
  · rwa [same, lastName_append unslashed, String.toList_ofList]

/-- What a path ends in is a name. -/
theorem EndsInName.isName {path : String} (ends : EndsInName path) : IsName (lastName path) :=
  -- What it ends in holds no slash, being behind the last one.
  ⟨ends.1, ends.2, unslashed_lastName path⟩

/-- The directory of a path that ends in a name has all names on the path but that one. -/
theorem EndsInName.names_directory {path : String} (ends : EndsInName path) :
    names (directory path) = (names path).dropLast := by
  -- The names are those of the directory, and then the last one.
  rw [names_eq_directory_append path, ends.isName.names_eq, List.dropLast_concat]

/-- A path that ends in a name has names on it. -/
theorem EndsInName.names_ne_nil {path : String} (ends : EndsInName path) : names path ≠ [] := by
  -- The last name is among them.
  rw [names_eq_directory_append path, ends.isName.names_eq]
  simp

/-- A text without a slash is the last name behind nothing and behind any slash. -/
theorem lastName_behind {front last : String} (joint : front = "" ∨ ∃ rest, front = rest ++ "/")
    (unslashed : '/' ∉ last.toList) : lastName (front ++ last) = last := by
  -- Both cases are the same text, read from its end.
  rcases joint with empty | ⟨rest, slash⟩
  · rw [empty, String.empty_append]
    exact lastName_of_unslashed unslashed
  · have behind := @lastName_append rest.toList last.toList unslashed
    have same : String.ofList (rest.toList ++ '/' :: last.toList) = front ++ last := by
      rw [← String.toList_inj, slash]
      simp
    rwa [same, String.ofList_toList] at behind

/-- Names with slashes between them have the last of them behind nothing or behind a slash. -/
theorem glue_append_singleton (parts : List String) (last : String) :
    ∃ front, (front = "" ∨ ∃ rest, front = rest ++ "/") ∧
      glue (parts ++ [last]) = front ++ last := by
  -- The parts before the last one bring a slash with them, if there are any.
  by_cases empty : parts = []
  · exact ⟨"", Or.inl rfl, by simp [empty, glue, String.intercalate_singleton]⟩
  · refine ⟨glue parts ++ "/", Or.inr ⟨glue parts, rfl⟩, ?_⟩
    rw [glue, String.intercalate_append_of_ne_nil empty (by simp), String.intercalate_singleton]
    rfl

/-- Names with slashes between them hold a slash exactly if there are two of them. -/
theorem slash_mem_glue_iff {parts : List String} (unslashed : ∀ part ∈ parts, '/' ∉ part.toList) :
    '/' ∈ (glue parts).toList ↔ 2 ≤ parts.length := by
  -- One name alone has no slash, and two have one between them.
  rcases parts with _ | ⟨first, _ | ⟨second, more⟩⟩
  · simp [glue]
  · simpa [glue] using unslashed first List.mem_cons_self
  · simp [glue, String.toList_intercalate]

/-- A path that was made from names holds a slash exactly if it is absolute or has two names. -/
theorem slash_mem_rooted_iff (path : String) {parts : List String}
    (named : ∀ part ∈ parts, IsName part) :
    '/' ∈ (rooted path parts).toList ↔ isAbsolute path = true ∨ 2 ≤ parts.length := by
  -- The dot of an empty path holds no more slashes than the empty path.
  have text : '/' ∈ (rooted path parts).toList ↔
      '/' ∈ (rootSlashes path ++ glue parts).toList := by
    simp only [rooted]
    split
    · rename_i empty
      simp [String.isEmpty_iff.mp empty]
    · rfl
  rw [text, String.toList_append, List.mem_append,
    slash_mem_glue_iff fun part member => (named part member).unslashed]
  rcases rootSlashes_cases path with ⟨relative, root⟩ | ⟨absolute, root | root⟩
  · simp [relative, root]
  · simp [absolute, root]
  · simp [absolute, root]

/-- A path that was made from names ends in the last of them. -/
theorem endsInName_rooted (path : String) {parts : List String}
    (named : ∀ part ∈ parts, IsName part) (nonempty : parts ≠ []) :
    EndsInName (rooted path parts) := by
  -- The last of the names stands at the end, with a slash or nothing in front of it.
  rcases List.eq_nil_or_concat parts with empty | ⟨front, last, split⟩
  · exact absurd empty nonempty
  · rw [List.concat_eq_append] at split
    have final : IsName last := named last (by simp [split])
    obtain ⟨before, joint, glued⟩ := glue_append_singleton front last
    have behind : lastName (rootSlashes path ++ glue parts) = last := by
      rw [split, glued, ← String.append_assoc]
      refine lastName_behind ?_ final.unslashed
      rcases joint with empty | ⟨rest, slash⟩
      · rcases rootSlashes_cases path with ⟨_, root⟩ | ⟨_, root | root⟩ <;> rw [empty, root]
        · exact Or.inl rfl
        · exact Or.inr ⟨"", rfl⟩
        · exact Or.inr ⟨"/", rfl⟩
      · exact Or.inr ⟨rootSlashes path ++ rest, by rw [slash, String.append_assoc]⟩
    have text : (rootSlashes path ++ glue parts).isEmpty = false := by
      cases empty : (rootSlashes path ++ glue parts).isEmpty with
      | false => rfl
      | true =>
        rw [String.isEmpty_iff.mp empty] at behind
        exact absurd behind.symm final.nonempty
    simp only [EndsInName, rooted, text, Bool.false_eq_true, if_false, behind]
    exact ⟨final.nonempty, final.undotted⟩

/-- What stands behind the last slash spells no name if it is none. -/
theorem names_lastName_of_not_endsInName {path : String} (unnamed : ¬EndsInName path) :
    names (lastName path) = [] := by
  -- The text is empty or a single dot, and neither counts as a name.
  rw [EndsInName, not_and_or, not_not, not_not] at unnamed
  rcases unnamed with empty | dot
  · rw [empty]
    rfl
  · rw [dot]
    rfl

/-- A path that ends in no name has the same names as its directory. -/
theorem names_directory_of_not_endsInName {path : String} (unnamed : ¬EndsInName path) :
    names (directory path) = names path := by
  -- What stands behind the last slash adds no name.
  rw [names_eq_directory_append path, names_lastName_of_not_endsInName unnamed, List.append_nil]

/-- The directory of a path that was made from names has all of them but the last. -/
theorem names_directory_rooted (path : String) {parts : List String}
    (named : ∀ part ∈ parts, IsName part) :
    names (directory (rooted path parts)) = parts.dropLast := by
  -- The path ends in the last of the names, if there are any.
  by_cases empty : parts = []
  · -- Without names there are none in front of the last slash either.
    have none := names_eq_directory_append (rooted path parts)
    rw [names_rooted path named, empty, List.nil_eq_append_iff] at none
    rw [empty]
    exact none.1
  · rw [(endsInName_rooted path named empty).names_directory, names_rooted path named]

/-- A relative path is seen from a directory behind a slash, which may be the one that the directory
ends in. -/
theorem join_cases {directory path : String} (placed : directory ≠ "")
    (relative : isAbsolute path = false) :
    ∃ front, join directory path = String.ofList (front ++ '/' :: path.toList) ∧
      (directory = String.ofList (front ++ ['/']) ∨
        directory = String.ofList front ∧ endsInSlash directory = false) := by
  -- Only a directory that does not end in a slash gets one.
  have nonempty : directory.isEmpty = false := by simpa using placed
  cases ends : endsInSlash directory with
  | true =>
    obtain ⟨front, same⟩ : ∃ front, directory.toList = front ++ ['/'] :=
      List.getLast?_eq_some_iff.mp (by simpa [endsInSlash] using ends)
    refine ⟨front, ?_, Or.inl ?_⟩
    · rw [← String.toList_inj]
      simp [join, relative, nonempty, ends, same]
    · rw [← same, String.ofList_toList]
  | false =>
    refine ⟨directory.toList, ?_, Or.inr ⟨String.ofList_toList.symm, rfl⟩⟩
    rw [← String.toList_inj]
    simp [join, relative, nonempty, ends]

/-- The directory of a path is absolute exactly when the path is. -/
theorem isAbsolute_directory (path : String) : isAbsolute (directory path) = isAbsolute path := by
  -- A slash at the start stays, since cutting slashes at the end stops at anything else.
  rcases last_slash path with unslashed | ⟨front, last, unslashed, same⟩
  · rw [directory_of_unslashed unslashed]
    cases absolute : isAbsolute path with
    | false => rfl
    | true =>
      have slash : '/' ∈ path.toList := List.mem_of_head? (by simpa [isAbsolute] using absolute)
      exact absurd slash unslashed
  · have kept := List.takeWhile_append_dropWhile (p := (· == '/')) (l := front.reverse)
    rw [← List.reverse_inj, List.reverse_append, List.reverse_reverse] at kept
    rw [same, directory_append unslashed]
    split
    · cases front <;> simp [isAbsolute]
    · rename_i named
      -- With nothing left, there would have been nothing but slashes.
      generalize (front.reverse.dropWhile (· == '/')).reverse = stays at kept
      cases stays with
      | nil =>
        rw [List.nil_append] at kept
        refine absurd ?_ named
        rw [← kept, List.all_reverse]
        exact List.all_takeWhile
      | cons c more =>
        rw [← kept]
        simp [isAbsolute]

/-- The names on a path that was simplified stay the same. -/
theorem names_plain (path : String) : names (plain path) = names path :=
  -- A simplified path is made of its names.
  names_rooted path fun _ => isName_of_mem

/-- A path that was simplified is absolute exactly when it was before. -/
theorem isAbsolute_plain (path : String) : isAbsolute (plain path) = isAbsolute path :=
  -- The path that is simplified is the one where it starts.
  isAbsolute_rooted path fun _ => isName_of_mem

/-- The names on the path of a parent are all but the last. -/
theorem names_parent (path : String) : names (parent path) = (names path).dropLast :=
  -- The parent is made of all the names but the last.
  names_rooted path fun _ member => isName_of_mem ((List.dropLast_sublist _).subset member)

/-- The path of a parent is absolute exactly when the path is. -/
theorem isAbsolute_parent (path : String) : isAbsolute (parent path) = isAbsolute path :=
  -- The parent starts where the path does.
  isAbsolute_rooted path fun _ member => isName_of_mem ((List.dropLast_sublist _).subset member)

/-- What stands on either of two paths is a name. -/
theorem isName_of_mem_append {directory path : String} :
    ∀ part ∈ names directory ++ names path, IsName part := by
  -- Either path brings names only.
  intro part member
  rcases List.mem_append.mp member with first | second
  · exact isName_of_mem first
  · exact isName_of_mem second

end ModelServing.Path
