import Mathlib.Data.List.Basic
import ModelServing.Proofs.Filesystem.Names
import ModelServing.Proofs.Filesystem.Walk

/-! What paths lead to, from what the walks along their names end at. -/

namespace ModelServing.Filesystem

open Entry (Covers Alike)

/-- Names behind a slash end in what stands there. -/
theorem spelled_behind_slash (front : List Char) {name : String} (nonempty : name ≠ "")
    (unslashed : '/' ∉ name.toList) :
    spelled (String.ofList (front ++ '/' :: name.toList))
      = (Path.pieces (String.ofList front)).filter (· != "") ++ [name] := by
  -- The name holds no slash, so that it is one part, and the last character is none either.
  have ends : Path.endsInSlash (String.ofList (front ++ '/' :: name.toList)) = false := by
    obtain ⟨c, rest, same⟩ := List.exists_cons_of_ne_nil
      (show name.toList ≠ [] by simpa using nonempty)
    rw [Path.endsInSlash, String.toList_ofList, List.getLast?_append_cons, same,
      List.getLast?_cons_cons, ← same, beq_eq_false_iff_ne]
    exact fun slash => unslashed (List.mem_of_getLast? slash)
  rw [spelled, ends]
  simp [Path.pieces, List.splitOn_append_cons_self, List.splitOn_eq_singleton unslashed, nonempty]

/-- No name starts at the root. -/
theorem isAbsolute_eq_false {name : String} (named : Path.IsName name) :
    Path.isAbsolute name = false := by
  -- A name holds no slash, so it begins with none.
  rw [Path.isAbsolute, beq_eq_false_iff_ne]
  exact fun slash => named.unslashed (List.mem_of_head? slash)

/-- A name that is seen from a directory spells what the directory spells, with itself in place of
the dot that a slash at the end may stand for. -/
theorem spelled_join {directory name : String} (placed : directory ≠ "")
    (named : Path.IsName name) :
    ∃ front tail, (tail = [] ∨ tail = ["."]) ∧ spelled directory = front ++ tail ∧
      spelled (Path.join directory name) = front ++ [name] := by
  -- The directory ends in a slash or it does not, and only in the first case has it a dot to give
  -- up.
  obtain ⟨front, joined, slash⟩ :=
    Path.join_cases placed (isAbsolute_eq_false named)
  have behind := spelled_behind_slash front named.nonempty named.unslashed
  rw [joined, behind]
  rcases slash with same | ⟨same, ends⟩
  · -- The slash at the end stands for the directory itself.
    refine ⟨_, ["."], Or.inr rfl, ?_, rfl⟩
    simp [same, spelled, Path.endsInSlash, Path.pieces, List.splitOn_append_cons_self]
  · -- Without one, the directory spells nothing but its names.
    refine ⟨_, [], Or.inl rfl, ?_, rfl⟩
    rw [spelled, ends, same]
    simp

/-- A path is no longer than those that are seen from it. -/
theorem utf8ByteSize_le_join {directory name : String} (named : Path.IsName name) :
    directory.utf8ByteSize ≤ (Path.join directory name).utf8ByteSize := by
  -- Joining adds characters and takes none.
  simp only [Path.join, isAbsolute_eq_false named, Bool.false_eq_true, if_false]
  split <;> simp only [String.utf8ByteSize_append] <;> omega

/-- A name is seen from a directory by a path that is absolute exactly when the directory's is. -/
theorem isAbsolute_join {directory name : String} (placed : directory ≠ "")
    (named : Path.IsName name) :
    Path.isAbsolute (Path.join directory name) = Path.isAbsolute directory := by
  -- Both begin with the same character.
  obtain ⟨front, joined, same | ⟨same, _⟩⟩ :=
    Path.join_cases placed (isAbsolute_eq_false named)
  · rw [joined, same]
    cases front <;> simp [Path.isAbsolute]
  · have nonempty : front ≠ [] := by
      rintro rfl
      exact placed (by rw [same])
    rw [joined, same]
    simp [Path.isAbsolute, List.head?_append_of_ne_nil _ nonempty]

variable {follow : Bool} {names : List String} {entry : Entry}

/-- The names that lead to where a path is looked up from. -/
def base (fs : Filesystem) (path : String) : List String :=
  if Path.isAbsolute path then [] else fs.current

/-- A path leads to an entry exactly if it is not empty, not too long, and a walk ends there. -/
theorem find_eq_ok_iff {fs : Filesystem} {path : String} :
    fs.find follow path = .ok (names, entry) ↔
      path ≠ "" ∧ path.utf8ByteSize ≤ pathLimit ∧
        walk fs.root follow linkLimit (fs.base path) (spelled path) = .ok (.taken names entry) := by
  -- The two refusals of the path itself come before the walk.
  by_cases empty : path = ""
  · simp [find, place, empty, Bind.bind, Except.bind]
  · by_cases long : pathLimit < path.utf8ByteSize
    · have beyond : ¬path.utf8ByteSize ≤ pathLimit := by omega
      simp [find, place, empty, long, beyond, Bind.bind, Except.bind]
    · have within : path.utf8ByteSize ≤ pathLimit := by omega
      simp only [find, place, base, String.isEmpty_iff, empty, long, if_false, ne_eq,
        not_false_eq_true, within, true_and, Bind.bind, Except.bind]
      cases walk fs.root follow linkLimit (if Path.isAbsolute path then [] else fs.current)
          (spelled path) with
      | error errno => simp
      | ok place => cases place <;> simp [Pure.pure, Except.pure, throw, throwThe,
          MonadExceptOf.throw]

/-- What a path leads to stands at the names that are told. -/
theorem at?_of_find {fs : Filesystem} {path : String}
    (found : fs.find follow path = .ok (names, entry)) : fs.root.at? names = some entry :=
  -- The names that are told come out of the walk, which keeps them in step with the tree.
  at?_of_walk (find_eq_ok_iff.mp found).2.2

/-- A path that leads to anything but a socket leads there as well in a tree that holds everything
but sockets, if it starts in the same directory. -/
theorem find_of_covers {fs other : Filesystem} {path : String}
    (covers : Covers fs.root other.root) (same : other.base path = fs.base path)
    (found : fs.find follow path = .ok (names, entry)) (kind : entry.isSocket = false) :
    ∃ kept, other.find follow path = .ok (names, kept) ∧ Alike entry kept := by
  -- The path is the same text, so that only the walk is looked at.
  obtain ⟨nonempty, short, reaches⟩ := find_eq_ok_iff.mp found
  obtain ⟨kept, reached, alike⟩ := walk_of_covers covers reaches kind
  exact ⟨kept, find_eq_ok_iff.mpr ⟨nonempty, short, same ▸ reached⟩, alike⟩

/-- A path that leads to a file leads there as well in such a tree. -/
theorem status_of_covers {fs other : Filesystem} {path : String} {file : File}
    (covers : Covers fs.root other.root) (same : other.base path = fs.base path)
    (found : fs.status path = .ok (.file file)) : other.status path = .ok (.file file) := by
  -- The tree holds the directories and links that the walk passes, and the file at its end.
  unfold status at found ⊢
  cases reaches : fs.find true path with
  | error errno =>
    rw [reaches] at found
    cases found
  | ok reached =>
    obtain ⟨names, entry⟩ := reached
    rw [reaches] at found
    cases found
    -- A file is like nothing but itself.
    obtain ⟨kept, reached, alike⟩ := find_of_covers covers same reaches rfl
    rw [reached, alike.eq_of_leaf rfl]
    rfl

/-- What a name leads to that is seen from a directory lies in a directory. -/
theorem find_directory_of_join {fs : Filesystem} {directory name : String}
    (placed : directory ≠ "") (named : Path.IsName name)
    (found : fs.find true (Path.join directory name) = .ok (names, entry)) :
    ∃ there entries, fs.find true directory = .ok (there, .directory entries) := by
  -- The walk to the name goes along the names that the directory spells.
  obtain ⟨_, short, reaches⟩ := find_eq_ok_iff.mp found
  obtain ⟨front, tail, dotted, whole, joined⟩ := spelled_join placed named
  have start : fs.base (Path.join directory name) = fs.base directory := by
    simp only [base, isAbsolute_join placed named]
  rw [start, joined] at reaches
  obtain ⟨there, entries, _, reached, _⟩ := walk_front dotted reaches
  exact ⟨there, entries, find_eq_ok_iff.mpr
    ⟨placed, Nat.le_trans (utf8ByteSize_le_join named) short, whole ▸ reached⟩⟩

/-- Without slashes at its end, a text does not end in one. -/
theorem endsInSlash_dropSlashes (cs : List Char) :
    Path.endsInSlash (String.ofList (cs.reverse.dropWhile (· == '/')).reverse) = false := by
  -- The dropping has stopped at a character that is no slash.
  rw [Path.endsInSlash, String.toList_ofList, List.getLast?_reverse, beq_eq_false_iff_ne]
  intro slash
  have kept := List.head?_dropWhile_not (· == '/') cs.reverse
  rw [slash] at kept
  cases kept

/-- A path with a slash is looked up behind its directory: by its last name, or by the dot that
stands for an empty one. -/
theorem spelled_directory {path : String} (slashed : '/' ∈ path.toList) :
    ∃ front tail, (tail = [] ∨ tail = ["."]) ∧ spelled (Path.directory path) = front ++ tail ∧
      spelled path = front ++ [if Path.lastName path = "" then "." else Path.lastName path] := by
  -- The path is split at its last slash.
  rcases Path.last_slash path with unslashed | ⟨front, last, unslashed, same⟩
  · exact absurd slashed unslashed
  · -- What stands before the slash spells the same with or without slashes at its end.
    obtain ⟨tail, dotted, before⟩ : ∃ tail, (tail = [] ∨ tail = ["."]) ∧
        spelled (Path.directory path)
          = (Path.pieces (String.ofList front)).filter (· != "") ++ tail := by
      rw [same, Path.directory_append unslashed]
      split
      · refine ⟨["."], .inr rfl, ?_⟩
        simp [spelled, Path.endsInSlash, Path.pieces, List.splitOn_append_cons_self]
      · refine ⟨[], .inl rfl, ?_⟩
        rw [spelled, endsInSlash_dropSlashes, Path.filter_pieces_dropSlashes rfl]
        simp
    refine ⟨_, tail, dotted, before, ?_⟩
    rw [same, Path.lastName_append unslashed]
    cases last with
    | nil => simp [spelled, Path.endsInSlash, Path.pieces, List.splitOn_append_cons_self]
    | cons c rest =>
      have nonempty : String.ofList (c :: rest) ≠ "" := by simp
      have behind := spelled_behind_slash front nonempty (by simpa using unslashed)
      rw [String.toList_ofList] at behind
      rw [behind, if_neg nonempty]

/-- The directory of a path is no longer than the path. -/
theorem utf8ByteSize_directory_le (path : String) :
    (Path.directory path).utf8ByteSize ≤ path.utf8ByteSize := by
  -- The directory is a prefix of the path.
  obtain ⟨rest, same⟩ := Path.directory_begins path
  have whole : path = Path.directory path ++ String.ofList rest := by
    rw [← String.toList_inj, ← same]
    simp
  have size := congrArg String.utf8ByteSize whole
  rw [String.utf8ByteSize_append] at size
  omega

/-- What a path with a slash leads to, the last link not passed, stands under its last name in its
directory, unless it is a directory itself. -/
theorem find_directory {fs : Filesystem} {path : String} (slashed : '/' ∈ path.toList)
    (found : fs.find false path = .ok (names, entry)) (leaf : entry.isDirectory = false) :
    ∃ there entries, fs.find true (Path.directory path) = .ok (there, .directory entries) ∧
      names = there ++ [Path.lastName path] := by
  -- The walk goes along the names that the directory spells, and passes the last name there.
  obtain ⟨_, short, reaches⟩ := find_eq_ok_iff.mp found
  obtain ⟨front, tail, dotted, before, whole⟩ := spelled_directory slashed
  have start : fs.base path = fs.base (Path.directory path) := by
    simp only [base, Path.isAbsolute_directory]
  rw [start, whole] at reaches
  obtain ⟨there, entries, _, reached, passes⟩ := walk_front dotted reaches
  rw [← before] at reached
  obtain ⟨proper, same⟩ := passes.holds (at?_of_walk reached) leaf
  -- A slash or a dot at the end would have led to the directory itself.
  have named : Path.lastName path ≠ "" := fun empty => proper.own (if_pos empty)
  rw [if_neg named] at same
  exact ⟨there, entries, find_eq_ok_iff.mpr ⟨Path.directory_ne_empty_iff.mpr slashed,
    Nat.le_trans (utf8ByteSize_directory_le path) short, reached⟩, same⟩

/-- A path that is not empty spells a name. -/
theorem spelled_ne_nil {path : String} (nonempty : path ≠ "") : spelled path ≠ [] := by
  -- There is a slash or there is none, and in both cases something is left to look up.
  by_cases slashed : '/' ∈ path.toList
  · obtain ⟨front, _, _, _, whole⟩ := spelled_directory slashed
    simp [whole]
  · -- Without a slash, the path is that name.
    have single : Path.pieces path = [path] := by
      simp [Path.pieces, List.splitOn_eq_singleton slashed]
    rw [spelled, single]
    split <;> simp [nonempty]

/-- At least one name leads to what a path leads to, if that is no directory. -/
theorem names_ne_nil_of_find {fs : Filesystem} {path : String}
    (found : fs.find follow path = .ok (names, entry)) (leaf : entry.isDirectory = false) :
    names ≠ [] := by
  -- A path to the root would have to pass a name and come back, that is, end at a directory.
  rintro rfl
  -- The walk passes a name in some directory, so that the root is no such entry.
  have stands := Option.some.inj (at?_of_find found)
  obtain ⟨nonempty, _, reaches⟩ := find_eq_ok_iff.mp found
  obtain ⟨name, rest, spells⟩ := List.exists_cons_of_ne_nil (spelled_ne_nil nonempty)
  rw [spells, linkLimit, walk] at reaches
  obtain ⟨⟨entries, start⟩, _⟩ := advance_cons_iff.mp reaches
  cases within : fs.base path with
  | nil =>
    rw [within] at start
    rw [← stands, Option.some.inj start] at leaf
    cases leaf
  | cons first more =>
    rw [within] at start
    obtain ⟨child, leads, _⟩ := Option.bind_eq_some_iff.mp start
    obtain ⟨_, _, directory, _⟩ := Entry.child?_eq_some_iff.mp leads
    rw [← stands, directory] at leaf
    cases leaf

end ModelServing.Filesystem
