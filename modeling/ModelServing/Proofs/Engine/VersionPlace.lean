import ModelServing.Engine.Machine
import ModelServing.Proofs.Filesystem.Normalizing

/-! Where the version file of a prebuilt installation is looked for. -/

namespace ModelServing.Engine

open ModelServing.Path (IsName names resolved pushPart)

/-- What the version file is called is a name. -/
theorem isName_version : IsName "version" :=
  -- It holds no slash, and is none of the special names.
  ⟨by decide, by decide, by decide⟩

variable {here : String}

/-- The path of the version file has the names of the simplified directory, with its own in place of
the last of them. -/
theorem versionPath_eq (engine : Engine) :
    engine.versionPath
      = Path.rooted engine.directory ((resolved engine.directory).dropLast ++ ["version"]) := by
  -- Normalizing leaves the names below a root, the directory takes the last of them away, and the
  -- file name is put in its place.
  rw [versionPath, Path.normalize_eq,
    Path.join_directory_rooted _ (fun _ => Path.isName_of_mem_resolved) isName_version]

/-- Everything on the path of the version file is a name. -/
theorem isName_of_mem_version (engine : Engine) :
    ∀ part ∈ (resolved engine.directory).dropLast ++ ["version"], IsName part :=
  -- The names of a simplified path are names, and so is that of the file.
  List.forall_mem_append.mpr
    ⟨fun _ member => Path.isName_of_mem_resolved (List.mem_of_mem_dropLast member),
      by simpa using isName_version⟩

/-- The names on the path of the version file. -/
theorem names_versionPath (engine : Engine) :
    names engine.versionPath = (resolved engine.directory).dropLast ++ ["version"] := by
  -- The names can be read back from a path that was made of them.
  rw [versionPath_eq, Path.names_rooted _ engine.isName_of_mem_version]

/-- The path of the version file is absolute exactly if that of the directory is. -/
theorem isAbsolute_versionPath (engine : Engine) :
    Path.isAbsolute engine.versionPath = Path.isAbsolute engine.directory := by
  -- The path keeps the slashes that the directory began with.
  rw [versionPath_eq, Path.isAbsolute_rooted _ engine.isName_of_mem_version]

/-- Seen from anywhere, the version file's path starts with the same slashes as the directory's. -/
theorem rootSlashes_versionPath (engine : Engine) (absolute : Path.isAbsolute here = true) :
    Path.rootSlashes (Path.join here engine.versionPath)
      = Path.rootSlashes (Path.join here engine.directory) := by
  -- A relative directory gets its slashes from the place it is seen from, and an absolute one has
  -- its own.
  have same := engine.isAbsolute_versionPath
  cases own : Path.isAbsolute engine.directory with
  | true =>
    rw [Path.join_of_absolute here own, Path.join_of_absolute here (same.trans own), versionPath_eq,
      Path.rootSlashes_rooted _ engine.isName_of_mem_version]
  | false =>
    rw [Path.rootSlashes_join absolute own, Path.rootSlashes_join absolute (same.trans own)]

/-- Whether the simplified path of the directory ends in the directory's own name, and not in a dot,
a double dot or the slash of the root. -/
def EndsInOwnName (engine : Engine) : Prop :=
  ∃ name, (names (Path.normalize engine.directory)).getLast? = some name ∧ name ≠ ".."

/-- What lies beside a directory that is seen from somewhere lies there exactly if the directory's
own name is what was left out, or if it lies in the root, which has nothing beside it. -/
theorem foldl_dropLast_iff {parts start : List String} (named : ∀ part ∈ parts, IsName part)
    (proper : ".." ∉ start) :
    parts.dropLast.foldl (pushPart true) start = (parts.foldl (pushPart true) start).tail ↔
      (∃ name, parts.getLast? = some name ∧ name ≠ "..") ∨
        parts.dropLast.foldl (pushPart true) start = [] := by
  -- A list is its own tail, or the tail of that, only if it is empty.
  have shorter : ∀ {items : List String}, items = items.tail ↔ items = [] := by
    intro items
    cases items <;> simp
  have muchShorter : ∀ {items : List String}, items = items.tail.tail ↔ items = [] := by
    intro items
    refine ⟨fun same => ?_, fun empty => by simp [empty]⟩
    have length := congrArg List.length same
    simp only [List.length_tail] at length
    exact List.eq_nil_of_length_eq_zero (by omega)
  rcases List.eq_nil_or_concat parts with rfl | ⟨front, last, split⟩
  · simp [shorter]
  · rw [List.concat_eq_append] at split
    subst split
    have before : ∀ part ∈ front, IsName part := fun part member => named part (by simp [member])
    rw [List.dropLast_concat, List.foldl_append, List.foldl_cons, List.foldl_nil]
    by_cases dots : last = ".."
    · rw [dots, Path.pushPart_dots (Path.dots_not_mem_foldl_pushPart before proper)]
      simp [muchShorter]
    · rw [Path.pushPart_of_proper (named last (by simp)) dots]
      simp [dots]

/-- Seen from somewhere, the version file lies beside the directory exactly if the directory's own
name is what was left out, or if the file lies in the root. -/
theorem resolved_versionPath_iff (engine : Engine) (absolute : Path.isAbsolute here = true) :
    resolved (Path.join here engine.versionPath)
        = (resolved (Path.join here engine.directory)).dropLast ++ ["version"] ↔
      engine.EndsInOwnName ∨ resolved (Path.join here engine.versionPath) = ["version"] := by
  -- What is left out is the last name of the simplified directory, which may be a double dot or
  -- nothing.
  have same := engine.isAbsolute_versionPath
  have ends : "version" ≠ ".." := by decide
  cases own : Path.isAbsolute engine.directory with
  | true =>
    -- No double dot is left, so that the name which is left out is the directory's own.
    have proper : ∀ part ∈ (resolved engine.directory).dropLast ++ ["version"],
        IsName part ∧ part ≠ ".." := by
      intro part member
      refine ⟨engine.isName_of_mem_version part member, ?_⟩
      rintro rfl
      rcases List.mem_append.mp member with before | last
      · exact Path.dots_not_mem_resolved own (List.mem_of_mem_dropLast before)
      · simp at last
    have whole : resolved engine.versionPath
        = (resolved engine.directory).dropLast ++ ["version"] := by
      rw [resolved, names_versionPath, Path.foldl_pushPart_of_proper proper]
      simp
    rw [Path.join_of_absolute here own, Path.join_of_absolute here (same.trans own), whole]
    refine iff_of_true rfl ?_
    rw [EndsInOwnName, Path.names_normalize]
    cases last : (resolved engine.directory).getLast? with
    | none => exact .inr (by rw [List.getLast?_eq_none_iff.mp last]; rfl)
    | some name =>
      refine .inl ⟨name, rfl, ?_⟩
      rintro rfl
      exact Path.dots_not_mem_resolved own (List.mem_of_getLast? last)
  | false =>
    -- The way along the directory's path is the way along what is left of it.
    have spelled : ∀ part ∈ names engine.directory, IsName part := fun _ => Path.isName_of_mem
    have simplified := Path.foldl_pushPart_simplified spelled (List.forall_mem_nil IsName) true
      (resolved here).reverse
    have left : ((names engine.directory).foldl (pushPart false) []).reverse
        = resolved engine.directory := by rw [resolved, own]
    rw [left, List.reverse_nil, List.foldl_nil] at simplified
    rw [Path.resolved_join absolute own, Path.resolved_join absolute (same.trans own),
      names_versionPath, ← simplified, List.foldl_append, List.foldl_cons, List.foldl_nil,
      Path.pushPart_of_proper isName_version ends]
    have start : ".." ∉ (resolved here).reverse := by
      simpa using Path.dots_not_mem_resolved absolute
    have kept : ∀ part ∈ resolved engine.directory, IsName part :=
      fun _ => Path.isName_of_mem_resolved
    have decided := foldl_dropLast_iff kept start
    simpa [EndsInOwnName, Path.names_normalize, List.dropLast_reverse] using decided

/-- Seen from any current directory, the path of the version file leads beside the directory of the
installation exactly if the simplified path of that directory ends in the directory's own name, or
if the file lies in the root, which has nothing beside it. Two spellings of one directory that both
end in its own name have their version file at the same place. -/
theorem version_beside_directory_iff (engine : Engine) (absolute : Path.isAbsolute here = true) :
    let seen (path : String) := Path.normalize (Path.join here path)
    (seen engine.versionPath = Path.join (Path.directory (seen engine.directory)) "version" ↔
      engine.EndsInOwnName ∨ names (seen engine.versionPath) = ["version"]) ∧
    ∀ other : Engine, names (seen other.directory) = names (seen engine.directory) →
      engine.EndsInOwnName → other.EndsInOwnName →
        names (seen other.versionPath) = names (seen engine.versionPath) := by
  -- Both paths are compared by their names behind the same slashes, for which the statement was
  -- just made.
  intro seen
  have beside (engine : Engine) := engine.resolved_versionPath_iff absolute
  constructor
  · -- Both texts are made from names behind the same slashes.
    have named : ∀ part ∈ (resolved (Path.join here engine.directory)).dropLast ++ ["version"],
        IsName part :=
      List.forall_mem_append.mpr
        ⟨fun _ member => Path.isName_of_mem_resolved (List.mem_of_mem_dropLast member),
          by simpa using isName_version⟩
    simp only [seen]
    rw [Path.names_normalize, ← beside engine, Path.normalize_eq, Path.normalize_eq,
      Path.join_directory_rooted _ (fun _ => Path.isName_of_mem_resolved) isName_version,
      Path.rooted_eq_rooted_iff (engine.rootSlashes_versionPath absolute)
        (fun _ => Path.isName_of_mem_resolved) named]
  · intro other same first second
    simp only [seen, Path.names_normalize] at same ⊢
    rw [(beside other).mpr (.inl second), (beside engine).mpr (.inl first), same]

/-- An engine with a directory of its own. -/
def engineAt (directory : String) : Engine := create {} none [] (some directory) none true

/-- A directory that is spelled in a roundabout way has its version file where the plain spelling
has it. -/
theorem version_beside_directory_of_detour :
    Path.normalize (Path.join "/srv" (engineAt "env//x/../bin/.").versionPath) = "/srv/env/version" ∧
      names (Path.normalize (Path.join "/srv" (engineAt "/srv/env/bin/").versionPath))
        = names (Path.normalize (Path.join "/srv" (engineAt "env//x/../bin/.").versionPath)) := by
  -- Neither spelling leaves a double dot in front, so both end in the name of the directory.
  have detour : (engineAt "env//x/../bin/.").EndsInOwnName := ⟨"bin", by decide +kernel⟩
  have plain : (engineAt "/srv/env/bin/").EndsInOwnName := ⟨"bin", by decide +kernel⟩
  obtain ⟨beside, agree⟩ :=
    version_beside_directory_iff (engineAt "env//x/../bin/.") (show Path.isAbsolute "/srv" by decide)
  exact ⟨(beside.mpr (.inl detour)).trans (by decide +kernel),
    agree (engineAt "/srv/env/bin/") (by decide +kernel) detour plain⟩

/-- A machine whose current directory holds an installation and a version file. -/
def currentHost : Host where
  -- The version file lies inside the directory, and nothing lies beside it.
  fs :=
    { root := .directory
        [("srv", .directory
          [("sglang", .file { identity := 0, executable := true }),
            ("version", .file { identity := 1, content := { bytes := "9\n".toUTF8.toList } })])]
      current := ["srv"] }

/-- What an engine shows after a check on that machine. -/
def shownAt (directory : String) : String :=
  ((engineAt directory).installOn none currentHost).1.installation.status

/-- An installation in the current directory, spelled as a dot, has its version file looked for
inside it. The same directory, spelled by its name, has it looked for beside itself, so that a check
shows another version. -/
theorem version_inside_dotted_directory :
    Path.normalize (Path.join "/srv" (engineAt ".").directory) = "/srv" ∧
      Path.join (Path.directory "/srv") "version" = "/version" ∧
      Path.normalize (Path.join "/srv" (engineAt ".").versionPath) = "/srv/version" ∧
      shownAt "." = "running sglang version: 9" ∧
      shownAt "/srv" = "running sglang version: unknown" := by
  -- A dot simplifies to no name at all, so none is left out in front of the file's.
  decide +kernel

end ModelServing.Engine
