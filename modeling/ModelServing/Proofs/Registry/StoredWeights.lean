import ModelServing.Proofs.Filesystem.Normalizing
import ModelServing.Proofs.Registry.DocumentShape
import ModelServing.Proofs.Registry.Reload

/-! How a registry stores the paths of weights that the records of its file give. -/

namespace ModelServing

namespace Path

/-- Whether a path is another one as it is seen from the directory of a file. -/
structure Beside (file given stored : String) : Prop where
  /-- Its names are those of the directory, then those of the other path. Empty parts and single
  dots are no names, but double dots are. -/
  names : names stored = (names file).dropLast ++ names given
  /-- Its text has no other parts than these names, behind the empty ones at its root. Without a
  name and a root, it is a dot. -/
  spelled : stored = "." ∨ (pieces stored).dropWhile (· == "") = Path.names stored
  /-- It is absolute exactly when the path of the file is. -/
  start : isAbsolute stored = isAbsolute file

/-- The names of a file's directory and those of another path make the path that is seen from
there. -/
theorem beside_rooted (file given : String) :
    Beside file given (rooted (parent file) (names (parent file) ++ names given)) := by
  -- All that it is made from are names, which come back from its text.
  have named := @isName_of_mem_append (parent file) given
  have spells := names_rooted (parent file) named
  refine ⟨?_, ?_, ?_⟩
  · rw [spells, names_parent]
  · rw [spells]
    exact pieces_rooted (parent file) named
  · rw [isAbsolute_rooted (parent file) named, isAbsolute_parent]

/-- What is seen from the directory of a file does not hang on how the path of the file is
spelled. -/
theorem Beside.of_plain {file given stored : String} (beside : Beside (plain file) given stored) :
    Beside file given stored where
  -- A plain path has the names and the start of the one it was made from.
  names := names_plain file ▸ beside.names
  spelled := beside.spelled
  start := isAbsolute_plain file ▸ beside.start

end Path

namespace Registry

open Schema (given? textField)

/-- Whether a registry that is read from a path stores the given path of weights as another one. -/
structure StoresAs (path given stored : String) : Prop where
  /-- An empty path stays empty. -/
  empty : given = "" → stored = ""
  /-- A path from the root stays as it is spelled. -/
  unchanged : Path.isAbsolute given = true → stored = given
  /-- Any other path is stored as it is seen from the directory of the registry's file. -/
  beside : given ≠ "" → Path.isAbsolute given = false → Path.Beside path given stored
  /-- No path gets lost. -/
  nonempty : given ≠ "" → stored ≠ ""

/-- Whether a record gives a path of weights: as the text of its field for them, or an empty one by
not having that field. -/
def Gives (record : Value) (weights : String) : Prop :=
  -- A field that is not there counts as an empty text, and a field that is there has to be a text.
  ∃ fields, recordFields record = .ok fields ∧
    ((given? "safetensors_path" fields = none ∧ weights = "") ∨
      ∃ value, given? "safetensors_path" fields = some value ∧ textField value = .ok weights)

/-- Whether a registry that is read from a path keeps a bundle for a record: the one that the record
describes, but for the path of its weights, which is stored in the place of the given one. -/
def Keeps (path : String) (record : Value) (bundle : ModelBundle) : Prop :=
  ∃ given, Gives record given ∧ readRecord record = .ok { bundle with safetensorsPath := given } ∧
    StoresAs path given bundle.safetensorsPath

/-- The records of a registry's file in front of the first one that describes no bundle. A file that
lists no records has none. -/
def validRecords (fs : Filesystem) (path : String) : List Value :=
  -- The reading stops at the first faulty record, and keeps what it had by then.
  match readDocument fs path >>= records with
  | .ok values => values.takeWhile fun record => (readRecord record).isOk
  | .error _ => []

/-- Locating weights stores their path as a registry does that is read from the path of its file. -/
theorem storesAs_locate (path : String) (raw : ModelBundle) :
    StoresAs path raw.safetensorsPath
      (locate (Path.parent (Path.plain path)) raw).safetensorsPath where
  -- The cases are those of locating: an empty path, an absolute one, and one that is put below the
  -- directory.
  empty empty := by simp [locate, empty]
  unchanged absolute := by rw [locate_of_absolute _ absolute]
  beside given relative := by
    rw [locate_of_relative _ given relative]
    exact (Path.beside_rooted (Path.plain path) raw.safetensorsPath).of_plain
  nonempty given := by
    -- A path from the root is left alone, and any other one is made anew, with a dot for nothing.
    cases own : Path.isAbsolute raw.safetensorsPath with
    | true => rwa [locate_of_absolute _ own]
    | false =>
      rw [locate_of_relative _ given own]
      exact Path.rooted_ne_empty _ _

/-- The weights of the bundle that a record describes are where the record says. -/
theorem gives_of_readRecord {record : Value} {raw : ModelBundle}
    (valid : readRecord record = .ok raw) : Gives record raw.safetensorsPath := by
  -- The checks of the bundle's own fields are undone one by one, down to that of the path.
  obtain ⟨fields, read, checked⟩ := readRecord_eq_ok_iff.mp valid
  obtain ⟨⟨name, weights, config⟩, parts, rfl⟩ := Schema.Checked.map_eq_ok_iff.mp checked
  obtain ⟨_, others⟩ := Schema.Checked.both_eq_ok_iff.mp parts
  obtain ⟨path, _⟩ := Schema.Checked.both_eq_ok_iff.mp others
  exact ⟨fields, read, Schema.defaulted_eq_ok_iff.mp path⟩

/-- The bundle that is read from a record is kept for it. -/
theorem keeps_of_readBundle {path : String} {record : Value} {bundle : ModelBundle}
    (built : readBundle (Path.plain path) record = .ok bundle) : Keeps path record bundle := by
  -- The record was valid, and the bundle is its own with the weights located.
  cases valid : readRecord record with
  | error failure => simp [readBundle, valid, Except.map] at built
  | ok raw =>
    -- It is the described one, located, which changes nothing but the path of the weights.
    simp only [readBundle, valid, Except.map, Except.ok.injEq] at built
    subst built
    refine ⟨raw.safetensorsPath, gives_of_readRecord valid, ?_, storesAs_locate path raw⟩
    rw [valid, locate]
    split <;> rfl

/-- Records that describe bundles are valid, so that the first faulty one of a file comes after
them. -/
theorem Describes.validRecords_eq {fs : Filesystem} {path : String} {document : Value}
    {before after : List Value} {taken : List ModelBundle} (describes : Describes path before taken)
    (read : readDocument fs path = .ok document)
    (listed : records document = .ok (before ++ after)) :
    validRecords fs path = before ++ after.takeWhile fun record => (readRecord record).isOk := by
  -- The valid records of the file go on until the first faulty one, and all of these are valid.
  simp only [validRecords, read, Bind.bind, Except.bind, listed]
  refine List.takeWhile_append_of_pos fun record member => ?_
  obtain ⟨bundle, valid⟩ := exists_readBundle_iff.mp (describes.exists_of_mem member)
  rw [valid]
  rfl

/-- Reading a file finds a bundle for each of its valid records, and ends well exactly if the file
lists no others. -/
theorem Reads.valid {fs : Filesystem} {path : String} {outcome : Except Failure Unit}
    {taken : List ModelBundle} (reads : Reads fs path outcome taken) :
    Describes path (validRecords fs path) taken ∧
      (outcome = .ok () ↔ (readDocument fs path >>= records) = .ok (validRecords fs path)) := by
  -- The ways in which a reading can end are gone through, each with the records that it has come
  -- to.
  cases reads with
  | unread unread =>
    rw [validRecords, unread]
    exact ⟨.nil, nofun, nofun⟩
  | unlisted read unlisted =>
    simp only [validRecords, read, Bind.bind, Except.bind, unlisted]
    exact ⟨.nil, nofun, nofun⟩
  | @stopped _ record before after _ _ read listed describes faulty =>
    -- The valid records end in front of the faulty one, which the file lists as well.
    have stops : (record :: after).takeWhile (fun record => (readRecord record).isOk) = [] := by
      refine List.takeWhile_cons_of_neg ?_
      rw [readBundle_eq_error_iff.mp faulty]
      exact Bool.false_ne_true
    have valid : validRecords fs path = before := by
      rw [describes.validRecords_eq read listed, stops, List.append_nil]
    rw [valid]
    refine ⟨describes, nofun, fun same => ?_⟩
    simp [read, listed, Bind.bind, Except.bind] at same
  | @complete _ all _ read listed describes =>
    have valid : validRecords fs path = all := by
      rw [describes.validRecords_eq read (listed.trans (by rw [List.append_nil])), List.takeWhile_nil,
        List.append_nil]
    rw [valid]
    exact ⟨describes, fun _ => by simp [read, listed, Bind.bind, Except.bind], fun _ => rfl⟩

/-- Whatever its file holds, a registry that is read from a path, for the first time or again, keeps
a bundle for each valid record in front of the first faulty one, and the reading succeeds exactly if
the file lists no others. The bundle is what the record describes, but for the path of its weights.
An empty path stays empty, and one from the root stays as it is spelled. Any other one has the names
of the directory of the registry's file in front of its own and no other parts, and is absolute
exactly when the path of the registry is. No path becomes empty. The bundles come in the order of
the records, and each name stands for the last of those with that name. -/
theorem weights_stored (fs : Filesystem) (path : String) :
    ∃ kept outcome, List.Forall₂ (Keeps path) (validRecords fs (Path.plain path)) kept ∧
      (outcome = .ok () ↔
        (readDocument fs (Path.plain path) >>= records) = .ok (validRecords fs (Path.plain path))) ∧
      load fs path
        = outcome.map (fun _ => { path := Path.plain path, bundles := Bundles.putAll [] kept }) ∧
      (∀ held : Bundles, reload { path := Path.plain path, bundles := held } fs
        = ({ path := Path.plain path, bundles := Bundles.putAll [] kept }, outcome)) ∧
      ∀ name, Bundles.get? (Bundles.putAll [] kept) name
        = kept.reverse.find? fun bundle => bundle.name == name := by
  -- Both ways of reading fill a registry that holds nothing.
  obtain ⟨outcome, kept, reads, filled⟩ := fill_reads { path := Path.plain path } fs
  obtain ⟨describes, complete⟩ := reads.valid
  have each : List.Forall₂ (Keeps path) (validRecords fs (Path.plain path)) kept :=
    describes.imp fun _ _ => keeps_of_readBundle
  refine ⟨kept, outcome, each, complete, ?_, fun held => filled, Bundles.get?_putAll kept⟩
  rw [load, filled]
  cases outcome <;> rfl

/-- A registry file with weights in several spellings. -/
def spelledFile : Filesystem :=
  -- The spellings are a relative path with detours, an absolute one, none, and one without a name.
  oneFile "m.yaml"
    ("models:\n- name: a\n  safetensors_path: w//./x/../m.st\n"
      ++ "- name: b\n  safetensors_path: /w//m.st\n- name: c\n- name: d\n  safetensors_path: ./\n")

example :
    ((load spelledFile ".//m.yaml").map fun registry => registry.list.map (·.safetensorsPath))
        = .ok ["w/x/../m.st", "/w//m.st", "", "."] ∧
      ((load spelledFile "//m.yaml").map fun registry => registry.list.map (·.safetensorsPath))
        = .ok ["//w/x/../m.st", "/w//m.st", "", "//"] := by
  decide +kernel

end Registry

end ModelServing
