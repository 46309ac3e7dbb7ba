import Mathlib.Data.List.Forall2
import Mathlib.Data.List.Induction
import Mathlib.Data.List.Nodup
import ModelServing.Registry.Store

/-! What a registry holds after the records of a document. -/

namespace ModelServing

namespace Bundles

/-- Registers bundles in order, each under its own name. -/
def putAll (bundles : Bundles) (more : List ModelBundle) : Bundles :=
  more.foldl (fun bundles bundle => bundles.put bundle.name bundle) bundles

/-- The last bundle is registered after all others. -/
theorem putAll_append_singleton (bundles : Bundles) (more : List ModelBundle)
    (bundle : ModelBundle) :
    bundles.putAll (more ++ [bundle]) = (bundles.putAll more).put bundle.name bundle := by
  -- Bundles are put one after the other, from the left.
  simp [putAll]

/-- The names of registered bundles are their distinct names, in the order in which each came
first. -/
theorem names_putAll (more : List ModelBundle) :
    names (putAll [] more) = (more.map (·.name)).eraseDups := by
  -- Induction from the end, since the last bundle is put last.
  induction more using List.reverseRecOn with
  | nil => rfl
  | append_singleton more bundle ih =>
    -- The name of the last bundle counts only if no other has it.
    rw [putAll_append_singleton, names_put, ih, List.map_append, List.eraseDups_append]
    rw [List.map_singleton, List.removeAll]
    by_cases known : bundle.name ∈ more.map (·.name)
    · rw [if_pos (List.mem_eraseDups.mpr known), List.filter_cons_of_neg (by simpa using known)]
      simp
    · rw [if_neg (mt List.mem_eraseDups.mp known), List.filter_cons_of_pos (by simpa using known)]
      simp [List.eraseDups_cons]

/-- Under a name stands the last bundle that has it. -/
theorem get?_putAll (more : List ModelBundle) (name : String) :
    get? (putAll [] more) name = more.reverse.find? fun bundle => bundle.name == name := by
  -- The last bundle hides every earlier one of its name, and none of another.
  induction more using List.reverseRecOn with
  | nil => rfl
  | append_singleton more bundle ih =>
    rw [putAll_append_singleton, List.reverse_append]
    by_cases same : bundle.name = name
    · subst same
      simp
    · have other : name ≠ bundle.name := fun equal => same equal.symm
      simp [get?_put_of_ne _ _ other, ih, same]

/-- Registering a bundle keeps the names distinct. -/
theorem nodup_names_put {bundles : Bundles} (distinct : (names bundles).Nodup) (name : String)
    (bundle : ModelBundle) : (names (put name bundle bundles)).Nodup := by
  -- A name is only added where it was not known.
  rw [names_put]
  split
  · exact distinct
  · rename_i unknown
    exact List.nodup_append.mpr ⟨distinct, List.nodup_singleton name, by
      rintro first member _ last rfl
      rw [List.mem_singleton] at last
      exact unknown (last ▸ member)⟩

/-- The names of registered bundles are distinct. -/
theorem nodup_names_putAll (more : List ModelBundle) : (names (putAll [] more)).Nodup := by
  -- Every bundle keeps the names distinct.
  induction more using List.reverseRecOn with
  | nil => exact List.nodup_nil
  | append_singleton more bundle ih =>
    rw [putAll_append_singleton]
    exact nodup_names_put ih _ _

/-- With distinct names, every registered bundle is found under its name. -/
theorem get?_of_mem {bundles : Bundles} (distinct : (names bundles).Nodup)
    {entry : String × ModelBundle} (member : entry ∈ bundles) :
    get? bundles entry.1 = some entry.2 := by
  -- Induction on the entries: the one that is looked for is the first or comes later.
  induction bundles with
  | nil => cases member
  | cons first rest ih =>
    obtain ⟨fresh, distinct⟩ := List.nodup_cons.mp distinct
    rcases List.mem_cons.mp member with same | later
    · simp [get?, same]
    · -- The first entry has another name, since the entry's own comes later.
      have other : first.1 ≠ entry.1 := fun equal =>
        fresh (List.mem_map.mpr ⟨entry, later, equal.symm⟩)
      simpa [get?, other] using ih distinct later

/-- With distinct names, the bundles in their order are those found under the names in theirs. -/
theorem map_get?_names {bundles : Bundles} (distinct : (names bundles).Nodup) :
    (names bundles).map bundles.get? = bundles.map fun entry => some entry.2 := by
  -- Each entry is found under its own name.
  rw [names, List.map_map]
  exact List.map_congr_left fun entry member => get?_of_mem distinct member

end Bundles

namespace Registry

/-- A record describes a bundle exactly if it is a mapping whose fields pass the bundle's checks. -/
theorem readRecord_eq_ok_iff {record : Value} {bundle : ModelBundle} :
    readRecord record = .ok bundle ↔
      ∃ fields, recordFields record = .ok fields ∧ ModelBundle.check fields = .ok bundle := by
  -- Reading has two steps: the fields of the mapping, and their checks.
  cases read : recordFields record with
  | error failure => simp [readRecord, read, Bind.bind, Except.bind]
  | ok fields =>
    cases checked : ModelBundle.check fields <;>
      simp [readRecord, read, ModelBundle.ofFields, Schema.accepted, checked, Bind.bind,
        Except.bind, Except.mapError, Pure.pure, Except.pure, throw, throwThe, MonadExceptOf.throw]

/-- Records describe bundles, one each. -/
def Describes (path : String) : List Value → List ModelBundle → Prop :=
  List.Forall₂ fun record bundle => readBundle path record = .ok bundle

/-- What reading a registry's file comes to: how it ends, and the bundles it has found until
then. -/
inductive Reads (fs : Filesystem) (path : String) : Except Failure Unit → List ModelBundle → Prop
  | unread {failure : Failure} (unread : readDocument fs path = .error failure) :
    Reads fs path (.error failure) []
  | unlisted {document : Value} {failure : Failure} (read : readDocument fs path = .ok document)
    (unlisted : records document = .error failure) : Reads fs path (.error failure) []
  | stopped {document record : Value} {before after : List Value} {taken : List ModelBundle}
    {failure : Failure} (read : readDocument fs path = .ok document)
    (listed : records document = .ok (before ++ record :: after))
    (describes : Describes path before taken) (faulty : readBundle path record = .error failure) :
    Reads fs path (.error failure) taken
  | complete {document : Value} {all : List Value} {taken : List ModelBundle}
    (read : readDocument fs path = .ok document) (listed : records document = .ok all)
    (describes : Describes path all taken) : Reads fs path (.ok ()) taken

/-- Adding records registers the bundles of all of them, or of those before the first faulty one. -/
theorem addRecords_cases (registry : Registry) (records : List Value) :
    (∃ taken, Describes registry.path records taken ∧
      registry.addRecords records
        = ({ registry with bundles := registry.bundles.putAll taken }, .ok ())) ∨
    (∃ before record after taken failure, records = before ++ record :: after ∧
      Describes registry.path before taken ∧ readBundle registry.path record = .error failure ∧
      registry.addRecords records
        = ({ registry with bundles := registry.bundles.putAll taken }, .error failure)) := by
  -- A record that describes a bundle is registered, and the first that does not is where it stops.
  induction records generalizing registry with
  | nil => exact Or.inl ⟨[], .nil, rfl⟩
  | cons record rest ih =>
    cases built : readBundle registry.path record with
    | error failure =>
      right
      refine ⟨[], record, rest, [], failure, rfl, .nil, built, ?_⟩
      simp [addRecords, built, Bundles.putAll]
    | ok bundle =>
      have first : registry.addRecords (record :: rest) = addRecords
          { registry with bundles := registry.bundles.put bundle.name bundle } rest := by
        simp [addRecords, built]
      rcases ih { registry with bundles := registry.bundles.put bundle.name bundle } with
        ⟨taken, describes, added⟩ |
        ⟨before, faulty, after, taken, failure, split, describes, refused, added⟩
      · left
        refine ⟨bundle :: taken, .cons built describes, ?_⟩
        rw [first, added]
        rfl
      · right
        refine ⟨record :: before, faulty, after, bundle :: taken, failure, ?_,
          .cons built describes, refused, ?_⟩
        · rw [split]
          rfl
        · rw [first, added]
          rfl

/-- Reading a registry's file registers the bundles that it finds. -/
theorem fill_reads (registry : Registry) (fs : Filesystem) :
    ∃ outcome taken, Reads fs registry.path outcome taken ∧
      registry.fill fs = ({ registry with bundles := registry.bundles.putAll taken }, outcome) := by
  -- Reading can stop at the document, at the list of records or at a record.
  unfold fill
  cases read : readDocument fs registry.path with
  | error failure => exact ⟨_, [], .unread read, rfl⟩
  | ok document =>
    simp only [addDocument]
    cases listed : records document with
    | error failure => exact ⟨_, [], .unlisted read listed, rfl⟩
    | ok all =>
      rcases registry.addRecords_cases all with ⟨taken, describes, added⟩ |
        ⟨before, record, after, taken, failure, split, describes, faulty, added⟩
      · exact ⟨_, taken, .complete read listed describes, added⟩
      · exact ⟨_, taken, .stopped read (split ▸ listed) describes faulty, added⟩

/-- A registry that was loaded holds the bundles of all records of its file. -/
theorem load_reads {fs : Filesystem} {path : String} {registry : Registry}
    (loaded : load fs path = .ok registry) :
    ∃ taken, Reads fs (Path.plain path) (.ok ()) taken ∧
      registry = { path := Path.plain path, bundles := Bundles.putAll [] taken } := by
  -- Only a reading that is complete gives a registry.
  obtain ⟨outcome, taken, reads, filled⟩ := fill_reads { path := Path.plain path } fs
  rw [load, filled] at loaded
  cases outcome with
  | error failure => cases loaded
  | ok done => exact ⟨taken, reads, (Except.ok.inj loaded).symm⟩

/-- Where a bundle's weights are does not change its name. -/
@[simp] theorem locate_name (directory : String) (bundle : ModelBundle) :
    (locate directory bundle).name = bundle.name := by
  -- Locating touches the path of the weights only.
  unfold locate
  split <;> rfl

/-- An absolute path of weights stays as it is spelled. -/
theorem locate_of_absolute (directory : String) {raw : ModelBundle}
    (absolute : Path.isAbsolute raw.safetensorsPath = true) : locate directory raw = raw := by
  -- The path is asked first whether it is absolute.
  simp [locate, absolute]

/-- A relative path of weights is made anew, from the names of the registry's directory and its
own. -/
theorem locate_of_relative (path : String) {raw : ModelBundle} (given : raw.safetensorsPath ≠ "")
    (relative : Path.isAbsolute raw.safetensorsPath = false) :
    (locate (Path.parent path) raw).safetensorsPath = Path.rooted (Path.parent path)
      (Path.names (Path.parent path) ++ Path.names raw.safetensorsPath) := by
  -- The path is neither empty nor absolute, so it is put below the directory.
  simp [locate, given, relative, Path.below]

/-- The bundles that the records of a registry's file describe, before their weights are located. -/
def described (fs : Filesystem) (path : String) : Except Failure (List ModelBundle) := do
  -- The three steps of a load, in its order, without keeping anything.
  let document ← readDocument fs path
  let records ← records document
  records.mapM readRecord

/-- The bundles of records are those that the records describe, with their weights located. -/
theorem Describes.map_locate {path : String} {records : List Value} {taken : List ModelBundle}
    (describes : Describes path records taken) :
    ∃ raws, records.mapM readRecord = .ok raws ∧
      taken = raws.map (locate (Path.parent path)) := by
  -- A bundle is read first, then located.
  induction describes with
  | nil => exact ⟨[], rfl, rfl⟩
  | @cons record bundle _ _ built _ ih =>
    obtain ⟨raws, read, same⟩ := ih
    cases raw : readRecord record with
    | error failure => simp [readBundle, raw, Except.map] at built
    | ok found =>
      simp only [readBundle, raw, Except.map, Except.ok.injEq] at built
      refine ⟨found :: raws, ?_, by rw [same, ← built]; rfl⟩
      rw [List.mapM_cons, raw, read]
      rfl

/-- The bundle that a loaded registry has under a name is the last that its file describes with the
name, with its weights located. -/
theorem require_of_load {fs : Filesystem} {path name : String} {registry : Registry}
    {bundle : ModelBundle} (loaded : load fs path = .ok registry)
    (required : registry.require name = .ok bundle) :
    ∃ raws raw, described fs (Path.plain path) = .ok raws ∧
      raws.reverse.find? (fun raw => raw.name == name) = some raw ∧
      bundle = locate (Path.parent (Path.plain path)) raw := by
  -- Locating weights changes no names, so the last bundle of the name is the same in both lists.
  obtain ⟨taken, reads, filled⟩ := load_reads loaded
  cases reads with
  | complete read listed describes =>
    obtain ⟨raws, records, located⟩ := describes.map_locate
    have found : taken.reverse.find? (fun bundle => bundle.name == name) = some bundle := by
      rw [← Bundles.get?_putAll]
      unfold require get? at required
      rw [filled] at required
      split at required
      · rename_i held stands
        rw [stands, Except.ok.inj required]
      · cases required
    rw [located, ← List.map_reverse, List.find?_map, Option.map_eq_some_iff] at found
    obtain ⟨raw, last, same⟩ := found
    refine ⟨raws, raw, ?_, by simpa [Function.comp_def] using last, same.symm⟩
    simp [described, read, listed, records, Bind.bind, Except.bind]

end Registry

end ModelServing
