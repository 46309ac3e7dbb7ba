import ModelServing.Proofs.Registry.Reload

/-! What a registry holds after its file was read without a fault. -/

namespace ModelServing

namespace Bundles

/-- A name is registered exactly if a bundle is found under it. -/
theorem isSome_get?_putAll (more : List ModelBundle) (name : String) :
    (get? (putAll [] more) name).isSome = true ↔ name ∈ names (putAll [] more) := by
  -- Both sides say that one of the bundles has the name.
  rw [get?_putAll, names_putAll, List.mem_eraseDups, List.find?_isSome]
  simp

/-- The bundle that is found under a name has that name. -/
theorem name_of_get?_putAll {more : List ModelBundle} {name : String} {bundle : ModelBundle}
    (found : get? (putAll [] more) name = some bundle) : bundle.name = name := by
  -- The search compares names.
  rw [get?_putAll] at found
  simpa using List.find?_some found

/-- The registered bundles have the registered names, in the same order. -/
theorem map_name_putAll (more : List ModelBundle) :
    ((putAll [] more).map (·.2)).map (·.name) = names (putAll [] more) := by
  -- Each entry is found under its own name, and what is found under a name has it.
  rw [List.map_map]
  refine List.map_congr_left fun entry member => ?_
  exact name_of_get?_putAll (get?_of_mem (nodup_names_putAll more) member)

end Bundles

namespace Registry

/-- Records that are all read describe the bundles that were read, with their weights located. -/
theorem describes_of_mapM {path : String} {values : List Value} {raws : List ModelBundle}
    (valid : values.mapM readRecord = .ok raws) :
    Describes path values (raws.map (locate (Path.parent path))) := by
  -- Induction on the records, one after the other.
  induction values generalizing raws with
  | nil =>
    cases valid
    exact .nil
  | cons record rest ih =>
    -- The first record is read, and then the others are.
    rw [List.mapM_cons] at valid
    cases first : readRecord record with
    | error failure => simp [first, bind, Except.bind] at valid
    | ok raw =>
      cases others : rest.mapM readRecord with
      | error failure => simp [first, others, bind, Except.bind] at valid
      | ok more =>
        simp only [first, others, bind, Except.bind, pure, Except.pure, Except.ok.injEq] at valid
        subst valid
        exact .cons (by simp [readBundle, first, Except.map]) (ih others)

/-- Records that describe bundles are all added. -/
theorem addRecords_of_describes {path : String} {values : List Value} {taken : List ModelBundle}
    (describes : Describes path values taken) (bundles : Bundles) :
    addRecords { path, bundles } values = ({ path, bundles := bundles.putAll taken }, .ok ()) := by
  -- Induction on the records, with what is registered already left open.
  induction describes generalizing bundles with
  | nil => rfl
  | @cons record bundle _ _ built _ ih =>
    rw [addRecords, built]
    exact ih (bundles.put bundle.name bundle)

/-- Reading a file that describes bundles registers all of them, with their weights located. -/
theorem fill_of_described {fs : Filesystem} {path : String} {raws : List ModelBundle}
    (sound : described fs path = .ok raws) (bundles : Bundles) :
    fill { path, bundles } fs =
      ({ path, bundles := bundles.putAll (raws.map (locate (Path.parent path))) }, .ok ()) := by
  -- A file that describes bundles is read, lists records, and all of these are valid.
  unfold described at sound
  cases read : readDocument fs path with
  | error failure => simp [read, bind, Except.bind] at sound
  | ok document =>
    cases listed : records document with
    | error failure => simp [read, listed, bind, Except.bind] at sound
    | ok values =>
      simp only [read, listed, bind, Except.bind] at sound
      simp only [fill, read, addDocument, listed]
      exact addRecords_of_describes (describes_of_mapM sound) bundles

/-- A registry is loaded from a file that describes bundles. Its names are their distinct names, in
the order in which each came first. Under a name stands the last bundle that the file describes with
that name, with its weights located, and nothing else. The bundles are listed in the order of their
names, one for each. Whatever a registry of the same file held before, reading the file again makes
it the one that is loaded. -/
theorem load_of_described {fs : Filesystem} {path : String} {raws : List ModelBundle}
    (sound : described fs (Path.plain path) = .ok raws) :
    ∃ registry, load fs path = .ok registry ∧ registry.path = Path.plain path ∧
      registry.names = (raws.map (·.name)).eraseDups ∧ registry.names.Nodup ∧
      (∀ name, registry.get? name =
        (raws.reverse.find? fun raw => raw.name == name).map
          (locate (Path.parent registry.path))) ∧
      (∀ name bundle, registry.get? name = some bundle → bundle.name = name) ∧
      registry.list.map (·.name) = registry.names ∧
      registry.list.map some = registry.names.map registry.get? ∧
      (∀ name, (registry.get? name).isSome = true ↔ name ∈ registry.names) ∧
      (∀ name bundle, registry.require name = .ok bundle ↔ registry.get? name = some bundle) ∧
      (∀ name error, registry.require name = .error error ↔
        registry.get? name = none ∧ error = .modelNotFound name registry.names) ∧
      ∀ held : Registry, held.path = registry.path → held.reload fs = (registry, .ok ()) := by
  -- Loading and reading again both fill an empty registry of the same path.
  have filled := fill_of_described sound []
  let located := raws.map (locate (Path.parent (Path.plain path)))
  refine ⟨{ path := Path.plain path, bundles := Bundles.putAll [] located }, ?_, rfl, ?_,
    Bundles.nodup_names_putAll located, ?_, fun name bundle => Bundles.name_of_get?_putAll,
    Bundles.map_name_putAll located, ?_, Bundles.isSome_get?_putAll located, ?_, ?_, ?_⟩
  · rw [load, filled]
  · -- Locating weights changes no names.
    simp only [names, Bundles.names_putAll, located, List.map_map, Function.comp_def, locate_name]
  · intro name
    simp only [get?, Bundles.get?_putAll, located, ← List.map_reverse, List.find?_map,
      Function.comp_def, locate_name]
  · rw [list, List.map_map]
    exact (Bundles.map_get?_names (Bundles.nodup_names_putAll located)).symm
  · intro name bundle
    rw [require]
    cases get? _ name <;> simp
  · intro name error
    rw [require]
    cases get? _ name <;> simp [eq_comm]
  · rintro ⟨_, held⟩ rfl
    exact filled

/-- A registry file in which a name is repeated. -/
def repeatingFile : Filesystem :=
  oneFile "m.yaml"
    "models:\n- name: a\n  safetensors_path: w\n- name: b\n- name: a\n  safetensors_path: v/x\n"

/-- A repeated name keeps its first place and stands for its last record, also where the registry
held other names before. -/
theorem load_of_repeating_file :
    (described repeatingFile (Path.plain "/m.yaml")).map (fun raws => raws.map (·.name))
      = .ok ["a", "b", "a"] ∧
    ∃ registry, load repeatingFile "/m.yaml" = .ok registry ∧ registry.names = ["a", "b"] ∧
      (registry.get? "a").map (·.safetensorsPath) = some "/v/x" ∧
      reload { path := "/m.yaml", bundles := [("c", { name := "c" }), ("b", { name := "b" })] }
        repeatingFile = (registry, .ok ()) := by
  -- The registry is loaded by evaluation, and the general statement gives its names and the reload.
  have named : (described repeatingFile (Path.plain "/m.yaml")).map (fun raws => raws.map (·.name))
      = .ok ["a", "b", "a"] := by decide +kernel
  have weights : (load repeatingFile "/m.yaml").map
      (fun registry => (registry.get? "a").map (·.safetensorsPath)) = .ok (some "/v/x") := by
    decide +kernel
  refine ⟨named, ?_⟩
  cases sound : described repeatingFile (Path.plain "/m.yaml") with
  | error failure => simp [sound, Except.map] at named
  | ok raws =>
    simp only [sound, Except.map, Except.ok.injEq] at named
    obtain ⟨registry, loaded, path, names, _, _, _, _, _, _, _, _, reloaded⟩ :=
      load_of_described sound
    simp only [loaded, Except.map, Except.ok.injEq] at weights
    refine ⟨registry, loaded, ?_, weights, reloaded _ (path ▸ by decide +kernel)⟩
    rw [names, named]
    decide

end Registry

end ModelServing
