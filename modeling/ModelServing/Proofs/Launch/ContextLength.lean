import ModelServing.Proofs.Launch.CommandLine
import ModelServing.Proofs.Registry.Reachability
import ModelServing.Proofs.Registry.Reload

/-! Which context lengths bundles declare, and which ones a server is started with. -/

namespace ModelServing

namespace Schema

/-- A field that may be null holds an integer exactly if its value stands for that integer. -/
theorem optional_integerField_eq_some_iff {value : Value} {n : Int} :
    optional integerField value = .ok (some n) ↔ integerOf value = .ok n := by
  -- A null value stands for none.
  by_cases null : value = .null
  · subst null
    simp [optional, integerOf]
  · have read : optional integerField value = (integerField value).map some := by
      unfold optional
      split
      · contradiction
      · rfl
    rw [read, integerField]
    cases integerOf value <;> simp [Checked.fail, Except.map]

end Schema

open Schema

namespace RuntimeConfig

/-- A value declares a context length exactly if it stands for a positive integer. -/
theorem declared_eq_some_iff {value : Value} {size : Int} :
    declared value = .ok (some size) ↔ integerOf value = .ok size ∧ 1 ≤ size := by
  -- The value is read first, and what it stands for is checked then.
  rw [← optional_integerField_eq_some_iff]
  cases read : optional integerField value with
  | error issues => simp [declared, read, Bind.bind, Except.bind]
  | ok found =>
    cases found with
    | none => simp [declared, read, Bind.bind, Except.bind]
    | some found =>
      simp only [declared, read, Bind.bind, Except.bind]
      split <;> simp [Checked.fail] <;> omega

/-- A configuration that declares no context length below one. -/
def IsPositive (config : RuntimeConfig) : Prop := ∀ size, config.contextSize = some size → 1 ≤ size

/-- A configuration without any settings is such a one. -/
theorem isPositive_empty : IsPositive {} := by
  -- No length is declared at all.
  rintro size ⟨⟩

/-- Fields that pass their checks declare a positive context length, or none. -/
theorem isPositive_of_check {fields : Fields} {config : RuntimeConfig}
    (ok : check fields = .ok config) : config.IsPositive := by
  -- The field is absent, or it has passed the check that its value is positive.
  obtain ⟨found, read, rfl⟩ := Checked.map_eq_ok_iff.mp ok
  rcases defaulted_eq_ok_iff.mp read with ⟨_, rfl⟩ | ⟨value, _, given⟩
  · exact isPositive_empty
  · rintro size rfl
    exact (declared_eq_some_iff.mp given).2

/-- A configuration that passes as a field declares a positive context length, or none. -/
theorem isPositive_of_runtimeField {value : Value} {config : RuntimeConfig}
    (ok : runtimeField value = .ok config) : config.IsPositive := by
  -- Only a mapping passes, and its fields are checked.
  unfold runtimeField at ok
  split at ok
  · exact isPositive_of_check ok
  · cases ok

end RuntimeConfig

namespace ModelBundle

/-- A bundle whose fields pass their checks declares a positive context length, or none. -/
theorem isPositive_of_check {fields : Fields} {bundle : ModelBundle}
    (ok : check fields = .ok bundle) : bundle.runtimeConfig.IsPositive := by
  -- The configuration is the last of three fields, and an absent one is empty.
  obtain ⟨⟨name, path, config⟩, read, rfl⟩ := Checked.map_eq_ok_iff.mp ok
  obtain ⟨_, others⟩ := Checked.both_eq_ok_iff.mp read
  obtain ⟨_, configured⟩ := Checked.both_eq_ok_iff.mp others
  rcases defaulted_eq_ok_iff.mp configured with ⟨_, rfl⟩ | ⟨value, _, given⟩
  · exact RuntimeConfig.isPositive_empty
  · exact RuntimeConfig.isPositive_of_runtimeField given

end ModelBundle

namespace Registry

/-- Where a bundle's weights are does not change what it declares. -/
@[simp] theorem locate_runtimeConfig (directory : String) (bundle : ModelBundle) :
    (locate directory bundle).runtimeConfig = bundle.runtimeConfig := by
  -- Locating touches the path of the weights only.
  unfold locate
  split <;> rfl

/-- A bundle that a record describes declares a positive context length, or none. -/
theorem isPositive_of_readBundle {path : String} {record : Value} {bundle : ModelBundle}
    (built : readBundle path record = .ok bundle) : bundle.runtimeConfig.IsPositive := by
  -- The record passes the checks of a bundle, and locating keeps what it declares.
  cases read : readRecord record with
  | error failure => simp [readBundle, read, Except.map] at built
  | ok raw =>
    obtain ⟨fields, _, checked⟩ := readRecord_eq_ok_iff.mp read
    rw [readBundle, read, Except.map, Except.ok.injEq] at built
    rw [← built, locate_runtimeConfig]
    exact ModelBundle.isPositive_of_check checked

end Registry

namespace Launch

/-- The context length of a run is what the bundle declares. A caller's positive one counts without
that, and any other one does not. -/
theorem contextLength?_cases (declared : RuntimeConfig) (config : Option BackendConfiguration) :
    (∃ size, declared.contextSize = some size ∧ contextLength? declared config = some size) ∨
    (declared.contextSize = none ∧ ∃ size, config.bind (·.contextSize) = some size ∧ 1 ≤ size ∧
      contextLength? declared config = some size) ∨
    (declared.contextSize = none ∧ (∀ size, config.bind (·.contextSize) = some size → size ≤ 0) ∧
      contextLength? declared config = none) := by
  -- The declared length is asked for first, and the requested one counts only if it is positive.
  cases own : declared.contextSize with
  | some size => exact .inl ⟨size, rfl, by simp [contextLength?, own]⟩
  | none =>
    right
    cases asked : config.bind (·.contextSize) with
    | none => exact .inr ⟨rfl, by simp, by simp [contextLength?, own, requestedLength?, asked]⟩
    | some size =>
      by_cases positive : 1 ≤ size
      · have above : 0 < size := by omega
        exact .inl ⟨rfl, size, rfl, positive,
          by simp [contextLength?, own, requestedLength?, asked, above]⟩
      · have small : size ≤ 0 := by omega
        refine .inr ⟨rfl, ?_, by simp [contextLength?, own, requestedLength?, asked, small]⟩
        rintro _ ⟨⟩
        omega

/-- Every bundle of every registry that there can be declares a context length of one or more, or
none. What the bundle declares is set in decimal in its arguments, or else what the caller asks for
if that is positive. It is set once, between the arguments of the mode and the caller's flags, and
nothing is set where neither of the two counts: no number below one is ever told there. There are
arguments exactly if the bundle has weights and the mode is one that the server has. -/
theorem length_arguments_of_reachable {registry : Registry} (reached : registry.Reachable)
    {bundle : ModelBundle} (stored : bundle ∈ registry.list) :
    (∀ size, bundle.runtimeConfig.contextSize = some size → 1 ≤ size) ∧
    ∀ config : Option BackendConfiguration, ∃ length,
      ((∃ size, bundle.runtimeConfig.contextSize = some size ∧ 1 ≤ size ∧
          length = ["--context-length", toString size]) ∨
        (bundle.runtimeConfig.contextSize = none ∧
          ∃ size, config.bind (·.contextSize) = some size ∧ 1 ≤ size ∧
            length = ["--context-length", toString size]) ∨
        (bundle.runtimeConfig.contextSize = none ∧
          (∀ size, config.bind (·.contextSize) = some size → size ≤ 0) ∧ length = [])) ∧
      ∀ base socket mode words, arguments base bundle socket mode config = .ok words ↔
        bundle.safetensorsPath ≠ "" ∧ ∃ selected,
          ((mode = .text "completion" ∧ selected = []) ∨
            (mode = .text "embedding" ∧ selected = ["--is-embedding"])) ∧
          words = base ++ ["-m", "sglang.launch_server", "--model-path",
              Path.directory bundle.safetensorsPath, "--host", socket]
            ++ selected ++ length ++ flags config := by
  -- Whatever the registry holds was read from a record, which was checked.
  have positive : bundle.runtimeConfig.IsPositive :=
    reached.forall_mem (fun _ _ _ => Registry.isPositive_of_readBundle) bundle stored
  refine ⟨positive, fun config => ⟨lengthArguments bundle.runtimeConfig config, ?_, ?_⟩⟩
  · rcases contextLength?_cases bundle.runtimeConfig config with
      ⟨size, own, told⟩ | ⟨none, size, asked, above, told⟩ | ⟨none, below, told⟩
    · exact .inl ⟨size, own, positive size own, by simp [lengthArguments, told]⟩
    · exact .inr (.inl ⟨none, size, asked, above, by simp [lengthArguments, told]⟩)
    · exact .inr (.inr ⟨none, below, by simp [lengthArguments, told]⟩)
  · rintro base socket mode words
    simp only [arguments_eq_ok_iff, modeArguments_eq_ok_iff]

/-- A registry file with a context length that is spelled as a truth value, and another one that is
not positive. -/
def lengthFile : Filesystem :=
  -- The first record is sound, as truth values are numbers, and the second one ends the reading.
  Registry.oneFile "m.yaml" ("models:\n- name: a\n  safetensors_path: /w/a\n"
    ++ "  runtime_config:\n    context_size: true\n"
    ++ "- name: b\n  runtime_config:\n    context_size: 0\n")

/-- After it failed to read that file again, a registry holds the bundle of the first record, for
which the length of one is told and not the caller's. -/
theorem length_arguments_after_failed_reload :
    ∃ registry bundle, Registry.load Registry.soundFile "/m.yaml" = .ok registry ∧
      (registry.reload lengthFile).2.isOk = false ∧
      (registry.reload lengthFile).1.list = [bundle] ∧
      arguments [] bundle "sock" (.text "completion") (some { contextSize := some 9 })
        = .ok ["-m", "sglang.launch_server", "--model-path", "/w", "--host", "sock",
            "--context-length", "1"] := by
  -- What was read is computed; that the registry can be reached gives the rest.
  have shown : (Registry.load Registry.soundFile "/m.yaml").map (fun registry =>
      ((registry.reload lengthFile).2.isOk, (registry.reload lengthFile).1.list.map fun bundle =>
        (bundle.safetensorsPath, bundle.runtimeConfig.contextSize)))
      = .ok (false, [("/w/a", some 1)]) := by decide +kernel
  cases loaded : Registry.load Registry.soundFile "/m.yaml" with
  | error failure => simp [loaded, Except.map] at shown
  | ok registry =>
    simp only [loaded, Except.map, Except.ok.injEq, Prod.mk.injEq] at shown
    obtain ⟨failed, listed⟩ := shown
    obtain ⟨bundle, rest, held, own, none⟩ := List.map_eq_cons_iff.mp listed
    rw [List.map_eq_nil_iff.mp none] at held
    simp only [Prod.mk.injEq] at own
    refine ⟨registry, bundle, rfl, failed, held, ?_⟩
    obtain ⟨_, told⟩ := length_arguments_of_reachable (.reloaded (.loaded loaded) lengthFile)
      (held ▸ List.mem_singleton_self bundle)
    obtain ⟨length, set, built⟩ := told (some { contextSize := some 9 })
    obtain rfl : length = ["--context-length", toString (1 : Int)] := by simpa [own.2] using set
    exact (built [] "sock" (.text "completion") _).mpr
      ⟨by rw [own.1]; decide, [], by simp, by rw [own.1]; decide⟩

end Launch

end ModelServing
