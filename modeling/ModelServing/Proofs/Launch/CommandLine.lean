import ModelServing.Launch.Arguments

/-! What the command line of a server is made of, and when there is none. -/

namespace ModelServing.Launch

/-- A mode selects arguments exactly if it is one of the two that are served. -/
theorem modeArguments_eq_ok_iff {mode : Value} {selected : List String} :
    modeArguments mode = .ok selected ↔
      (mode = .text "completion" ∧ selected = []) ∨
        (mode = .text "embedding" ∧ selected = ["--is-embedding"]) := by
  -- The value names one of the three modes, or none.
  unfold modeArguments
  cases named : Mode.ofValue? mode with
  | none =>
    have unnamed : ∀ other : Mode, mode ≠ .text other.text := fun other same => by
      rw [Mode.ofValue?_eq_some_iff.mpr same] at named
      cases named
    simp [show mode ≠ .text "completion" from unnamed .completion,
      show mode ≠ .text "embedding" from unnamed .embedding]
  | some found =>
    rw [Mode.ofValue?_eq_some_iff] at named
    subst named
    cases found <;> simp [Mode.text, eq_comm]

/-- A mode that selects no arguments is told as one that is not supported. -/
theorem kind_of_modeArguments {mode : Value} {error : BackendError}
    (refused : modeArguments mode = .error error) : error.kind = .unsupportedMode := by
  -- There is one way for a mode to be refused.
  unfold modeArguments at refused
  split at refused <;> cases refused <;> rfl

/-- A mode is refused exactly if it is none of the two that are served. -/
theorem modeArguments_refused_iff {mode : Value} :
    (∃ error, modeArguments mode = .error error) ↔
      mode ≠ .text "completion" ∧ mode ≠ .text "embedding" := by
  -- Whatever is not refused selects some arguments.
  cases chosen : modeArguments mode with
  | error error =>
    refine iff_of_true ⟨error, rfl⟩ ⟨?_, ?_⟩ <;> rintro rfl <;> cases chosen
  | ok selected =>
    refine iff_of_false (by simp) ?_
    rintro ⟨uncompleted, unembedded⟩
    rcases modeArguments_eq_ok_iff.mp chosen with ⟨same, _⟩ | ⟨same, _⟩
    · exact uncompleted same
    · exact unembedded same

/-- The context length is set exactly if there is one. -/
theorem lengthArguments_eq_iff {declared : RuntimeConfig} {config : Option BackendConfiguration}
    {length : List String} :
    lengthArguments declared config = length ↔
      (contextLength? declared config = none ∧ length = []) ∨
        ∃ size, contextLength? declared config = some size ∧
          length = ["--context-length", toString size] := by
  -- What is set depends on the effective length, which is there or not.
  unfold lengthArguments
  cases contextLength? declared config <;> simp [eq_comm]

/-- The flags are the caller's, and none without a configuration. -/
theorem flags_eq_iff {config : Option BackendConfiguration} {given : List String} :
    flags config = given ↔
      (config = none ∧ given = []) ∨
        ∃ settings, config = some settings ∧ given = settings.runtimeFlags := by
  -- A configuration is given or not.
  cases config <;> simp [flags, eq_comm]

section Arguments

variable {base : List String} {bundle : ModelBundle} {socket : String} {mode : Value}
  {config : Option BackendConfiguration}

/-- Without weights there are no arguments, whatever the mode. -/
theorem arguments_of_weightless (weightless : bundle.safetensorsPath = "") :
    arguments base bundle socket mode config = .error .missingArtifact := by
  -- The weights are looked for before the mode.
  simp [arguments, weightless]

/-- With weights, only the mode decides whether there are arguments. -/
theorem arguments_of_weighted (weighted : bundle.safetensorsPath ≠ "") :
    arguments base bundle socket mode config = (modeArguments mode).map fun selected =>
      base ++ ["-m", "sglang.launch_server", "--model-path",
          Path.directory bundle.safetensorsPath, "--host", socket]
        ++ selected ++ lengthArguments bundle.runtimeConfig config ++ flags config := by
  -- Once the weights are there, the mode is the only step that can fail.
  have nonempty : bundle.safetensorsPath.isEmpty = false := by simpa using weighted
  simp only [arguments, nonempty, Bool.false_eq_true, if_false]
  cases modeArguments mode with
  | error error => rfl
  | ok selected => simp [Except.map, Bind.bind, Except.bind, Pure.pure, Except.pure, moduleArguments]

/-- With weights, arguments are refused exactly for what is wrong with the mode. -/
theorem arguments_eq_error_iff (weighted : bundle.safetensorsPath ≠ "") {error : BackendError} :
    arguments base bundle socket mode config = .error error ↔
      modeArguments mode = .error error := by
  -- The mode is what remains once there are weights.
  rw [arguments_of_weighted weighted]
  cases modeArguments mode <;> simp [Except.map]

/-- There are arguments exactly if there are weights and the mode selects some. -/
theorem arguments_eq_ok_iff {words : List String} :
    arguments base bundle socket mode config = .ok words ↔
      bundle.safetensorsPath ≠ "" ∧ ∃ selected, modeArguments mode = .ok selected ∧
        words = base ++ ["-m", "sglang.launch_server", "--model-path",
            Path.directory bundle.safetensorsPath, "--host", socket]
          ++ selected ++ lengthArguments bundle.runtimeConfig config ++ flags config := by
  -- Weights and mode are the two conditions, in this order.
  by_cases weightless : bundle.safetensorsPath = ""
  · simp [arguments_of_weightless weightless, weightless]
  · rw [arguments_of_weighted weightless]
    cases modeArguments mode <;> simp [Except.map, weightless, eq_comm]

/-- Arguments name the directory of the weights, and a bundle without weights has none. -/
theorem arguments_eq_ok {built : List String}
    (ok : arguments base bundle socket mode config = .ok built) :
    bundle.safetensorsPath ≠ "" ∧ ∃ rest,
      built = base ++ moduleArguments
        ++ "--model-path" :: Path.directory bundle.safetensorsPath :: rest := by
  -- The arguments are laid out as they are for every bundle, of which the front is kept.
  obtain ⟨weighted, selected, _, rfl⟩ := arguments_eq_ok_iff.mp ok
  exact ⟨weighted, _, by simp only [List.append_assoc, List.cons_append, List.nil_append]; rfl⟩

/-- Flags that are added come after all other arguments. -/
theorem arguments_append_flags (more : List String) :
    arguments base bundle socket mode
        (some { config.getD {} with runtimeFlags := (config.getD {}).runtimeFlags ++ more })
      = (arguments base bundle socket mode config).map (· ++ more) := by
  -- Flags stand last, so adding some means putting them behind everything.
  by_cases weightless : bundle.safetensorsPath = ""
  · rw [arguments_of_weightless weightless, arguments_of_weightless weightless]
    rfl
  · rw [arguments_of_weighted weightless, arguments_of_weighted weightless]
    -- The context length does not look at the flags, and no configuration is like an empty one.
    cases modeArguments mode with
    | error error => rfl
    | ok selected =>
      cases config <;> simp [Except.map, lengthArguments, contextLength?, requestedLength?, flags]

end Arguments

/-- A bundle without weights has no arguments, whatever the mode. With weights, a mode other than
completion and embedding is not supported. For these two the arguments are the base ones, the
module, the directory of the weights, the address, the mark of an embedding server, the context
length if there is one, and the caller's flags, in this order. More flags come behind all of these,
and no configuration is like one without any settings. -/
theorem arguments_laid_out (base : List String) (bundle : ModelBundle) (socket : String)
    (mode : Value) (config : Option BackendConfiguration) :
    let built := arguments base bundle socket mode config
    ((∃ error, built = .error error ∧ error.kind = .missingArtifact) ↔
      bundle.safetensorsPath = "") ∧
    ((∃ error, built = .error error ∧ error.kind = .unsupportedMode) ↔
      bundle.safetensorsPath ≠ "" ∧ mode ≠ .text "completion" ∧ mode ≠ .text "embedding") ∧
    (∀ words, built = .ok words ↔
      bundle.safetensorsPath ≠ "" ∧ ∃ selected length flags,
        ((mode = .text "completion" ∧ selected = []) ∨
          (mode = .text "embedding" ∧ selected = ["--is-embedding"])) ∧
        ((contextLength? bundle.runtimeConfig config = none ∧ length = []) ∨
          ∃ size, contextLength? bundle.runtimeConfig config = some size ∧
            length = ["--context-length", toString size]) ∧
        ((config = none ∧ flags = []) ∨
          ∃ settings, config = some settings ∧ flags = settings.runtimeFlags) ∧
        words = base ++ ["-m", "sglang.launch_server", "--model-path",
            Path.directory bundle.safetensorsPath, "--host", socket]
          ++ selected ++ length ++ flags) ∧
    (∀ more, arguments base bundle socket mode
        (some { config.getD {} with runtimeFlags := (config.getD {}).runtimeFlags ++ more })
      = built.map (· ++ more)) ∧
    arguments base bundle socket mode none = arguments base bundle socket mode (some {}) := by
  -- Both conditions for an error are excluded one after the other, and what is left is the layout.
  intro built
  refine ⟨?_, ?_, fun words => ?_, arguments_append_flags, ?_⟩
  · by_cases weightless : bundle.safetensorsPath = ""
    · exact iff_of_true ⟨_, arguments_of_weightless weightless, rfl⟩ weightless
    · -- With weights, the mode is all that can still be wrong.
      refine iff_of_false ?_ weightless
      rintro ⟨error, failed, kind⟩
      rw [kind_of_modeArguments ((arguments_eq_error_iff weightless).mp failed)] at kind
      cases kind
  · by_cases weightless : bundle.safetensorsPath = ""
    · simp [built, arguments_of_weightless weightless, weightless, BackendError.kind]
    · rw [← modeArguments_refused_iff]
      constructor
      · rintro ⟨error, failed, _⟩
        exact ⟨weightless, error, (arguments_eq_error_iff weightless).mp failed⟩
      · rintro ⟨_, error, refused⟩
        exact ⟨error, (arguments_eq_error_iff weightless).mpr refused,
          kind_of_modeArguments refused⟩
  · rw [arguments_eq_ok_iff]
    simp only [modeArguments_eq_ok_iff, ← lengthArguments_eq_iff, ← flags_eq_iff]
    constructor
    · rintro ⟨weighted, selected, chosen, same⟩
      exact ⟨weighted, selected, _, _, chosen, rfl, rfl, same⟩
    · rintro ⟨weighted, selected, _, _, chosen, rfl, rfl, same⟩
      exact ⟨weighted, selected, chosen, same⟩
  · -- Adding no flags to no configuration makes an empty one of it.
    have added := @arguments_append_flags base bundle socket mode none []
    rw [show (fun words : List String => words ++ []) = id from funext List.append_nil] at added
    exact (added.trans (congrFun Except.map_id _)).symm

/-- A flag that looks like the address comes last, and the bundle's own context length counts. -/
theorem arguments_laid_out_with_all_parts :
    arguments ["-q"]
        { name := "m", safetensorsPath := "/w/m.st", runtimeConfig := { contextSize := some 8 } }
        "sock" (.text "embedding") (some { contextSize := some 9, runtimeFlags := ["--host", "x"] })
      = .ok ["-q", "-m", "sglang.launch_server", "--model-path", "/w", "--host", "sock",
          "--is-embedding", "--context-length", "8", "--host", "x"] := by
  -- All parts of the layout are there, each with a value of its own.
  obtain ⟨_, _, laidOut, _⟩ := arguments_laid_out ["-q"]
    { name := "m", safetensorsPath := "/w/m.st", runtimeConfig := { contextSize := some 8 } }
    "sock" (.text "embedding") (some { contextSize := some 9, runtimeFlags := ["--host", "x"] })
  exact (laidOut _).mpr ⟨by decide, ["--is-embedding"], ["--context-length", "8"], ["--host", "x"],
    .inr ⟨rfl, rfl⟩, .inr ⟨8, rfl, rfl⟩, .inr ⟨_, rfl, rfl⟩, by decide⟩

end ModelServing.Launch
