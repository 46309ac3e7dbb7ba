import ModelServing.Engine.Backend
import ModelServing.Proofs.Launch.CommandLine

/-! When a request is given a server, and which one. -/

namespace ModelServing.Engine

/-- A result stays what it is when errors are told in another way. -/
theorem mapError_ok {ε failure α : Type} (tell : ε → failure) (result : α) :
    (Except.ok result).mapError tell = .ok result :=
  -- Only errors are told in another way.
  rfl

/-- An error is told in another way. -/
theorem mapError_error {ε failure α : Type} (tell : ε → failure) (error : ε) :
    (Except.error error : Except ε α).mapError tell = .error (tell error) :=
  -- This is the other of the two results.
  rfl

/-- A request that an engine with a registry can take on: its model is known, the bundle of the
model has weights, and the mode is one of those that the engine supports. -/
structure Servable (registry : Registry) (request : ServeRequest) (bundle : ModelBundle) : Prop where
  known : registry.require request.model = .ok bundle
  weighted : bundle.safetensorsPath ≠ ""
  supported : request.mode = .text Mode.completion.text ∨ request.mode = .text Mode.embedding.text

/-- The arguments of such a request can be built. -/
theorem Servable.exists_arguments {registry : Registry} {request : ServeRequest}
    {bundle : ModelBundle} (servable : Servable registry request bundle) (base : List String) :
    ∃ arguments, Launch.arguments base bundle request.socket request.mode request.config
      = .ok arguments := by
  -- There are weights, so that only the mode could still fail.
  obtain ⟨selected, chosen⟩ : ∃ selected, Launch.modeArguments request.mode = .ok selected := by
    rcases servable.supported with completion | embedding
    · exact ⟨[], Launch.modeArguments_eq_ok_iff.mpr (.inl ⟨completion, rfl⟩)⟩
    · exact ⟨["--is-embedding"], Launch.modeArguments_eq_ok_iff.mpr (.inr ⟨embedding, rfl⟩)⟩
  exact ⟨_, Launch.arguments_eq_ok_iff.mpr ⟨servable.weighted, selected, chosen, rfl⟩⟩

/-- A request for a known model with arguments is given a server exactly when something can
serve. -/
theorem serverFor_of_arguments {engine : Engine} {fs : Filesystem} {request : ServeRequest}
    {registry : Registry} {bundle : ModelBundle} {arguments : List String}
    (supported : engine.supported = true) (registered : engine.registry = some registry)
    (known : registry.require request.model = .ok bundle)
    (built : Launch.arguments engine.base bundle request.socket request.mode request.config
      = .ok arguments) :
    engine.serverFor fs request =
      match engine.launcher? fs with
      | some launcher => .ok (requested request arguments launcher)
      | none => .error (.backend .engineNotFound) := by
  -- Every check before the search for a launcher passes.
  simp only [serverFor, supported, registered, known, built, mapError_ok, Bind.bind,
    Except.bind, Pure.pure, Except.pure, Bool.not_true, Bool.false_eq_true, if_false]
  cases engine.launcher? fs <;> rfl

/-- A request whose model is unknown, or whose arguments cannot be built, is refused for that. -/
theorem serverFor_of_refusal {engine : Engine} {fs : Filesystem} {request : ServeRequest}
    {registry : Registry} {error : BackendError} (supported : engine.supported = true)
    (registered : engine.registry = some registry)
    (refused : (do
      let bundle ← registry.require request.model
      Launch.arguments engine.base bundle request.socket request.mode request.config)
        = .error error) :
    engine.serverFor fs request = .error (.backend error) := by
  -- The model is looked up first, and its arguments are built then.
  cases known : registry.require request.model with
  | error unknown =>
    simp only [known, Bind.bind, Except.bind, Except.error.injEq] at refused
    simp only [serverFor, supported, registered, known, refused, mapError_error, Bind.bind,
      Except.bind, Bool.not_true, Bool.false_eq_true, if_false]
  | ok bundle =>
    simp only [known, Bind.bind, Except.bind] at refused
    simp only [serverFor, supported, registered, known, refused, mapError_ok, mapError_error,
      Bind.bind, Except.bind, Bool.not_true, Bool.false_eq_true, if_false]

/-- A server is given exactly when the platform is supported, the model is known, its arguments can
be built, and something can serve. -/
theorem serverFor_eq_ok_iff {engine : Engine} {fs : Filesystem} {request : ServeRequest}
    {server : Run.Server} :
    engine.serverFor fs request = .ok server ↔
      engine.supported = true ∧ ∃ registry bundle arguments launcher,
        engine.registry = some registry ∧ registry.require request.model = .ok bundle ∧
        Launch.arguments engine.base bundle request.socket request.mode request.config
          = .ok arguments ∧
        engine.launcher? fs = some launcher ∧ server = requested request arguments launcher := by
  -- The request passes its checks one by one, and each leaves what the next one needs.
  constructor
  · intro given
    -- A request that fails one of the checks is given no server.
    cases supported : engine.supported with
    | false => simp [serverFor, supported, throw, throwThe, MonadExceptOf.throw, Bind.bind,
        Except.bind] at given
    | true =>
      cases registered : engine.registry with
      | none => simp [serverFor, supported, registered, throw, throwThe, MonadExceptOf.throw]
          at given
      | some registry =>
        cases known : registry.require request.model with
        | error error => simp [serverFor, supported, registered, known, mapError_error,
            Bind.bind, Except.bind] at given
        | ok bundle =>
          cases built : Launch.arguments engine.base bundle request.socket request.mode
              request.config with
          | error error => simp [serverFor, supported, registered, known, built,
              mapError_ok, mapError_error, Bind.bind, Except.bind] at given
          | ok arguments =>
            rw [serverFor_of_arguments supported registered known built] at given
            cases found : engine.launcher? fs with
            | none => simp [found] at given
            | some launcher =>
              rw [found] at given
              exact ⟨rfl, registry, bundle, arguments, launcher, rfl, known, built, rfl,
                (Except.ok.inj given).symm⟩
  · rintro ⟨supported, registry, bundle, arguments, launcher, registered, known, built, found, same⟩
    rw [serverFor_of_arguments supported registered known built, found, same]

end ModelServing.Engine
