import ModelServing.Proofs.Engine.LaunchHistory

/-! What an engine shows of its installation after any history. -/

namespace ModelServing.Engine

/-- What an engine shows of its installation. -/
structure Shown where
  status : String
  topology : Option Topology
  interpreter : Option String
  deriving DecidableEq, Repr

/-- What an engine shows of what is known. -/
def Installation.shown (installation : Installation) : Shown where
  -- Nothing else of what is known can be seen from outside.
  status := installation.status
  topology := installation.topology?
  interpreter := installation.interpreter?

/-- What an engine shows now. -/
def shown (engine : Engine) : Shown := engine.installation.shown

/-- The ways in which the parts of what is shown belong together. -/
inductive Shape where
  | unchecked
  | prebuilt
  | host
  | interpreterMissing
  | packageMissing
  deriving DecidableEq, Repr

/-- What is shown in each of these ways. -/
def Shape.Fits (shown : Shown) : Shape → Prop
  -- A version that is not known is shown by a word, which is why it is not told apart here.
  | .unchecked => shown = ⟨"not installed", none, none⟩
  | .prebuilt =>
    ∃ version, shown = ⟨"running sglang version: " ++ version, some .dockerPrebuilt, none⟩
  | .host =>
    ∃ version interpreter, interpreter ≠ "" ∧
      shown = ⟨"running sglang version: " ++ version, some .hostInterpreter, some interpreter⟩
  | .interpreterMissing => shown = ⟨"SGLang binary not found", some .notFound, none⟩
  | .packageMissing =>
    ∃ interpreter, interpreter ≠ "" ∧
      shown = ⟨"sglang package not installed", some .notFound, some interpreter⟩

/-- The shape of what is shown of an installation. -/
def Installation.shape : Installation → Shape
  -- The versions and the interpreters are what a shape leaves open.
  | .unchecked => .unchecked
  | .prebuilt _ => .prebuilt
  | .host .. => .host
  | .interpreterMissing => .interpreterMissing
  | .packageMissing _ => .packageMissing

/-- What is shown of an installation has its shape, if its interpreter has a path. -/
theorem Installation.fits_shape {installation : Installation}
    (named : ∀ interpreter, installation.interpreter? = some interpreter → interpreter ≠ "") :
    installation.shape.Fits installation.shown := by
  -- One case for each way to know something; the interpreter is what has to be given a path.
  cases installation with
  | unchecked | interpreterMissing => rfl
  | prebuilt version => exact ⟨version.getD "unknown", rfl⟩
  | host interpreter version => exact ⟨version.getD "unknown", interpreter, named _ rfl, rfl⟩
  | packageMissing interpreter => exact ⟨interpreter, named _ rfl, rfl⟩

/-- The topology and the interpreter of each shape. -/
theorem Shape.Fits.parts {shown : Shown} {shape : Shape} (fits : shape.Fits shown) :
    (shown.topology, shown.interpreter.isSome) =
      match shape with
      | .unchecked => (none, false)
      | .prebuilt => (some .dockerPrebuilt, false)
      | .host => (some .hostInterpreter, true)
      | .interpreterMissing => (some .notFound, false)
      | .packageMissing => (some .notFound, true) := by
  -- Each shape fixes its topology, and whether there is an interpreter.
  cases shape with
  | unchecked | interpreterMissing =>
    cases fits
    rfl
  | prebuilt =>
    obtain ⟨_, rfl⟩ := fits
    rfl
  | host =>
    obtain ⟨_, _, _, rfl⟩ := fits
    rfl
  | packageMissing =>
    obtain ⟨_, _, rfl⟩ := fits
    rfl

/-- Nothing has two shapes. -/
theorem Shape.Fits.unique {shown : Shown} {shape other : Shape} (fits : shape.Fits shown)
    (others : other.Fits shown) : shape = other := by
  -- The topology tells them apart, and whether there is an interpreter.
  have same := fits.parts.symm.trans others.parts
  cases shape <;> cases other <;> simp_all

/-- After any acts, what an engine shows has exactly one shape. No act but a check changes it. -/
theorem follow_shown (settings : Settings) (registry : Option Registry) (base : List String)
    (directory interpreter : Option String) (supported : Bool) (host : Host) (acts : List Act) :
    let engine := create settings registry base directory interpreter supported
    let session := (Session.follow { engine, host } acts).1
    (∃! shape : Shape, shape.Fits session.engine.shown) ∧
      ∀ act, (∀ ask, act ≠ .check ask) →
        (session.after act).1.engine.shown = session.engine.shown := by
  -- The shape can be read off what is held, and uniqueness is a matter of shapes alone.
  intro engine session
  constructor
  · -- An interpreter that is held was found somewhere, so that it has a path.
    have fits : session.engine.installation.shape.Fits session.engine.shown :=
      Installation.fits_shape fun interpreter held =>
        ((follow_tracks { engine, host } rfl acts).told interpreter held).1
    exact ⟨_, fits, fun other others => others.unique fits⟩
  · intro act unchecking
    cases act with
    | check ask => exact absurd rfl (unchecking ask)
    | serve | measure | estimate | change => rfl

/-- An engine that has refused its interpreter shows that the package is missing there, and a
request changes nothing about that. -/
theorem shown_after_refusal :
    let session := (Session.follow { engine := smallEngine, host := bareHost }
      [.check (some (runCode none))]).1
    session.engine.shown = ⟨"sglang package not installed", some .notFound, some "/py"⟩ ∧
      (∃! shape : Shape, shape.Fits session.engine.shown) ∧
      (session.after (.serve smallRequest)).1.engine.shown = session.engine.shown := by
  -- The session is computed for what is shown, and the statement for all sessions gives the rest.
  intro session
  obtain ⟨shape, kept⟩ :=
    follow_shown {} (some smallRegistry) [] (some "/engine") (some "/py") true bareHost
      [.check (some (runCode none))]
  exact ⟨by decide +kernel, shape, kept (.serve smallRequest) nofun⟩

end ModelServing.Engine
