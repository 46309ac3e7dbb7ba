import ModelServing.Engine.Machine

/-! Everything that a check on a machine can come to. -/

namespace ModelServing.Engine

section Stages

variable {σ : Type} (site : Site σ) (machine : σ)

/-- On an unsupported platform, a check ends before it asks anything. -/
theorem detect_of_unsupported (unsupported : site.supported = false) :
    detect site machine = { ending := .failed (.backend .unsupportedPlatform), machine } := by
  -- The platform is asked first.
  simp [detect, unsupported]

/-- A binary that is seen settles a check. -/
theorem detect_of_seen (supported : site.supported = true)
    (seen : site.checkBinary machine = .ok ()) :
    detect site machine = detectPrebuilt site machine := by
  -- The binary comes second.
  simp [detect, supported, seen]

/-- A binary that is absent leaves a check to the interpreter. -/
theorem detect_of_absent (supported : site.supported = true) {path : String}
    (absent : site.checkBinary machine = .error (.system ⟨.noEntry, path⟩)) :
    detect site machine = detectHost site machine := by
  -- An absent binary is the one failure that does not end the check.
  simp [detect, supported, absent]

/-- A binary that the system refuses to look at ends a check. -/
theorem detect_of_blocked (supported : site.supported = true) {errno : Errno} {path : String}
    (failed : site.checkBinary machine = .error (.system ⟨errno, path⟩)) (other : errno ≠ .noEntry) :
    detect site machine =
      { ending := .failed (.backend (.probeFailed ⟨errno, path⟩)), machine } := by
  -- Every error number but that of an absent entry is told as it is.
  cases errno with
  | noEntry => exact absurd rfl other
  | _ => simp [detect, supported, failed]

/-- A null character in the path of the binary ends a check as well. -/
theorem detect_of_null (supported : site.supported = true)
    (failed : site.checkBinary machine = .error .nullCharacter) :
    detect site machine = { ending := .failed .nullCharacter, machine } := by
  -- A null character is no failure of the system, so it is passed on.
  simp [detect, supported, failed]

end Stages

/-- Looking at a path tells the failure of the system, unless there is a null character in it. -/
theorem checkPath_of_clean {host : Host} {path : String} (clean : Filesystem.hasNull path = false) :
    checkPath host path =
      match host.fs.status path with
      | .ok _ => .ok ()
      | .error errno => .error (.system ⟨errno, path⟩) := by
  -- Without a null character, the system is asked for the status and nothing else.
  cases looked : host.fs.status path <;> simp [checkPath, clean, looked]

/-- No path with a null character can be looked at. -/
theorem checkPath_of_null {host : Host} {path : String} (null : Filesystem.hasNull path = true) :
    checkPath host path = .error .nullCharacter := by
  -- The null character is looked for first.
  simp [checkPath, null]

/-- A failure of the system to look at a path is the failure to find its status. -/
theorem status_of_checkPath {host : Host} {path : String} {cause : SystemError}
    (failed : checkPath host path = .error (.system cause)) :
    host.fs.status path = .error cause.errno := by
  -- The failure comes out of the one call that was made.
  unfold checkPath at failed
  split at failed
  · cases failed
  · split at failed <;> cases failed
    assumption

/-- How a check of an engine on a machine can end, and what it then knows. -/
inductive Concludes (engine : Engine) (host : Host) : Ending → Option Installation → Prop
  | cancelled : Concludes engine host .cancelled none
  | pending : Concludes engine host .pending none
  | prebuilt (version : Option String) :
    Concludes engine host .found (some (.prebuilt version))
  | host {interpreter : String} (version : Option String)
    (named : which host engine.interpreter = some interpreter) :
    Concludes engine host .found (some (.host interpreter version))
  | interpreterMissing :
    Concludes engine host (.failed (.backend .engineNotFound)) (some .interpreterMissing)
  | packageMissing {interpreter : String} (code : Int)
    (named : which host engine.interpreter = some interpreter) :
    Concludes engine host (.failed (.backend (.packageNotInstalled interpreter code)))
      (some (.packageMissing interpreter))
  | unsupported : Concludes engine host (.failed (.backend .unsupportedPlatform)) none
  | probeFailed (cause : SystemError) :
    Concludes engine host (.failed (.backend (.probeFailed cause))) none
  | nullCharacter : Concludes engine host (.failed .nullCharacter) none
  | notUnicode (part : Text.Utf8.IllFormed) : Concludes engine host (.failed (.notUnicode part)) none

/-- Looking at a path fails only in the system, or for a null character. -/
theorem checkPath_error {host : Host} {path : String} {failure : Failure}
    (failed : checkPath host path = .error failure) :
    failure = .nullCharacter ∨ ∃ cause, failure = .system cause := by
  -- There is no third way to fail: a path without a null character is looked up by the system.
  unfold checkPath at failed
  split at failed
  · cases failed
    exact Or.inl rfl
  · split at failed <;> cases failed
    exact Or.inr ⟨_, rfl⟩

/-- Reading a text fails in the system, for a null character, or for bytes that are not UTF-8. -/
theorem readText_error {host : Host} {path : String} {failure : Failure}
    (failed : readText host path = .error failure) :
    failure = .nullCharacter ∨ (∃ cause, failure = .system cause) ∨
      ∃ part, failure = .notUnicode part := by
  -- Reading has three stages, and each can fail in one way.
  unfold readText at failed
  split at failed
  · cases failed
    exact Or.inl rfl
  · split at failed
    · cases failed
      exact Or.inr (Or.inl ⟨_, rfl⟩)
    · rename_i content _
      -- What remains is the decoding, which has one way to fail.
      unfold Registry.decode at failed
      cases decoded : Text.Utf8.decode content.all with
      | ok text => simp [decoded, Except.map] at failed
      | error part =>
        simp only [decoded, Except.map, Except.error.injEq] at failed
        exact Or.inr (Or.inr ⟨part, failed.symm⟩)

/-- A run of the interpreter that tells nothing was given up, or has not ended. -/
theorem Probe.result_error {probe : Probe} {interpreter : String} {ending : Ending}
    (silent : probe.result interpreter = .error ending) : ending = .cancelled ∨ ending = .pending := by
  -- Every other run has an exit code, if only one that stands for a failed start.
  cases probe with
  | unstarted cause | exited code output => cases silent
  | cancelled =>
    cases silent
    exact .inl rfl
  | pending =>
    cases silent
    exact .inr rfl

/-- A check to which a run of the interpreter tells nothing knows nothing. -/
theorem Concludes.of_silent {engine : Engine} {host : Host} {probe : Probe} {interpreter : String}
    {ending : Ending} (silent : probe.result interpreter = .error ending) :
    Concludes engine host ending none := by
  -- A run that tells nothing was given up or has not ended.
  rcases Probe.result_error silent with rfl | rfl
  · exact .cancelled
  · exact .pending

/-- With a prebuilt binary, a check finds it, or cannot read its version as a text. -/
theorem detectPrebuilt_concludes (engine : Engine) (ask : Interpreter) (host : Host) :
    Concludes engine host (detectPrebuilt (engine.site ask) host).ending
      (detectPrebuilt (engine.site ask) host).known := by
  -- A version that the system cannot read is told as unknown; what cannot be read as text escapes.
  unfold detectPrebuilt
  cases version : (engine.site ask).readVersion host with
  | ok text => exact .prebuilt _
  | error failure =>
    simp only [site] at version
    rcases readText_error version with same | ⟨cause, same⟩ | ⟨part, same⟩ <;> subst same
    · exact .nullCharacter
    · exact .prebuilt _
    · exact .notUnicode part

/-- With an interpreter that has the package, a check finds it, whatever comes of its version. -/
theorem detectVersion_concludes (engine : Engine) (ask : Interpreter) {host : Host}
    {interpreter : String} (named : which host engine.interpreter = some interpreter)
    (logs : List LogRecord) (machine : Host) :
    Concludes engine host (detectVersion (engine.site ask) interpreter logs machine).ending
      (detectVersion (engine.site ask) interpreter logs machine).known := by
  -- The second run decides about the version alone, unless it tells nothing.
  unfold detectVersion
  generalize (engine.site ask).runCode interpreter versionCode machine = ran
  obtain ⟨probe, machine⟩ := ran
  cases told : probe.result interpreter with
  | error ending => simpa only [told] using Concludes.of_silent told
  | ok result =>
    simp only [told]
    exact .host _ named

/-- Without a prebuilt binary, a check comes to what the interpreter shows. -/
theorem detectHost_concludes (engine : Engine) (ask : Interpreter) (host : Host) :
    Concludes engine host (detectHost (engine.site ask) host).ending
      (detectHost (engine.site ask) host).known := by
  -- The stages of a check without a binary are followed, each with its own conclusion.
  unfold detectHost
  cases named : (engine.site ask).findInterpreter host with
  | none => exact .interpreterMissing
  | some interpreter =>
    generalize ran : (engine.site ask).runCode interpreter presenceCode host = result
    obtain ⟨probe, machine⟩ := result
    cases told : probe.result interpreter with
    | error ending =>
      simpa only [ran, told] using (Concludes.of_silent told : Concludes engine host ending none)
    | ok result =>
      obtain ⟨code, output, logs⟩ := result
      -- Only an exit code of zero leads on to the second run.
      by_cases present : code = 0
      · simpa [ran, told, present] using detectVersion_concludes engine ask named logs machine
      · simpa [ran, told, present] using Concludes.packageMissing code named

/-- A check comes to one of the listed conclusions. -/
theorem detect_concludes (engine : Engine) (ask : Interpreter) (host : Host) :
    Concludes engine host (detect (engine.site ask) host).ending
      (detect (engine.site ask) host).known := by
  -- The platform comes first, then whether the binary can be seen.
  unfold detect
  split
  · exact .unsupported
  · split
    · exact detectPrebuilt_concludes engine ask host
    · exact detectHost_concludes engine ask host
    · exact .probeFailed _
    · rename_i failure _ notSystem failed
      simp only [site] at failed
      rcases checkPath_error failed with same | ⟨cause, same⟩
      · subst same
        exact .nullCharacter
      · exact absurd same (notSystem cause)

/-- A check of an engine on a machine comes to one of the listed conclusions, whatever comes of
running the interpreter, and the engine then knows no more than that. -/
theorem installAs_concludes (engine : Engine) (ask : Option Interpreter) (host : Host) :
    ∃ known, (engine.installAs ask host).1 = engine.learn known ∧
      Concludes engine host (engine.installAs ask host).2.ending known := by
  -- A check that is given up before it starts learns nothing, like one given up later.
  cases ask with
  | none => exact ⟨none, rfl, .cancelled⟩
  | some ask => exact ⟨_, rfl, detect_concludes engine ask host⟩

end ModelServing.Engine
