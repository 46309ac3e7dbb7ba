import ModelServing.Proofs.Engine.ShownState

/-! When a check leaves nothing of what was known before it. -/

namespace ModelServing.Engine

/-- Whether a site lets a check come to a conclusion: there is no launcher at all, or there is one
with a version that is read as a text or that the system refuses to read. -/
def Conclusive {σ : Type} (site : Site σ) (machine : σ) : Prop :=
  -- These are the answers of a site that end a check with something learned, whatever a run shows.
  (∃ path, site.checkBinary machine = .error (.system ⟨.noEntry, path⟩)) ∨
    (site.checkBinary machine = .ok () ∧
      ∀ failure, site.readVersion machine = .error failure → ∃ cause, failure = .system cause)

variable {σ : Type}

/-- A check that sees a launcher learns what is installed unless the version is no text. -/
theorem isSome_detectPrebuilt_known_iff (site : Site σ) (machine : σ) :
    (detectPrebuilt site machine).known.isSome = true ↔
      ∀ failure, site.readVersion machine = .error failure → ∃ cause, failure = .system cause := by
  -- A version that is no text is the only thing that leaves such a check without a conclusion.
  unfold detectPrebuilt
  cases read : site.readVersion machine with
  | ok text => simp
  | error failure => cases failure <;> simp

/-- A check to which a run of the interpreter tells nothing is not completed. -/
theorem isCompleted_of_silent {probe : Probe} {interpreter : String} {ending : Ending}
    (silent : probe.result interpreter = .error ending) : ending.isCompleted = false := by
  -- Neither being given up nor not having ended counts as completed.
  rcases Probe.result_error silent with rfl | rfl <;> rfl

/-- A check that asks an interpreter for the version learns something if it is completed. -/
theorem detectVersion_learns (site : Site σ) (interpreter : String) (logs : List LogRecord)
    (machine : σ) (completed : (detectVersion site interpreter logs machine).ending.isCompleted = true) :
    (detectVersion site interpreter logs machine).known.isSome = true := by
  -- Whatever comes of the version, the interpreter has been found.
  unfold detectVersion at completed ⊢
  generalize site.runCode interpreter versionCode machine = ran at completed ⊢
  obtain ⟨probe, after⟩ := ran
  cases told : probe.result interpreter with
  | error ending => simp [told, isCompleted_of_silent told] at completed
  | ok result => simp [told]

/-- A check that looks for an interpreter learns something if it is completed. -/
theorem detectHost_learns (site : Site σ) (machine : σ)
    (completed : (detectHost site machine).ending.isCompleted = true) :
    (detectHost site machine).known.isSome = true := by
  -- The runs may tell nothing, and then the check is not completed.
  unfold detectHost at completed ⊢
  cases named : site.findInterpreter machine with
  | none => rfl
  | some interpreter =>
    simp only [named] at completed ⊢
    generalize ran : site.runCode interpreter presenceCode machine = result at completed ⊢
    obtain ⟨probe, after⟩ := result
    cases told : probe.result interpreter with
    | error ending => simp [ran, told, isCompleted_of_silent told] at completed
    | ok result =>
      obtain ⟨code, output, logs⟩ := result
      -- Without the package the check is over, and with it the version is asked for.
      by_cases present : code = 0
      · simp only [ran, told, present, beq_self_eq_true, if_true] at completed ⊢
        exact detectVersion_learns site interpreter logs after completed
      · simp [ran, told, present]

/-- A completed check on a supported platform learns something exactly if its site lets it. -/
theorem isSome_detect_known_iff {site : Site σ} {machine : σ} (supported : site.supported = true)
    (completed : (detect site machine).ending.isCompleted = true) :
    (detect site machine).known.isSome = true ↔ Conclusive site machine := by
  -- What comes of looking at the launcher decides which part of the condition can hold.
  unfold Conclusive
  unfold detect at completed ⊢
  simp only [supported, Bool.not_true, Bool.false_eq_true, if_false] at completed ⊢
  split
  · rename_i present
    simp [isSome_detectPrebuilt_known_iff, present]
  · rename_i path absent
    have learned := detectHost_learns site machine (by simpa [absent] using completed)
    simp [learned, absent]
  · rename_i cause other unseen
    have found : ∀ path, cause ≠ ⟨.noEntry, path⟩ := other
    simp [unseen, found]
  · rename_i failure _ unsystematic unseen
    have other : ∀ cause, failure ≠ .system cause := unsystematic
    simp [unseen, other]

/-- What an engine shows after a completed check on a supported platform, whatever the interpreter
does, is the same for two pasts of the engine exactly if the machine lets the check come to a
conclusion, or if the two showed the same before. How the check ends is the same in any case. -/
theorem shown_after_check_iff (settings : Settings) (registry : Option Registry)
    (base : List String) (directory interpreter : Option String) (first second : Host)
    (firstActs secondActs : List Act) (run : Interpreter) (host : Host) :
    let engine := create settings registry base directory interpreter true
    let site := engine.site run
    let one := (Session.follow { engine, host := first } firstActs).1.engine
    let other := (Session.follow { engine, host := second } secondActs).1.engine
    one.site run = site ∧ other.site run = site ∧
    (one.install site host).2 = (other.install site host).2 ∧
    ((one.install site host).2.ending.isCompleted = true →
      ((one.install site host).1.shown = (other.install site host).1.shown ↔
        Conclusive site host ∨ one.shown = other.shown)) := by
  -- The two engines differ only in what is known of their installation.
  intro engine site one other
  obtain ⟨known, same⟩ := follow_engine { engine, host := first } firstActs
  obtain ⟨others, alike⟩ := follow_engine { engine, host := second } secondActs
  refine ⟨?_, ?_, rfl, fun completed => ?_⟩
  · simp only [one, same]
    rfl
  · simp only [other, alike]
    rfl
  · -- What is learned takes the place of what was known; if nothing is learned, that stays.
    have learns := @isSome_detect_known_iff Host site host rfl completed
    simp only [install, learn, shown]
    cases learned : (detect site host).known with
    | some conclusion =>
      rw [learned] at learns
      simp [learns.mp rfl]
    | none =>
      have inconclusive : ¬Conclusive site host := fun lets => by
        simpa [learned] using learns.mpr lets
      simp [inconclusive]

/-- A machine with a launcher where the small engine looks for one, and no version file. -/
def launcherHost : Host where
  fs := { root := .directory [("engine", .directory [("sglang", .file { identity := 0 })])] }

/-- A machine with a file in the place of the directory that the launcher should be in. -/
def blockedHost : Host where
  fs := { root := .directory [("engine", .file { identity := 0 })] }

/-- An interpreter that has the package in the version that it prints. -/
def answering : Interpreter := fun _ _ host => (.exited 0 "2\n", host)

/-- An engine that has known of a prebuilt installation shows the interpreter that it finds now, as
one that has known of nothing. -/
theorem shown_after_check_of_interpreter :
    let site := smallEngine.site answering
    let other := (Session.follow { engine := smallEngine, host := launcherHost }
      [.check (some answering)]).1.engine
    smallEngine.shown ≠ other.shown ∧
      (other.install site bareHost).1.shown
        = ⟨"running sglang version: 2", some .hostInterpreter, some "/py"⟩ := by
  -- Both engines make the same check, which finds an absent binary and so reaches a conclusion.
  intro site other
  have shows : (smallEngine.install site bareHost).1.shown
      = ⟨"running sglang version: 2", some .hostInterpreter, some "/py"⟩ := by decide +kernel
  have absent : site.checkBinary bareHost = .error (.system ⟨.noEntry, smallEngine.binaryPath⟩) := by
    decide +kernel
  obtain ⟨_, _, _, same⟩ := shown_after_check_iff {} (some smallRegistry) [] (some "/engine")
    (some "/py") bareHost launcherHost [] [.check (some answering)] answering bareHost
  have agree := (same (by decide +kernel)).mpr (.inl (.inl ⟨_, absent⟩))
  exact ⟨by decide +kernel, agree.symm.trans shows⟩

/-- A check that cannot look at the launcher leaves an engine with the launcher that it has known
of, and another one, with the same end, with nothing. -/
theorem shown_kept_by_blocked_check :
    let earlier :=
      (Session.follow { engine := smallEngine, host := launcherHost }
        [.check (some answering)]).1.engine
    let (fresh, checked) := smallEngine.installOn none blockedHost
    let (later, again) := earlier.installOn none blockedHost
    checked.ending = .failed (.backend (.probeFailed ⟨.notDirectory, "/engine/sglang"⟩)) ∧
    again.ending = .failed (.backend (.probeFailed ⟨.notDirectory, "/engine/sglang"⟩)) ∧
    fresh.shown = ⟨"not installed", none, none⟩ ∧
    later.shown = ⟨"running sglang version: unknown", some .dockerPrebuilt, none⟩ := by
  -- The failure is the same for both, and what was known before stays where it was.
  decide +kernel

end ModelServing.Engine
