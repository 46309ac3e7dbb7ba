import ModelServing.Proofs.Engine.ReportedLauncher
import ModelServing.Proofs.Engine.ShownState
import ModelServing.Proofs.Engine.VersionFile

/-! The one decision that a check for an installation follows, and what it runs on the way. -/

namespace ModelServing.Engine

section Notes

variable {σ τ : Type}

/-- A check that ended on a finer machine, seen on a coarser one. -/
def Checked.map (view : σ → τ) (checked : Checked σ) : Checked τ where
  -- Only the machine is seen differently.
  ending := checked.ending
  known := checked.known
  logs := checked.logs
  machine := view checked.machine

/-- Whether a site on a finer machine answers as another one does on a coarser machine. -/
structure Site.Views (fine : Site σ) (coarse : Site τ) (view : σ → τ) : Prop where
  supported : fine.supported = coarse.supported
  binaryPath : fine.binaryPath = coarse.binaryPath
  checkBinary : ∀ machine, fine.checkBinary machine = coarse.checkBinary (view machine)
  readVersion : ∀ machine, fine.readVersion machine = coarse.readVersion (view machine)
  findInterpreter : ∀ machine, fine.findInterpreter machine = coarse.findInterpreter (view machine)
  runCode : ∀ interpreter code machine, coarse.runCode interpreter code (view machine)
    = ((fine.runCode interpreter code machine).1, view (fine.runCode interpreter code machine).2)

section Views

variable {fine : Site σ} {coarse : Site τ} {view : σ → τ} (views : fine.Views coarse view)
  (machine : σ)

include views

/-- The same is made of a prebuilt binary on both. -/
theorem Site.Views.detectPrebuilt :
    (detectPrebuilt fine machine).map view = detectPrebuilt coarse (view machine) := by
  -- The version is read alike, and nothing else is looked at.
  unfold Engine.detectPrebuilt
  rw [views.readVersion, views.binaryPath]
  cases coarse.readVersion (view machine) with
  | ok text => rfl
  | error failure => cases failure <;> rfl

/-- The same is made of what an interpreter is asked for its version. -/
theorem Site.Views.detectVersion (interpreter : String) (logs : List LogRecord) :
    (detectVersion fine interpreter logs machine).map view
      = detectVersion coarse interpreter logs (view machine) := by
  -- The run shows the same, whichever machine it is made on.
  unfold Engine.detectVersion
  rw [views.runCode]
  dsimp only
  cases (fine.runCode interpreter versionCode machine).1.result interpreter <;> rfl

/-- The same is made of the search for an interpreter. -/
theorem Site.Views.detectHost :
    (detectHost fine machine).map view = detectHost coarse (view machine) := by
  -- Interpreters are found alike, and from there on it is runs only.
  unfold Engine.detectHost
  rw [views.findInterpreter]
  cases coarse.findInterpreter (view machine) with
  | none => rfl
  | some interpreter =>
    -- The first run is the same, and what follows depends on what it shows.
    simp only [views.runCode]
    cases (fine.runCode interpreter presenceCode machine).1.result interpreter with
    | error ending => rfl
    | ok result =>
      dsimp only
      split
      · exact views.detectVersion _ interpreter _
      · rfl

/-- A check comes to the same on both. -/
theorem Site.Views.detect : (detect fine machine).map view = detect coarse (view machine) := by
  -- A check branches on what the site answers, and the answers are alike.
  unfold Engine.detect
  rw [views.supported, views.checkBinary]
  split
  · rfl
  · split
    · exact views.detectPrebuilt machine
    · exact views.detectHost machine
    · rfl
    · rfl

end Views

/-- A site that also notes each line of code that is run there, with its interpreter. -/
def Site.noted (site : Site σ) : Site (σ × List (String × String)) where
  -- The notes come in order, since what was run first was asked first.
  supported := site.supported
  binaryPath := site.binaryPath
  checkBinary machine := site.checkBinary machine.1
  readVersion machine := site.readVersion machine.1
  findInterpreter machine := site.findInterpreter machine.1
  runCode interpreter code machine :=
    let (probe, after) := site.runCode interpreter code machine.1
    (probe, after, machine.2 ++ [(interpreter, code)])

/-- The lines of code that a check runs, in their order. -/
def Site.runs (site : Site σ) (machine : σ) : List (String × String) :=
  (detect site.noted (machine, [])).machine.2

/-- Notes change nothing about a check. -/
theorem detect_noted (site : Site σ) (machine : σ) (notes : List (String × String)) :
    (detect site.noted (machine, notes)).map Prod.fst = detect site machine := by
  -- Forgetting the notes is a view of the finer machine.
  have views : site.noted.Views site Prod.fst :=
    ⟨rfl, rfl, fun _ => rfl, fun _ => rfl, fun _ => rfl, fun _ _ _ => rfl⟩
  exact views.detect (machine, notes)

end Notes

/-- An interpreter that shows that it lacks the package: it cannot be started, which counts as an
exit code of -1, or it exits with another code than zero. -/
inductive Refuses : Probe → Int → Prop
  | unstarted (cause : SystemError) : Refuses (.unstarted cause) (-1)
  | exited {code : Int} (output : String) (failed : code ≠ 0) : Refuses (.exited code output) code

/-- No run shows two exit codes. -/
theorem Refuses.unique {probe : Probe} {code other : Int} (refuses : Refuses probe code)
    (others : Refuses probe other) : code = other := by
  -- Each way to refuse carries its own code.
  cases refuses <;> cases others <;> rfl

/-- The version that an interpreter is taken to have told: what it printed, without the blanks
around it, if it was started and exited with code zero. -/
inductive Answers : Probe → String → Prop
  | told (output : String) : Answers (.exited 0 output) (Text.strip output)
  | failed {code : Int} (output : String) (failed : code ≠ 0) :
    Answers (.exited code output) "unknown"
  | unstarted (cause : SystemError) : Answers (.unstarted cause) "unknown"

/-- No run tells two versions. -/
theorem Answers.unique {probe : Probe} {version other : String} (answers : Answers probe version)
    (others : Answers probe other) : version = other := by
  -- There is one way to answer for each probe.
  cases answers <;> cases others <;> simp_all

/-- The version that a version file is taken to hold: its text without the blanks around it, if the
system lets it be read. -/
inductive Holds (host : Host) (path : String) : String → Prop
  | text {content : Content} {text : List Char} (read : host.fs.read path = .ok content)
    (decoded : Text.Utf8.decode content.all = .ok text) :
    Holds host path (Text.strip (String.ofList (Text.unifyLineEnds text)))
  | unread {errno : Errno} (failed : host.fs.read path = .error errno) : Holds host path "unknown"

/-- No version file holds two versions. -/
theorem Holds.unique {host : Host} {path version other : String} (holds : Holds host path version)
    (others : Holds host path other) : version = other := by
  -- Whether the file can be read decides which way it is.
  cases holds <;> cases others <;> simp_all

/-- The decision by which a check ends, with what is shown of the installation then and the lines of
code that were run: by the platform, the status of the prebuilt binary, the interpreter that `find`
finds, and what comes of running code with it. -/
inductive Decides (engine : Engine) (host : Host) (find : Host → Option String)
    (run : Interpreter) :
    Ending → Shown → List (String × String) → Prop
  | unsupported (unsupported : engine.supported = false) :
    Decides engine host find run (.failed (.backend .unsupportedPlatform)) engine.shown []
  | prebuilt {entry : Entry} {version : String} (supported : engine.supported = true)
    (seen : host.fs.status engine.binaryPath = .ok entry)
    (holds : Holds host engine.versionPath version) :
    Decides engine host find run .found
      ⟨"running sglang version: " ++ version, some .dockerPrebuilt, none⟩ []
  | blocked {errno : Errno} (supported : engine.supported = true)
    (failed : host.fs.status engine.binaryPath = .error errno) (other : errno ≠ .noEntry) :
    Decides engine host find run (.failed (.backend (.probeFailed ⟨errno, engine.binaryPath⟩)))
      engine.shown []
  | interpreterMissing (supported : engine.supported = true)
    (absent : host.fs.status engine.binaryPath = .error .noEntry) (missing : find host = none) :
    Decides engine host find run (.failed (.backend .engineNotFound))
      ⟨"SGLang binary not found", some .notFound, none⟩ []
  | packageMissing {interpreter : String} {code : Int} (supported : engine.supported = true)
    (absent : host.fs.status engine.binaryPath = .error .noEntry)
    (named : find host = some interpreter)
    (refuses : Refuses (run interpreter presenceCode host).1 code) :
    Decides engine host find run (.failed (.backend (.packageNotInstalled interpreter code)))
      ⟨"sglang package not installed", some .notFound, some interpreter⟩
      [(interpreter, presenceCode)]
  | host {interpreter output version : String} {after : Host} (supported : engine.supported = true)
    (absent : host.fs.status engine.binaryPath = .error .noEntry)
    (named : find host = some interpreter)
    (present : run interpreter presenceCode host = (.exited 0 output, after))
    (answers : Answers (run interpreter versionCode after).1 version) :
    Decides engine host find run .found
      ⟨"running sglang version: " ++ version, some .hostInterpreter, some interpreter⟩
      [(interpreter, presenceCode), (interpreter, versionCode)]

/-- No machine calls for two decisions. -/
theorem Decides.unique {engine : Engine} {host : Host} {find : Host → Option String}
    {run : Interpreter} {ending other : Ending}
    {shown otherShown : Shown} {runs otherRuns : List (String × String)}
    (decides : Decides engine host find run ending shown runs)
    (others : Decides engine host find run other otherShown otherRuns) :
    ending = other ∧ shown = otherShown ∧ runs = otherRuns := by
  -- Two decisions of different kinds contradict each other at the first stage where they part.
  cases decides with
  | unsupported => cases others <;> simp_all
  | prebuilt _ _ holds =>
    cases others with
    | prebuilt _ _ others => simp [holds.unique others]
    | _ => simp_all
  | blocked => cases others <;> simp_all
  | interpreterMissing => cases others <;> simp_all
  | packageMissing _ _ named refuses =>
    cases others with
    | packageMissing _ _ again others =>
      cases named.symm.trans again
      simp [refuses.unique others]
    | host _ _ again present =>
      -- The first run would have ended well and badly.
      cases named.symm.trans again
      rw [present] at refuses
      cases refuses
      contradiction
    | _ => simp_all
  | host _ _ named present answers =>
    cases others with
    | packageMissing _ _ again refuses =>
      cases named.symm.trans again
      rw [present] at refuses
      cases refuses
      contradiction
    | host _ _ again presents others =>
      cases named.symm.trans again
      cases present.symm.trans presents
      simp [answers.unique others]
    | _ => simp_all

section Decision

/-- An engine's site on a machine where an interpreter is found and run in any way. -/
def siteWith (engine : Engine) (find : Host → Option String) (run : Interpreter) : Site Host :=
  { engine.site run with findInterpreter := find }

variable {engine : Engine} {host : Host} {find : Host → Option String}
  {run : Interpreter}

/-- An interpreter that has the package is shown with what it answers for its version. -/
theorem detectVersion_decides (supported : engine.supported = true)
    (absent : host.fs.status engine.binaryPath = .error .noEntry) {interpreter : String}
    (named : find host = some interpreter) {output : String} {after : Host}
    (present : run interpreter presenceCode host = (.exited 0 output, after))
    (logs : List LogRecord) :
    let checked := detectVersion (engine.siteWith find run).noted interpreter logs
      (after, [(interpreter, presenceCode)])
    checked.ending.isCompleted = true →
      Decides engine host find run checked.ending (engine.learn checked.known).shown
        checked.machine.2 := by
  -- The cases are the ways in which the second run can come out.
  simp only [detectVersion, siteWith, Site.noted, site]
  have shows : ∀ version, Answers (run interpreter versionCode after).1 version →
      Decides engine host find run .found
        ⟨"running sglang version: " ++ version, some .hostInterpreter, some interpreter⟩
        [(interpreter, presenceCode), (interpreter, versionCode)] :=
    fun version answers => .host supported absent named present answers
  -- Each way in which the second run can end tells a version, unless it tells nothing.
  cases answer : (run interpreter versionCode after).1 with
  | cancelled | pending =>
    intro completed
    cases completed
  | unstarted cause => exact fun _ => shows "unknown" (answer ▸ .unstarted cause)
  | exited code output =>
    intro _
    by_cases success : code = 0
    · subst success
      exact shows _ (answer ▸ .told output)
    · simp only [Probe.result, beq_eq_false_iff_ne.mpr success]
      exact shows _ (answer ▸ .failed output success)

/-- A check that sees no binary follows the decision. -/
theorem detectHost_decides (supported : engine.supported = true)
    (absent : host.fs.status engine.binaryPath = .error .noEntry) :
    let checked := detectHost (engine.siteWith find run).noted (host, [])
    checked.ending.isCompleted = true →
      Decides engine host find run checked.ending (engine.learn checked.known).shown
        checked.machine.2 := by
  -- No interpreter, a run without the package, and a run with it are three different decisions.
  have search : (engine.siteWith find run).noted.findInterpreter (host, []) = find host := rfl
  simp only [detectHost, search]
  cases named : find host with
  | none => exact fun _ => .interpreterMissing supported absent named
  | some interpreter =>
    have refused : ∀ code, Refuses (run interpreter presenceCode host).1 code →
        Decides engine host find run (.failed (.backend (.packageNotInstalled interpreter code)))
          ⟨"sglang package not installed", some .notFound, some interpreter⟩
          [(interpreter, presenceCode)] :=
      fun code refuses => .packageMissing supported absent named refuses
    have first : (engine.siteWith find run).noted.runCode interpreter presenceCode (host, [])
        = ((run interpreter presenceCode host).1, (run interpreter presenceCode host).2,
          [(interpreter, presenceCode)]) := rfl
    simp only [first]
    -- Only a first run that ends well leads on to the second one.
    cases probe : (run interpreter presenceCode host).1 with
    | cancelled | pending => nofun
    | unstarted cause => exact fun _ => refused (-1) (probe ▸ .unstarted cause)
    | exited code output =>
      by_cases success : code = 0
      · subst success
        exact detectVersion_decides supported absent named (Prod.ext probe rfl) []
      · simp only [Probe.result, beq_eq_false_iff_ne.mpr success]
        exact fun _ => refused code (probe ▸ .exited output success)

/-- No decision calls for a failure over a null character. -/
theorem not_decides_null {shown : Shown} {runs : List (String × String)} :
    ¬Decides engine host find run (.failed .nullCharacter) shown runs :=
  -- The decision has a row for each failure that is told, and this is none of them.
  nofun

/-- A check that sees the binary follows the decision exactly if there is no null character in the
path of the version file. -/
theorem detectPrebuilt_decides_iff (supported : engine.supported = true) {entry : Entry}
    (seen : host.fs.status engine.binaryPath = .ok entry)
    (legible : ∀ content, host.fs.read engine.versionPath = .ok content →
      ∃ text, Text.Utf8.decode content.all = .ok text) :
    let checked := detectPrebuilt (engine.siteWith find run).noted (host, [])
    Decides engine host find run checked.ending (engine.learn checked.known).shown
        checked.machine.2 ↔
      Filesystem.hasNull engine.versionPath = false := by
  -- The path decides whether the file is read, and what is read decides the version.
  have reads : (engine.siteWith find run).noted.readVersion (host, [])
      = readText host engine.versionPath := by simp only [Site.noted, siteWith, site]
  simp only [detectPrebuilt, reads]
  cases clean : Filesystem.hasNull engine.versionPath with
  | true =>
    -- Reading a path that no system takes is no failure of the system.
    have refused : readText host engine.versionPath = .error .nullCharacter := by
      simp [readText, clean]
    simp only [refused]
    exact iff_of_false not_decides_null (by simp)
  | false =>
    refine iff_of_true ?_ rfl
    rw [readText_of_clean clean]
    cases read : host.fs.read engine.versionPath with
    | error errno => exact .prebuilt supported seen (.unread read)
    | ok content =>
      obtain ⟨text, decoded⟩ := legible content read
      simp only [decoded]
      exact .prebuilt supported seen (.text read decoded)

/-- A check that notes what it runs and is completed follows the decision exactly if there is no
null character in a path that it looks at. -/
theorem detect_decides_iff (legible : ∀ content, host.fs.read engine.versionPath = .ok content →
      ∃ text, Text.Utf8.decode content.all = .ok text) :
    let checked := detect (engine.siteWith find run).noted (host, [])
    checked.ending.isCompleted = true →
      (Decides engine host find run checked.ending (engine.learn checked.known).shown
          checked.machine.2 ↔
        (engine.supported = true → Filesystem.hasNull engine.binaryPath = false ∧
          (host.fs.contains engine.binaryPath = true →
            Filesystem.hasNull engine.versionPath = false))) := by
  -- One stage after the other is settled: the platform, the binary, the interpreter.
  intro checked completed
  have supports : (engine.siteWith find run).noted.supported = engine.supported := rfl
  have looks : (engine.siteWith find run).noted.checkBinary (host, [])
      = checkPath host engine.binaryPath := rfl
  -- The stages come one after the other, and each settles the check or leaves it to the next.
  cases supported : engine.supported with
  | false =>
    have settled : checked = _ := detect_of_unsupported _ _ (supports.trans supported)
    rw [settled]
    exact iff_of_true (.unsupported supported) nofun
  | true =>
    rw [supported] at supports
    cases clean : Filesystem.hasNull engine.binaryPath with
    | true =>
      have settled : checked = _ :=
        detect_of_null _ _ supports (looks.trans (checkPath_of_null clean))
      rw [settled]
      exact iff_of_false not_decides_null (by simp)
    | false =>
      rw [checkPath_of_clean clean] at looks
      cases status : host.fs.status engine.binaryPath with
      | ok entry =>
        rw [status] at looks
        have present : host.fs.contains engine.binaryPath = true := by
          rw [contains_eq_checkPath, checkPath_of_clean clean, status]
          rfl
        have settled : checked = _ := detect_of_seen _ _ supports looks
        rw [settled]
        exact (detectPrebuilt_decides_iff supported status legible).trans (by simp [present])
      | error errno =>
        rw [status] at looks
        have absent : host.fs.contains engine.binaryPath = false := by
          rw [contains_eq_checkPath, checkPath_of_clean clean, status]
          rfl
        refine iff_of_true ?_ (by simp [absent])
        by_cases missing : errno = .noEntry
        · subst missing
          have settled : checked = _ := detect_of_absent _ _ supports looks
          rw [settled] at completed ⊢
          exact detectHost_decides supported status completed
        · have settled : checked = _ := detect_of_blocked _ _ supports looks missing
          rw [settled]
          exact .blocked supported status missing

/-- Unless the platform is supported and the binary absent, it makes no difference to a check how an
interpreter would be found and run. -/
theorem detect_siteWith_of_settled
    (settled : engine.supported = true → host.fs.status engine.binaryPath ≠ .error .noEntry)
    (otherFind : Host → Option String)
    (otherRun : Interpreter) :
    detect (engine.siteWith otherFind otherRun) host = detect (engine.siteWith find run) host := by
  -- The interpreter comes up only behind an absent binary.
  have supports : ∀ find run, (engine.siteWith find run).supported = engine.supported :=
    fun _ _ => rfl
  have looks : ∀ find run,
      (engine.siteWith find run).checkBinary host = checkPath host engine.binaryPath :=
    fun _ _ => rfl
  simp only [detect, supports, looks]
  split
  · rfl
  · rename_i supported
    -- The stage in which the sites differ is not reached.
    split
    · simp only [detectPrebuilt, siteWith, site]
    · rename_i failed
      exact absurd (status_of_checkPath failed) (settled (by simpa using supported))
    · rfl
    · rfl

/-- What a completed check comes to is what the decision calls for and nothing else, in every case
but one: a null character in a path that it looks at. On an unsupported platform it asks the machine
nothing, and unless the binary is absent it neither looks for an interpreter nor runs anything. -/
theorem install_follows_decision (find : Host → Option String)
    (run : Interpreter)
    (legible : ∀ content, host.fs.read engine.versionPath = .ok content →
      ∃ text, Text.Utf8.decode content.all = .ok text) :
    let site := engine.siteWith find run
    let (after, checked) := engine.install site host
    (checked.ending.isCompleted = true →
      ((∀ ending shown runs, Decides engine host find run ending shown runs ↔
          ending = checked.ending ∧ shown = after.shown ∧ runs = site.runs host) ↔
        (engine.supported = true → Filesystem.hasNull engine.binaryPath = false ∧
          (host.fs.contains engine.binaryPath = true →
            Filesystem.hasNull engine.versionPath = false)))) ∧
    (engine.supported = false → ∀ other : Site Host, other.supported = false →
      engine.install other host = (after, checked)) ∧
    ((engine.supported = true → host.fs.status engine.binaryPath ≠ .error .noEntry) →
      ∀ find run, engine.install (engine.siteWith find run) host = (after, checked)) := by
  -- Notes are added to see what is run, and dropped again where nothing depends on them.
  intro site
  dsimp only
  refine ⟨fun completed => ?_, ?_, ?_⟩
  · -- What is noted belongs to the check itself.
    have same := detect_noted site host []
    simp only [install, Site.runs, ← same, Checked.map] at completed ⊢
    have decided := detect_decides_iff legible completed
    constructor
    · intro only
      exact decided.mp ((only _ _ _).mpr ⟨rfl, rfl, rfl⟩)
    · intro clean ending shown runs
      constructor
      · intro other
        exact other.unique (decided.mpr clean)
      · rintro ⟨rfl, rfl, rfl⟩
        exact decided.mpr clean
  · intro unsupported other others
    have supports : site.supported = false := unsupported
    simp only [install, detect_of_unsupported _ _ others, detect_of_unsupported _ _ supports]
  · intro settled otherFind otherRun
    have same : detect (engine.siteWith otherFind otherRun) host = detect site host :=
      detect_siteWith_of_settled settled otherFind otherRun
    simp only [install, same]

end Decision

/-- An interpreter that prints a version when it is run is shown with that version, after two
runs. -/
theorem decision_of_printed_version :
    let find := fun host : Host => which host "/py"
    let host := scriptedHost "echo 2\n"
    (detect (smallEngine.siteWith find (runCode none)) host).ending = .found ∧
      Decides smallEngine host find (runCode none) .found
        ⟨"running sglang version: 2", some .hostInterpreter, some "/py"⟩
        [("/py", presenceCode), ("/py", versionCode)] := by
  -- The script stands for any interpreter that prints something, so the general statement is
  -- applied to it.
  intro find host
  have unread : host.fs.read smallEngine.versionPath = .error .noEntry := by decide +kernel
  obtain ⟨decided, _⟩ := @install_follows_decision smallEngine host find (runCode none)
    (fun content read => by rw [unread] at read; cases read)
  have ending : (detect (smallEngine.siteWith find (runCode none)) host).ending = .found := by
    decide +kernel
  have shows : (smallEngine.learn
      (detect (smallEngine.siteWith find (runCode none)) host).known).shown
      = ⟨"running sglang version: 2", some .hostInterpreter, some "/py"⟩ := by decide +kernel
  have ran : (smallEngine.siteWith find (runCode none)).runs host
      = [("/py", presenceCode), ("/py", versionCode)] := by decide +kernel
  have follows := (decided (by rw [ending]; rfl)).mpr fun _ => ⟨by decide +kernel, by decide +kernel⟩
  exact ⟨ending, (follows _ _ _).mpr ⟨ending.symm, shows.symm, ran.symm⟩⟩

/-- An installation directory with a null character makes looking at the binary fail, and this is
not told as a binary that cannot be checked. -/
theorem decision_missed_by_null :
    let engine := create {} none [] (some "/a\x00b") none true
    let checked := detect (engine.site (runCode none)) default
    (checkPath default engine.binaryPath).isOk = false ∧
      checked.ending = .failed .nullCharacter ∧ checked.known = none := by
  -- The path is refused before the system is asked, which leaves no failure of the system to tell.
  decide +kernel

end ModelServing.Engine
