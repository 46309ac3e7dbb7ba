import ModelServing.Proofs.Command.ServedArguments
import ModelServing.Proofs.Console.Verbatim
import ModelServing.Proofs.Engine.Detection

/-! Which errors of the backend are told in full. -/

namespace ModelServing

namespace Command

open ModelServing.Console

/-- How an error of the backend reaches a command, and what the command has printed until then. -/
inductive Meets (deployment : Deployment) : Invocation → BackendError → String → Prop where
  /-- The arguments that were to be shown cannot be built. -/
  | unbuilt {options : LaunchOptions} {registry : Registry} {error : BackendError}
    (loaded : Registry.load deployment.host.fs (deployment.registryPath options.registryPath)
      = .ok registry)
    (failed : options.arguments registry = .error error) :
    Meets deployment (.showArguments options) error ""
  /-- A check for an installation fails, and the status is printed. -/
  | probed {directory : Option String} {engine : Engine} {checked : Engine.Checked Host}
    {error : BackendError}
    (installed : deployment.install none directory = (engine, checked))
    (failed : checked.ending = .failed (.backend error)) :
    Meets deployment (.probe directory) error ("Status: " ++ engine.installation.status ++ "\n")
  /-- The check before a server is run fails. -/
  | uninstalled {options : LaunchOptions} {reference directory : Option String}
    {registry : Registry} {engine : Engine} {checked : Engine.Checked Host} {error : BackendError}
    (level : (({} : RootLogger).configure (.text deployment.settings.logLevel)).2 = .ok ())
    (loaded : Registry.load deployment.host.fs (deployment.registryPath options.registryPath)
      = .ok registry)
    (installed : deployment.install (some registry) directory = (engine, checked))
    (failed : checked.ending = .failed (.backend error)) :
    Meets deployment (.serve options reference directory) error ""
  /-- The request for a server is refused. -/
  | refused {options : LaunchOptions} {reference directory : Option String} {registry : Registry}
    {engine : Engine} {checked : Engine.Checked Host} {status : String} {error : BackendError}
    (prepared : Prepares deployment options directory registry engine checked status)
    (failed : engine.serverFor checked.machine.fs (options.request reference)
      = .error (.backend error)) :
    Meets deployment (.serve options reference directory) error status
  /-- A server could not be started, or has ended on its own. -/
  | ended {options : LaunchOptions} {reference directory : Option String} {registry : Registry}
    {engine : Engine} {checked : Engine.Checked Host} {status : String} {error : BackendError}
    {server : Run.Server}
    (prepared : Prepares deployment options directory registry engine checked status)
    (given : engine.serverFor checked.machine.fs (options.request reference) = .ok server)
    (failed : (deployment.run checked.machine server).outcome.bind server.failure?
      = some (.backend error)) :
    Meets deployment (.serve options reference directory) error status
  /-- The size of the installation cannot be measured. -/
  | unmeasured {directory : Option String} {error : BackendError}
    (failed : (deployment.engine none directory).diskUsage deployment.host.fs = .error error) :
    Meets deployment (.diskUsage directory) error ""

/-- What is to be told of an error: its code and its message, and on a line of its own the hint that
it has. -/
def account (error : BackendError) : String :=
  -- The hint comes without a mark of its own, since only its style tells it from the message.
  let headline := "Error (" ++ error.kind.code ++ "): " ++ error.message
  match error.hint? with
  | some hint => headline ++ "\n" ++ hint
  | none => headline

/-- Whether an error is told in full, if its message and its hint are read as markup. -/
structure Tellable (error : BackendError) : Prop where
  message : Literal error.message.toList
  hint : ∀ hint, error.hint? = some hint → Literal hint.toList ∧ ¬EndsEscaping hint.toList

section Told

/-- The word before the message of an error is a heading. -/
theorem isHeading_code (kind : ErrorKind) : IsHeading ("Error (" ++ kind.code ++ "):").toList := by
  -- The codes are finitely many words, so each condition is decided for every one of them.
  have colonless : ':' ∉ ("Error (" ++ kind.code ++ ")").toList := by cases kind <;> decide
  have parts : ("Error (" ++ kind.code ++ "):").toList
      = ("Error (" ++ kind.code ++ ")").toList ++ [':'] := by
    simp
  -- No name stands between colons, since the only colon is the last character.
  refine ⟨by simp, List.all_eq_true.mp ?_, ?_, printable_of_all ?_⟩
  · cases kind <;> decide
  · rw [parts]
    exact expandShortcodes_of_last_colon colonless
  · cases kind <;> decide

/-- The first line about an error begins with a heading in red. -/
theorem heading_eq (error : BackendError) :
    Outcome.heading error = String.ofList
      (redHeading ("Error (" ++ error.kind.code ++ "):").toList (' ' :: error.message.toList)) := by
  -- Both sides are one text: the tags around the word are what the markup for a red heading is.
  rw [← String.toList_inj, String.toList_ofList]
  simp [Outcome.heading, redHeading, red]

/-- The line about a hint is dim. -/
theorem hint_eq (hint : String) :
    "[dim]" ++ hint ++ "[/dim]" = String.ofList (dimmed hint.toList) := by
  -- Both sides are one text, compared character by character.
  rw [← String.toList_inj, String.toList_ofList]
  simp [dimmed, dim]

/-- What is told of an error before its hint is its heading and its message. -/
theorem headline_eq (error : BackendError) :
    "Error (" ++ error.kind.code ++ "): " ++ error.message = String.ofList
      (("Error (" ++ error.kind.code ++ "):").toList ++ ' ' :: error.message.toList) := by
  -- Both sides are one text, compared character by character.
  rw [← String.toList_inj, String.toList_ofList]
  simp

/-- An error that is told without a hint is told in full exactly if its message is literal. -/
theorem ofError_told_of_none {error : BackendError} (none : error.hint? = none) :
    let outcome := Outcome.ofError error
    (outcome.ending = .exited 1 ∧ Shows lineWidth outcome.stdout (account error)) ↔
      Tellable error := by
  -- Without a hint there is a single line to print, whose display decides everything.
  intro outcome
  have shape : outcome
      = Outcome.afterPrinting {} (Outcome.heading error) { ending := .exited 1 } := by
    unfold outcome Outcome.ofError
    rw [none]
    rfl
  have told : account error = "Error (" ++ error.kind.code ++ "): " ++ error.message := by
    unfold account
    rw [none]
  have both := @display_redHeading_iff _ (' ' :: error.message.toList) (isHeading_code error.kind)
  rw [← heading_eq, ← headline_eq, ← told, literal_cons_blank_iff] at both
  constructor
  · -- The command exits only if the heading has been printed.
    rintro ⟨exits, shows⟩
    rw [shape] at exits
    obtain ⟨printed, displayed, _⟩ := Outcome.exists_of_afterPrinting exits
    rw [shape, Outcome.afterPrinting_of_ok displayed] at shows
    exact ⟨both.mp ⟨printed, displayed, by simpa using shows⟩, by simp [none]⟩
  · rintro ⟨message, _⟩
    obtain ⟨printed, displayed, shows⟩ := both.mpr message
    rw [shape, Outcome.afterPrinting_of_ok displayed]
    exact ⟨rfl, by simpa using shows⟩

/-- An error that is told with a hint is told in full exactly if its message and its hint are
literal and the hint does not end with a backslash. -/
theorem ofError_told_of_some {error : BackendError} {hint : String}
    (hinted : error.hint? = some hint) (some : hint ≠ "") :
    let outcome := Outcome.ofError error
    (outcome.ending = .exited 1 ∧ Shows lineWidth outcome.stdout (account error)) ↔
      Tellable error := by
  -- The heading and the hint are printed one after the other, and either of the two can fail.
  intro outcome
  let last := Outcome.afterPrinting {} ("[dim]" ++ hint ++ "[/dim]") { ending := .exited 1 }
  have shape : outcome = Outcome.afterPrinting {} (Outcome.heading error) last := by
    -- Only an empty hint would be left out.
    have kept : (Option.some hint).filter (fun hint => !hint.isEmpty) = Option.some hint := by
      simp [some]
    unfold outcome Outcome.ofError
    rw [hinted, kept]
  have told : account error
      = "Error (" ++ error.kind.code ++ "): " ++ error.message ++ "\n" ++ hint := by
    unfold account
    rw [hinted]
  have both := @display_both_iff _ (' ' :: error.message.toList) hint.toList
    (isHeading_code error.kind)
  rw [← heading_eq, ← headline_eq, ← hint_eq, String.ofList_toList, ← told,
    literal_cons_blank_iff] at both
  constructor
  · -- The command exits only if both lines have been printed.
    rintro ⟨exits, shows⟩
    rw [shape] at exits
    obtain ⟨printed, displayed, exits⟩ := Outcome.exists_of_afterPrinting exits
    obtain ⟨later, behind, _⟩ := Outcome.exists_of_afterPrinting exits
    rw [shape, Outcome.afterPrinting_of_ok displayed] at shows
    unfold last at shows
    rw [Outcome.afterPrinting_of_ok behind] at shows
    obtain ⟨message, literal⟩ := both.mp ⟨printed, later, displayed, behind, by simpa using shows⟩
    refine ⟨message, fun other same => ?_⟩
    rw [hinted, Option.some.injEq] at same
    exact same ▸ literal
  · rintro ⟨message, literal⟩
    obtain ⟨printed, later, displayed, behind, shows⟩ := both.mpr ⟨message, literal hint hinted⟩
    rw [shape, Outcome.afterPrinting_of_ok displayed]
    unfold last
    rw [Outcome.afterPrinting_of_ok behind]
    exact ⟨rfl, by simpa using shows⟩

/-- Hints are not empty. -/
theorem hint_ne_empty {error : BackendError} {hint : String} (hinted : error.hint? = some hint) :
    hint ≠ "" := by
  -- One error has a hint only, and that hint begins with words of its own.
  cases error with
  | modelNotFound name registered =>
    rw [← Option.some.inj hinted]
    intro empty
    have characters := congrArg String.toList empty
    simp at characters
  | _ => cases hinted

/-- Where an error is told, it is told in full exactly if its message and its hint allow it. -/
theorem ofError_told_iff (error : BackendError) :
    let outcome := Outcome.ofError error
    (outcome.ending = .exited 1 ∧ Shows lineWidth outcome.stdout (account error)) ↔
      Tellable error := by
  -- The lines that are printed depend on whether there is a hint, and on nothing else.
  cases hinted : error.hint? with
  | none => exact ofError_told_of_none hinted
  | some hint => exact ofError_told_of_some hinted (hint_ne_empty hinted)

end Told

section Commands

/-- What a check that fails has told of the installation can be shown as it is. -/
theorem display_status {deployment : Deployment} {directory : Option String} {engine : Engine}
    {checked : Engine.Checked Host} {error : BackendError}
    (installed : deployment.install none directory = (engine, checked))
    (failed : checked.ending = .failed (.backend error)) :
    display {} ("Status: " ++ engine.installation.status)
      = .ok ("Status: " ++ engine.installation.status ++ "\n") := by
  -- There are three things that can be known after a failed check, each with a fixed status.
  have fixed : ∀ status ∈ ["not installed", "SGLang binary not found",
      "sglang package not installed"],
      display {} ("Status: " ++ status) = .ok ("Status: " ++ status ++ "\n") := by
    have proper : ∀ status ∈ ["not installed", "SGLang binary not found",
        "sglang package not installed"],
        let text := "Status: " ++ status
        '[' ∉ text.toList ∧ expandShortcodes text.toList = text.toList ∧
          text.toList.all (fun c => c != '\t' && !isControl c) = true ∧ '\n' ∉ text.toList ∧
          2 * text.toList.length ≤ lineWidth := by decide +kernel
    intro status member
    obtain ⟨unopened, unnamed, printable, single, short⟩ := proper status member
    exact display_short unopened unnamed (printable_of_all printable) single short
  obtain ⟨known, learned, concludes⟩ :=
    Engine.installAs_concludes (deployment.engine none directory) (some deployment.interpreter)
      deployment.host
  rw [show Engine.installAs _ _ _ = _ from installed] at learned concludes
  rw [failed] at concludes
  rw [show engine = _ from learned]
  cases concludes with
  | interpreterMissing => exact fixed "SGLang binary not found" (by decide)
  | packageMissing => exact fixed "sglang package not installed" (by decide)
  | unsupported | probeFailed => exact fixed "not installed" (by decide)

/-- What a command leaves behind that meets an error is what tells the error, after what it has
printed until then. -/
theorem perform_of_meets {deployment : Deployment} {invocation : Invocation}
    {error : BackendError} {before : String} (meets : Meets deployment invocation error before) :
    let told := Outcome.ofError error
    (invocation.perform deployment).ending = told.ending ∧
      (invocation.perform deployment).stdout = before ++ told.stdout := by
  -- An error leaves a command by one of six ways, one case for each.
  intro told
  -- Wherever the error comes from, the command hands it on, after its logs and its status.
  cases meets with
  | @unbuilt options registry _ loaded failed =>
    have shown : showArguments deployment options = told := by
      rw [showArguments, Deployment.withRegistry_of_ok loaded, showArgumentsFrom, failed]
    simp [Invocation.perform, shown]
  | probed installed failed =>
    have status := display_status installed failed
    simp only [Invocation.perform, probe, installed, failed, Outcome.afterLogs,
      Outcome.afterPrinting_of_ok status, told, and_self]
  | uninstalled level loaded installed failed =>
    simp [Invocation.perform, serve, level, Deployment.withRegistry_of_ok loaded, serveFrom,
      installed, failed, Outcome.afterLogs, Outcome.ofFailure, told]
  | @refused options reference _ _ engine checked _ _ prepared failed =>
    have launched : launch deployment engine checked.machine (options.request reference)
        = Outcome.afterLogs engine.refusalLogs told := by
      unfold launch
      rw [failed]
      rfl
    simp [Invocation.perform, prepared.serve_eq, launched, Outcome.afterLogs]
  | @ended options reference _ _ engine checked _ _ server prepared given failed =>
    have launched : launch deployment engine checked.machine (options.request reference)
        = Outcome.afterLogs (deployment.run checked.machine server).logs told := by
      unfold launch
      rw [given]
      dsimp only [runServer]
      rw [failed]
      rfl
    simp [Invocation.perform, prepared.serve_eq, launched, Outcome.afterLogs]
  | unmeasured failed =>
    simp [Invocation.perform, diskUsage, failed, told]

/-- An error of the backend that reaches a command makes the command exit with code 1 and shows its
code, its message and its hint character for character, exactly if these texts are literal. -/
theorem error_told_iff {deployment : Deployment} {invocation : Invocation} {error : BackendError}
    {before : String} (meets : Meets deployment invocation error before) :
    let outcome := invocation.perform deployment
    (outcome.ending = .exited 1 ∧ ∃ printed, outcome.stdout = before ++ printed ∧
      Shows lineWidth printed (account error)) ↔ Tellable error := by
  -- The error is told in one place, and what precedes it has been printed already.
  intro outcome
  obtain ⟨ending, stdout⟩ := perform_of_meets meets
  refine Iff.trans ?_ (ofError_told_iff error)
  constructor
  · rintro ⟨exits, printed, same, shows⟩
    rw [show outcome.stdout = _ from stdout, String.append_right_inj] at same
    exact ⟨ending ▸ exits, same ▸ shows⟩
  · rintro ⟨exits, shows⟩
    exact ⟨ending.trans exits, _, stdout, shows⟩

/-- An unknown model of a machine is an error that reaches the command to show arguments. -/
theorem meets_of_told {model : String} {error : BackendError}
    (told : ((Registry.load installedMachine.host.fs "/m.yaml").map
      fun registry => (aboutModel model).arguments registry) = .ok (.error error)) :
    Meets installedMachine (.showArguments (aboutModel model)) error "" := by
  -- The registry of that machine can be loaded, so the request only fails for its model.
  cases loaded : Registry.load installedMachine.host.fs "/m.yaml" with
  | error failure =>
    rw [loaded] at told
    cases told
  | ok registry =>
    rw [loaded] at told
    exact .unbuilt loaded (Except.ok.inj told)

/-- A model with a plain name that is not registered is told about. -/
theorem error_told_of_unknown_model :
    let invocation := Invocation.showArguments (aboutModel "n")
    let error := BackendError.modelNotFound "n" ["m"]
    Meets installedMachine invocation error "" ∧
      (invocation.perform installedMachine).ending = .exited 1 ∧
      ∃ printed, (invocation.perform installedMachine).stdout = "" ++ printed ∧
        Shows lineWidth printed (account error) := by
  -- The message consists of plain characters, so it is literal.
  intro invocation error
  have meets : Meets installedMachine invocation error "" := meets_of_told (by decide +kernel)
  have tellable : Tellable error := by
    constructor
    · exact literal_of_unopened (by decide) (by decide +kernel) (printable_of_all (by decide))
    · intro hint hinted
      cases hinted
      exact ⟨literal_of_unopened (by decide +kernel) (by decide +kernel)
        (printable_of_all (by decide +kernel)), by decide +kernel⟩
  exact ⟨meets, (error_told_iff meets).mpr tellable⟩

/-- A model whose name is a closing tag ends the command, although an error of the backend has
reached it. -/
theorem error_lost_to_closing_tag :
    let invocation := Invocation.showArguments (aboutModel "[/x]")
    Meets installedMachine invocation (.modelNotFound "[/x]" ["m"]) "" ∧
      (invocation.perform installedMachine).ending = .crashed (.markup .unmatchedTag) := by
  -- The message quotes the name, so the markup of the line ends with a tag that was never opened.
  intro invocation
  exact ⟨meets_of_told (by decide +kernel), by decide +kernel⟩

end Commands

end Command

end ModelServing
