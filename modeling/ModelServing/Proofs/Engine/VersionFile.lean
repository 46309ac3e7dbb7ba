import Mathlib.Data.List.Induction
import ModelServing.Proofs.Engine.Detection
import ModelServing.Proofs.Filesystem.Characters

/-! What a check makes of the version file of a prebuilt installation. -/

namespace ModelServing.Engine

/-- A path that can be looked at holds no null character. -/
theorem hasNull_of_checkPath {host : Host} {path : String} (seen : checkPath host path = .ok ()) :
    Filesystem.hasNull path = false := by
  -- The null character is looked for before the system is asked.
  unfold checkPath at seen
  split at seen
  · cases seen
  · rename_i unheld
    simpa using unheld

/-- The path of the version file holds no null character unless the directory of the installation
does. -/
theorem hasNull_versionPath {engine : Engine} (clean : Filesystem.hasNull engine.directory = false) :
    Filesystem.hasNull engine.versionPath = false := by
  -- Whatever stands in the path comes from the directory, or is a slash, a dot or a letter.
  rw [Filesystem.hasNull_eq_false_iff] at clean ⊢
  intro null
  rcases Path.mem_join null with slash | inDirectory | inName
  · exact absurd slash (by decide)
  · rcases Path.mem_normalize (Path.mem_directory inDirectory) with held | slash | dot
    · exact clean held
    · exact absurd slash (by decide)
    · exact absurd dot (by decide)
  · exact absurd inName (by decide)

/-- A launcher that can be looked at stands in a directory without a null character. -/
theorem hasNull_directory {engine : Engine} (relative : Path.isAbsolute engine.binaryName = false)
    (clean : Filesystem.hasNull engine.binaryPath = false) :
    Filesystem.hasNull engine.directory = false := by
  -- Joining keeps the characters of the directory.
  rw [Filesystem.hasNull_eq_false_iff] at clean ⊢
  exact fun held => clean (Path.mem_join_of_relative relative held)

/-- A version file with a clean path is read as the system reads it, and its bytes are then decoded
with every line end read as a line feed. -/
theorem readText_of_clean {host : Host} {path : String}
    (clean : Filesystem.hasNull path = false) :
    readText host path =
      match host.fs.read path with
      | .error errno => .error (.system ⟨errno, path⟩)
      | .ok content =>
        match Text.Utf8.decode content.all with
        | .ok text => .ok (String.ofList (Text.unifyLineEnds text))
        | .error part => .error (.notUnicode part) := by
  -- The file is read and decoded, in this order.
  simp only [readText, clean, Bool.false_eq_true, if_false]
  cases host.fs.read path with
  | error errno => rfl
  | ok content =>
    simp only [Registry.decode]
    cases Text.Utf8.decode content.all <;> rfl

/-- With a prebuilt binary in sight, a check is settled by the version file alone. -/
theorem install_of_present {engine : Engine} {host : Host} (supported : engine.supported = true)
    (present : checkPath host engine.binaryPath = .ok ()) (ask : Interpreter) :
    engine.install (engine.site ask) host =
      (engine.learn (detectPrebuilt (engine.site ask) host).known,
        detectPrebuilt (engine.site ask) host) := by
  -- The binary is seen, so the check goes no further than to its version.
  simp only [install, detect_of_seen (engine.site ask) host supported present]

/-- With a prebuilt binary in sight, a check finds it exactly if the version file cannot be read or
is UTF-8 text. It then shows the text without the blanks around it, or that the version is unknown
if the file cannot be read. A version file with other bytes makes the check fail, and leaves what
was known before. -/
theorem prebuilt_found_iff {engine : Engine} {host : Host} (supported : engine.supported = true)
    (relative : Path.isAbsolute engine.binaryName = false)
    (present : checkPath host engine.binaryPath = .ok ()) (ask : Interpreter) :
    let (after, checked) := engine.install (engine.site ask) host
    (checked.ending = .found ↔ ∀ content, host.fs.read engine.versionPath = .ok content →
      ∃ text, Text.Utf8.decode content.all = .ok text) ∧
    (checked.ending = .found →
      after.installation.topology? = some .dockerPrebuilt ∧
      after.installation.interpreter? = none ∧
      ∃ version, after.installation.status = "running sglang version: " ++ version ∧
        (∀ errno, host.fs.read engine.versionPath = .error errno → version = "unknown") ∧
        ∀ content text, host.fs.read engine.versionPath = .ok content →
          Text.Utf8.decode content.all = .ok text →
          version = Text.strip (String.ofList (Text.unifyLineEnds text))) ∧
    (checked.ending ≠ .found →
      ∃ part, checked.ending = .failed (.notUnicode part) ∧
        after.installation = engine.installation) := by
  -- The path of the version file is clean, so only its bytes can make reading fail badly.
  have clean : Filesystem.hasNull engine.versionPath = false :=
    hasNull_versionPath (hasNull_directory relative (hasNull_of_checkPath present))
  rw [install_of_present supported present ask]
  simp only [detectPrebuilt, site, readText_of_clean clean]
  cases read : host.fs.read engine.versionPath with
  | error errno =>
    -- A failure of the system is told, and the version is unknown.
    refine ⟨by simp, fun _ => ⟨rfl, rfl, "unknown", rfl, fun _ _ => rfl, ?_⟩, by simp⟩
    intro content text same
    cases same
  | ok content =>
    cases decoded : Text.Utf8.decode content.all with
    | ok text =>
      simp only [decoded]
      refine ⟨by simp [decoded], fun _ => ⟨rfl, rfl, _, rfl, ?_, ?_⟩, by simp⟩
      · intro errno same
        cases same
      · intro other chars same decodes
        cases same
        rw [decoded] at decodes
        cases decodes
        rfl
    | error part =>
      -- What is no text is not told as an unknown version: it ends the check.
      simp only [decoded]
      refine ⟨by simp [decoded], by simp, fun _ => ⟨part, rfl, rfl⟩⟩

/-- A machine with a prebuilt installation, and with an entry where its version file belongs. -/
def prebuiltHost (version : Entry) : Host where
  -- Only what stands in the place of the version file is left open.
  fs :=
    { root := .directory
        [("env", .directory
          [("bin", .directory [("sglang", .file { identity := 0, executable := true })]),
            ("version", version)])] }

/-- The engine of that machine. -/
def prebuiltEngine : Engine := create {} none [] (some "/env/bin/") none true

/-- A directory in the place of the version file makes the version unknown. -/
theorem prebuilt_found_beside_directory :
    let (after, checked) :=
      prebuiltEngine.install (prebuiltEngine.site (runCode none)) (prebuiltHost (.directory []))
    checked.ending = .found ∧ after.installation.topology? = some .dockerPrebuilt ∧
      after.installation.status = "running sglang version: unknown" := by
  -- Reading a directory is refused by the system, which is one of the ways to have no version.
  have present : checkPath (prebuiltHost (.directory [])) prebuiltEngine.binaryPath = .ok () := by
    decide +kernel
  have read : (prebuiltHost (.directory [])).fs.read prebuiltEngine.versionPath
      = .error .isDirectory := by decide +kernel
  obtain ⟨iff, shown, _⟩ := prebuilt_found_iff (by decide) (by decide) present (runCode none)
  have found := iff.mpr (fun content readable => by rw [read] at readable; cases readable)
  obtain ⟨topology, _, version, status, unknown, _⟩ := shown found
  exact ⟨found, topology, by rw [status, unknown _ read]; rfl⟩

/-- A version file whose only byte begins no character makes the check fail, and the engine learns
nothing of the installation that it has seen. -/
theorem prebuilt_missed_by_byte :
    let host := prebuiltHost (.file { identity := 1, content := { bytes := [0xFF] } })
    checkPath host prebuiltEngine.binaryPath = .ok () ∧
      (prebuiltEngine.install (prebuiltEngine.site (runCode none)) host).2.ending
        = .failed (.notUnicode ⟨0, 1, 0xFF, .invalidStart⟩) ∧
      (prebuiltEngine.install (prebuiltEngine.site (runCode none)) host).1.installation
        = .unchecked := by
  -- The bytes are read, and they fail to be a text.
  decide +kernel

end ModelServing.Engine
