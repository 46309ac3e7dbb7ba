import ModelServing.Engine.Backend
import ModelServing.Proofs.Filesystem.TreeSize

/-! How much space an installation takes. -/

namespace ModelServing.Engine

open Filesystem (Lists Unmeasurable hasNull pathLimit measure_eq_ok_iff measure_eq_error
  exists_measure_eq_error)

variable {fs : Filesystem}

/-- What an installation takes is the size of its directory, whose failures are reported as the
engine's own. -/
theorem diskUsage_of_directory {engine : Engine} (there : fs.isDirectory engine.directory = true) :
    engine.diskUsage fs = (fs.size engine.directory).mapError .diskUsage ∧
      fs.measure engine.directory = (fs.size engine.directory).mapError .system := by
  -- The directory is known to be there, so only the measuring can fail.
  have clean : hasNull engine.directory = false := by
    rw [Filesystem.isDirectory, Bool.and_eq_true] at there
    simpa using there.1
  simp [diskUsage, Filesystem.measure, there, clean]

/-- The size of a tree in which names stand for one entry each is the sum over all entries below its
directory, each counted once, in whatever order they are listed. Links are not passed on the way,
and only the bytes of files count. The size is told exactly if the path leads to a directory and the
system takes the paths of all entries below it; otherwise the failure names what is at fault. An
engine takes as much space as its directory, or none where there is no directory, and reports a
failed system call as an error of its own that carries the call. -/
theorem size_is_sum_of_files (distinct : fs.root.Distinct) (path : String) :
    (∀ total, fs.measure path = .ok total ↔ hasNull path = false ∧
      ∃ names entries listing, fs.find true path = .ok (names, .directory entries) ∧
        Lists (.directory entries) listing ∧
        (∀ found ∈ listing, (Path.along path found.1).utf8ByteSize ≤ pathLimit) ∧
        total = (listing.map fun found => found.2.fileSize).sum) ∧
    ((∃ failure, fs.measure path = .error failure) ↔
      hasNull path = true ∨ ∃ cause, Unmeasurable fs path cause) ∧
    (∀ failure, fs.measure path = .error failure →
      hasNull path = true ∧ failure = .nullCharacter ∨
        ∃ cause, Unmeasurable fs path cause ∧ failure = .system cause) ∧
    ∀ engine : Engine, engine.directory = path →
      (engine.diskUsage fs = .ok 0 ↔ fs.isDirectory path = false ∨ fs.measure path = .ok 0) ∧
      (fs.isDirectory path = true → ∀ total,
        engine.diskUsage fs = .ok total ↔ fs.measure path = .ok total) ∧
      ∀ error, engine.diskUsage fs = .error error ↔ fs.isDirectory path = true ∧
        ∃ cause, fs.measure path = .error (.system cause) ∧ error = .diskUsage cause := by
  -- The walk and the sum over it are settled for any tree; what the engine adds is its own error.
  refine ⟨fun total => measure_eq_ok_iff distinct, ⟨?_, exists_measure_eq_error distinct⟩,
    fun failure => measure_eq_error distinct, ?_⟩
  · rintro ⟨failure, failed⟩
    exact (measure_eq_error distinct failed).imp (·.1) fun ⟨cause, kept, _⟩ => ⟨cause, kept⟩
  · rintro engine rfl
    cases there : fs.isDirectory engine.directory with
    | false => simp [diskUsage, there]
    | true =>
      obtain ⟨used, measured⟩ := diskUsage_of_directory there
      rw [used, measured]
      cases fs.size engine.directory <;> simp [Except.mapError, eq_comm]

/-- A file system with an installation in which a file has two names, and links lead around. -/
def installedHost : Filesystem where
  -- One link leads to the installation, one to itself and one upwards; a file stands under two
  -- names.
  root := .directory [
    ("there", .link "store"),
    ("store", .directory [
      ("a", .file { identity := 1, content := { bytes := [1, 2, 3] } }),
      ("hard", .file { identity := 1, content := { bytes := [1, 2, 3] } }),
      ("loop", .link "loop"),
      ("up", .link ".."),
      ("inner", .directory [
        ("big", .file { identity := 2, content := { zeros := 5 } }),
        ("sock", .socket),
        ("pipe", .pipe)])])]

/-- Behind a link, the file with two names counts twice, and the links do not count. -/
theorem size_of_installation_behind_link :
    installedHost.root.Distinct ∧
      (∃ names entries listing, installedHost.find true "/there" = .ok (names, .directory entries) ∧
        Lists (.directory entries) listing ∧
        11 = (listing.map fun found => found.2.fileSize).sum) ∧
      Engine.diskUsage ⟨"/there", "sglang", "python3", [], none, true, .unchecked⟩ installedHost
        = .ok 11 := by
  -- The tree is small enough to be measured by evaluation, and the statement for all trees gives
  -- the listing.
  have distinct : installedHost.root.Distinct := by
    simp [installedHost, Entry.Distinct, Entry.DistinctIn]
  have measured : installedHost.measure "/there" = .ok 11 := by decide +kernel
  have directory : installedHost.isDirectory "/there" = true := by decide +kernel
  obtain ⟨told, _, _, used⟩ := size_is_sum_of_files distinct "/there"
  obtain ⟨_, names, entries, listing, found, lists, _, sum⟩ := (told 11).mp measured
  exact ⟨distinct, ⟨names, entries, listing, found, lists, sum⟩,
    ((used _ rfl).2.1 directory 11).mpr measured⟩

end ModelServing.Engine
