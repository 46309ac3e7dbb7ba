import ModelServing.Proofs.Registry.Records

/-! What a registry holds after its file was read again. -/

namespace ModelServing.Registry

/-- A registry that fails to read its file again holds what the file lists before the fault, and
nothing that it held before. Nothing is listed before a fault of the file, of its text or of its
shape; a faulty record comes after those before it. Every name stands for the last of the bundles
with that name, and the names come in the order in which each came first. -/
theorem reload_failed {registry left : Registry} {fs : Filesystem} {failure : Failure}
    (failed : registry.reload fs = (left, .error failure)) :
    left.path = registry.path ∧ ∃ taken, Reads fs registry.path (.error failure) taken ∧
      left.names = (taken.map (·.name)).eraseDups ∧
      (∀ name, left.get? name = taken.reverse.find? fun bundle => bundle.name == name) ∧
      left.list.map some = left.names.map left.get? := by
  -- Reading again is reading into a registry that holds nothing.
  obtain ⟨outcome, taken, reads, filled⟩ := fill_reads { registry with bundles := [] } fs
  rw [reload, filled] at failed
  cases failed
  refine ⟨rfl, taken, reads, Bundles.names_putAll taken, Bundles.get?_putAll taken, ?_⟩
  rw [list, List.map_map]
  exact (Bundles.map_get?_names (Bundles.nodup_names_putAll taken)).symm

/-- A file system with nothing but one file in its root. -/
def oneFile (name text : String) : Filesystem where
  root := .directory [(name, .file { identity := 0, content := { bytes := text.toUTF8.toList } })]

/-- A registry file with one good record. -/
def soundFile : Filesystem := oneFile "m.yaml" "models:\n- name: a\n"

/-- A registry file whose second record has no name. -/
def faultyFile : Filesystem := oneFile "m.yaml" "models:\n- name: b\n- names: c\n"

/-- The bundle of a record before a faulty one takes the place of the one that was held. -/
theorem reload_failed_at_second :
    let registry : Registry := { path := "/m.yaml", bundles := [("a", { name := "a" })] }
    ∃ failure taken, (registry.reload faultyFile).2 = .error failure ∧
      Reads faultyFile "/m.yaml" (.error failure) taken ∧
      (registry.reload faultyFile).1.names = ["b"] ∧ (taken.map (·.name)).eraseDups = ["b"] := by
  -- The failure is whatever the second record is rejected with.
  intro registry
  have names : (registry.reload faultyFile).1.names = ["b"] := by decide +kernel
  have refused : (registry.reload faultyFile).2.isOk = false := by decide +kernel
  cases told : (registry.reload faultyFile).2 with
  | ok done => simp [told, Except.isOk, Except.toBool] at refused
  | error failure =>
    obtain ⟨_, taken, reads, listed, _⟩ :=
      @reload_failed registry (registry.reload faultyFile).1 faultyFile failure (Prod.ext rfl told)
    exact ⟨failure, taken, rfl, reads, names, listed.symm.trans names⟩

/-- A registry that was loaded from a sound file does not stay as it was when it fails to read a
faulty one. -/
theorem reload_drops_all :
    (load soundFile "/m.yaml").map (fun registry =>
      (registry.names, (registry.reload faultyFile).2.isOk, (registry.reload faultyFile).1.names))
      = .ok (["a"], false, ["b"]) := by
  -- What was registered is dropped before the file is read, and the file is faulty behind its first
  -- record.
  decide +kernel

end ModelServing.Registry
