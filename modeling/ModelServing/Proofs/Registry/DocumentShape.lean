import ModelServing.Proofs.Registry.Records

/-! Which documents a registry cannot be read from because of the kinds of their values. -/

namespace ModelServing.Registry

/-- A record has a bundle wherever its weights are. -/
theorem readBundle_eq_error_iff {path : String} {record : Value} {failure : Failure} :
    readBundle path record = .error failure ↔ readRecord record = .error failure := by
  -- Locating does not fail.
  unfold readBundle
  cases readRecord record <;> simp [Except.map]

theorem exists_readBundle_iff {path : String} {record : Value} :
    (∃ bundle, readBundle path record = .ok bundle) ↔ ∃ bundle, readRecord record = .ok bundle := by
  -- Locating does not fail.
  unfold readBundle
  cases readRecord record <;> simp [Except.map]

/-- Every one of the records that describe bundles does. -/
theorem Describes.exists_of_mem {path : String} {records : List Value} {taken : List ModelBundle}
    (describes : Describes path records taken) {record : Value} (member : record ∈ records) :
    ∃ bundle, readBundle path record = .ok bundle := by
  -- Induction on the records that are described.
  induction describes with
  | nil => contradiction
  | @cons first bundle _ _ built _ ih =>
    rcases List.mem_cons.mp member with same | later
    · exact ⟨bundle, same ▸ built⟩
    · exact ih later

end ModelServing.Registry
