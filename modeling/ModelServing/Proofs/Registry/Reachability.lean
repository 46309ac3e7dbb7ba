import ModelServing.Proofs.Registry.Records

/-! What holds of every bundle that a registry can come to hold. -/

namespace ModelServing

namespace Bundles

/-- What is registered after a bundle was put was registered before, or is that bundle. -/
theorem mem_put {bundles : Bundles} {name : String} {bundle : ModelBundle}
    {entry : String × ModelBundle} (member : entry ∈ put name bundle bundles) :
    entry ∈ bundles ∨ entry.2 = bundle := by
  -- The bundle takes the place of an entry, or stands at the end.
  induction bundles with
  | nil => exact .inr (by simp_all [put])
  | cons first rest ih =>
    obtain ⟨other, old⟩ := first
    simp only [put] at member
    split at member
    · rcases List.mem_cons.mp member with same | later
      · exact .inr (by rw [same])
      · exact .inl (List.mem_cons_of_mem _ later)
    · rcases List.mem_cons.mp member with same | later
      · exact .inl (by simp [same])
      · rcases ih later with before | new
        · exact .inl (List.mem_cons_of_mem _ before)
        · exact .inr new

/-- What is registered after several bundles were put where nothing was before is one of them. -/
theorem mem_putAll {more : List ModelBundle} {entry : String × ModelBundle}
    (member : entry ∈ putAll [] more) : entry.2 ∈ more := by
  -- Induction from the end, since the last bundle may replace another one.
  induction more using List.reverseRecOn with
  | nil => cases member
  | append_singleton more bundle ih =>
    rw [putAll_append_singleton] at member
    rcases mem_put member with before | same
    · exact List.mem_append_left _ (ih before)
    · exact List.mem_append_right _ (by simp [same])

end Bundles

namespace Registry

/-- The registries that there can be: those loaded from a file, and what is left of them when the
file at their path is read again, whatever it then holds and whether or not that fails. -/
inductive Reachable : Registry → Prop
  | loaded {fs : Filesystem} {path : String} {registry : Registry}
    (loaded : load fs path = .ok registry) : Reachable registry
  | reloaded {registry : Registry} (before : Reachable registry) (fs : Filesystem) :
    Reachable (registry.reload fs).1

variable {kept : ModelBundle → Prop}

/-- Bundles that records describe have what every described bundle has. -/
theorem Describes.forall_mem {path : String} {records : List Value} {taken : List ModelBundle}
    (each : ∀ record bundle, readBundle path record = .ok bundle → kept bundle)
    (describes : Describes path records taken) : ∀ bundle ∈ taken, kept bundle := by
  -- Induction on the records that are described.
  induction describes with
  | nil => exact List.forall_mem_nil kept
  | @cons record bundle _ _ built _ ih =>
    exact List.forall_mem_cons.mpr ⟨each record bundle built, ih⟩

/-- The bundles that reading a file comes to have what every described bundle has, however the
reading ends. -/
theorem Reads.forall_mem {fs : Filesystem} {path : String} {outcome : Except Failure Unit}
    {taken : List ModelBundle}
    (each : ∀ record bundle, readBundle path record = .ok bundle → kept bundle)
    (reads : Reads fs path outcome taken) : ∀ bundle ∈ taken, kept bundle := by
  -- However the reading ends, what it has come to was described by records.
  cases reads with
  | unread _ => exact List.forall_mem_nil kept
  | unlisted _ _ => exact List.forall_mem_nil kept
  | stopped _ _ describes _ => exact describes.forall_mem each
  | complete _ _ describes => exact describes.forall_mem each

/-- Every bundle of a registry has what every described bundle has. -/
theorem Reachable.forall_mem {registry : Registry}
    (each : ∀ path record bundle, readBundle path record = .ok bundle → kept bundle)
    (reached : Reachable registry) : ∀ bundle ∈ registry.list, kept bundle := by
  -- Loading and reading again both start from nothing, so that what was held before does not count.
  intro bundle member
  obtain ⟨entry, stored, rfl⟩ := List.mem_map.mp member
  cases reached with
  | loaded loaded =>
    obtain ⟨taken, reads, rfl⟩ := load_reads loaded
    exact reads.forall_mem (each _) _ (Bundles.mem_putAll stored)
  | @reloaded registry _ fs =>
    obtain ⟨outcome, taken, reads, filled⟩ := fill_reads { registry with bundles := [] } fs
    rw [reload, filled] at stored
    exact reads.forall_mem (each _) _ (Bundles.mem_putAll stored)

end Registry

end ModelServing
