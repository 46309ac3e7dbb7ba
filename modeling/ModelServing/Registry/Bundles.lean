import ModelServing.Bundle

/-! Bundles under their names, in the order in which the names first came. -/

namespace ModelServing

/-- Registered bundles with their names. Each name stands once, where it came first. -/
abbrev Bundles := List (String × ModelBundle)

namespace Bundles

/-- Registers a bundle under a name: at the name's place if it is there, at the end otherwise. -/
def put (name : String) (bundle : ModelBundle) : Bundles → Bundles
  | [] => [(name, bundle)]
  | (other, old) :: rest =>
    if other == name then (other, bundle) :: rest else (other, old) :: put name bundle rest

/-- The bundle under a name. -/
def get? (bundles : Bundles) (name : String) : Option ModelBundle :=
  (bundles.find? fun entry => entry.1 == name).map (·.2)

/-- The registered names in their order. -/
def names (bundles : Bundles) : List String := bundles.map (·.1)

/-- A registered bundle is found under its name. -/
@[simp] theorem get?_put_same (bundles : Bundles) (name : String) (bundle : ModelBundle) :
    get? (put name bundle bundles) name = some bundle := by
  -- The bundle stands at the name's place or at the end, with no entry of the name before it.
  induction bundles with
  | nil => simp [put, get?]
  | cons entry rest ih =>
    obtain ⟨other, old⟩ := entry
    by_cases same : other = name
    · simp [put, get?, same]
    · simpa [put, get?, same] using ih

/-- Registering a bundle changes nothing under other names. -/
theorem get?_put_of_ne (bundles : Bundles) {name other : String} (bundle : ModelBundle)
    (different : other ≠ name) : get? (put name bundle bundles) other = get? bundles other := by
  -- Only the entry of the name differs, and a search for another name passes over it.
  induction bundles with
  | nil => simp [put, get?, Ne.symm different]
  | cons entry rest ih =>
    obtain ⟨first, old⟩ := entry
    by_cases same : first = name
    · subst same
      simp [put, get?, Ne.symm different]
    · by_cases found : first = other
      · simp [put, get?, found, different]
      · simpa [put, get?, same, found] using ih

/-- Registering a bundle adds its name unless it is there already. -/
theorem names_put (bundles : Bundles) (name : String) (bundle : ModelBundle) :
    names (put name bundle bundles)
      = if name ∈ names bundles then names bundles else names bundles ++ [name] := by
  -- The walk stops at the entry of the name, or passes every entry.
  induction bundles with
  | nil => simp [put, names]
  | cons entry rest ih =>
    obtain ⟨other, old⟩ := entry
    by_cases same : other = name
    · simp [put, names, same]
    · have apart : name ≠ other := fun equal => same equal.symm
      simp only [put, beq_iff_eq, same, if_false]
      simp only [names, List.map_cons, List.mem_cons, apart, false_or] at ih ⊢
      rw [ih]
      split <;> rename_i known <;> simp [known]

end Bundles

end ModelServing
