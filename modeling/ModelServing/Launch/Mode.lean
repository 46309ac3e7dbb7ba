import ModelServing.Error.Failure
import ModelServing.Value

/-! What a server is asked to do with its model. -/

namespace ModelServing

/-- A serving capability. -/
inductive Mode where
  | completion
  | embedding
  | reranking
  deriving DecidableEq, Repr

namespace Mode

/-- All capabilities. -/
def all : List Mode := [.completion, .embedding, .reranking]

/-- The text of a capability. -/
def text : Mode → String
  | .completion => "completion"
  | .embedding => "embedding"
  | .reranking => "reranking"

/-- The name of a capability. -/
def name : Mode → String
  | .completion => "COMPLETION"
  | .embedding => "EMBEDDING"
  | .reranking => "RERANKING"

/-- The capability that a value names. -/
def ofValue? (value : Value) : Option Mode :=
  match value with
  | .text s => all.find? fun mode => mode.text == s
  | _ => none

/-- The capability that a value has to name. -/
def ofValue (value : Value) : Except Failure Mode :=
  match ofValue? value with
  | some mode => .ok mode
  | none => .error (.unknownMode value.shown)

/-- A capability is named by its text. -/
@[simp] theorem ofValue?_text (mode : Mode) : ofValue? (.text mode.text) = some mode := by
  -- The texts of the modes are different.
  cases mode <;> rfl

/-- A value names a capability only by its text. -/
theorem ofValue?_eq_some_iff {value : Value} {mode : Mode} :
    ofValue? value = some mode ↔ value = .text mode.text := by
  -- A search for the text finds the mode that has it.
  constructor
  · intro named
    cases value with
    | text s =>
      have same := List.find?_some named
      rw [beq_iff_eq] at same
      rw [same]
    | _ => cases named
  · rintro rfl
    exact ofValue?_text mode

end Mode

end ModelServing
