import ModelServing.Number.Numeral
import ModelServing.Schema.Issue
import ModelServing.Text.Utf8
import ModelServing.Value

/-! Field types: which document values a text, integer or list field takes. -/

namespace ModelServing.Schema

/-- A record as it is given: field names with their values. -/
abbrev Fields := List (String × Value)

/-- The value given for a field. -/
def given? (name : String) (fields : Fields) : Option Value :=
  (fields.find? fun field => field.1 == name).map (·.2)

/-- A text field takes text, and bytes that are text. -/
def textField (value : Value) : Checked String :=
  -- Bytes are read as text, where they are one.
  match value with
  | .text s => .ok s
  | .bytes content =>
    match Text.Utf8.decode content with
    | .ok cs => .ok (String.ofList cs)
    | .error _ => .fail .notUnicode value
  | _ => .fail .notText value

/-- The integer that a spelled number stands for. -/
def spelledInteger (s : String) : Except Fault Int :=
  -- The text may be no number, or one with too many digits.
  match Number.Numeral.readField s with
  | .ok n => .ok n
  | .error .malformed => .error .unreadableInteger
  | .error .tooLong => .error .oversized

/-- The bound that whole floating-point numbers stay below on both sides to be read as integers. -/
def wordBound : Int := 9223372036854775808

/-- The integer that a floating-point number stands for: it has no fraction and lies strictly
within 64 bits. -/
def wholeNumber (x : Number.Binary64) : Except Fault Int :=
  -- The bounds are those of a signed word, and both are excluded.
  if !x.isFinite then .error .notFinite
  else
    match x.toInt? with
    | none => .error .fractional
    | some n => if -wordBound < n && n < wordBound then .ok n else .error .oversized

/-- The integer that a value stands for: integers, truth values, whole numbers and spelled integers
do. -/
def integerOf (value : Value) : Except Fault Int :=
  -- Bytes are read as text, and text as a number.
  match value with
  | .int n => .ok n
  | .bool b => .ok (if b then 1 else 0)
  | .float x => wholeNumber x
  | .text s => spelledInteger s
  | .bytes content =>
    match Text.Utf8.decode content with
    | .ok cs => spelledInteger (String.ofList cs)
    | .error _ => .error .unreadableInteger
  | _ => .error .notInteger

/-- An integer field takes what stands for an integer. -/
def integerField (value : Value) : Checked Int :=
  match integerOf value with
  | .ok n => .ok n
  | .error fault => .fail fault value

/-- A field that may also be null. -/
def optional {α : Type} (field : Value → Checked α) (value : Value) : Checked (Option α) :=
  match value with
  | .null => .ok none
  | value => (field value).map some

/-- The items of a list from a place on, each checked; all their issues are kept. -/
def itemsFrom {α : Type} (item : Value → Checked α) (index : Nat) : List Value → Checked (List α)
  | [] => .ok []
  | value :: rest =>
    (Checked.both ((item value).within (.place index)) (itemsFrom item (index + 1) rest)).map
      fun (head, tail) => head :: tail

/-- A list field, each item of which is checked. -/
def listField {α : Type} (item : Value → Checked α) (value : Value) : Checked (List α) :=
  match value with
  | .list items => itemsFrom item 0 items
  | _ => .fail .notList value

/-- The record itself, as a value. -/
def asRecord (fields : Fields) : Value := .map (fields.map fun (name, value) => (.text name, value))

/-- Reads a field that has to be given. -/
def required {α : Type} (field : Value → Checked α) (name : String) (fields : Fields) : Checked α :=
  (match given? name fields with
    | some value => field value
    | none => .fail .missing (asRecord fields) : Checked α).within (.field name)

/-- Reads a field that has a default. -/
def defaulted {α : Type} (field : Value → Checked α) (name : String) (otherwise : α)
    (fields : Fields) : Checked α :=
  (match given? name fields with
    | some value => field value
    | none => .ok otherwise : Checked α).within (.field name)

/-- A field with a default holds the default if nothing was given, or what was given if that passes
its check. -/
theorem defaulted_eq_ok_iff {α : Type} {field : Value → Checked α} {name : String} {otherwise a : α}
    {fields : Fields} :
    defaulted field name otherwise fields = .ok a ↔
      (given? name fields = none ∧ a = otherwise) ∨
        ∃ value, given? name fields = some value ∧ field value = .ok a := by
  -- What is given decides, and a check that passes keeps its value.
  rw [defaulted, Checked.within_eq_ok_iff]
  cases given? name fields <;> simp [eq_comm]

end ModelServing.Schema
