import ModelServing.Value

/-! What is wrong with a record of fields, and where. -/

namespace ModelServing.Schema

/-- One step into a record: a field, or a place in a list. -/
inductive Step where
  | field (name : String)
  | place (index : Nat)
  deriving DecidableEq, Repr

/-- Why a field is rejected. -/
inductive Fault where
  /-- A required field is absent. -/
  | missing
  /-- The value is no text. -/
  | notText
  /-- The bytes are no text. -/
  | notUnicode
  /-- The value is no integer, and no text or number that could stand for one. -/
  | notInteger
  /-- The text does not spell an integer. -/
  | unreadableInteger
  /-- The number has a fractional part. -/
  | fractional
  /-- The number is infinite or undefined. -/
  | notFinite
  /-- The number has too many digits. -/
  | oversized
  /-- The value is no list. -/
  | notList
  /-- The value is no record of the named kind. -/
  | notRecord (kind : String)
  /-- The named number has to be positive. -/
  | notPositive (name : String)
  /-- The record has no such field. -/
  | unknownField
  deriving DecidableEq, Repr

/-- The short name of a fault. -/
def Fault.code : Fault → String
  | .missing => "missing"
  | .notText => "string_type"
  | .notUnicode => "string_unicode"
  | .notInteger => "int_type"
  | .unreadableInteger => "int_parsing"
  | .fractional => "int_from_float"
  | .notFinite => "finite_number"
  | .oversized => "int_parsing_size"
  | .notList => "list_type"
  | .notRecord _ => "model_type"
  | .notPositive _ => "value_error"
  | .unknownField => "extra_forbidden"

/-- The wording of a fault. -/
def Fault.message : Fault → String
  | .missing => "Field required"
  | .notText => "Input should be a valid string"
  | .notUnicode => "Input should be a valid string, unable to parse raw data as a unicode string"
  | .notInteger => "Input should be a valid integer"
  | .unreadableInteger => "Input should be a valid integer, unable to parse string as an integer"
  | .fractional => "Input should be a valid integer, got a number with a fractional part"
  | .notFinite => "Input should be a finite number"
  | .oversized => "Unable to parse input string as an integer, exceeded maximum size"
  | .notList => "Input should be a valid list"
  | .notRecord kind => "Input should be a valid dictionary or instance of " ++ kind
  | .notPositive name => "Value error, " ++ name ++ " must be positive"
  | .unknownField => "Extra inputs are not permitted"

/-- A value that was given, as it is told about. -/
structure Given where
  shown : String
  typeName : String
  deriving DecidableEq, Repr

/-- What is told about a value. -/
def Given.of (value : Value) : Given where
  shown :=
    if value.isShowable then value.shown else "<unprintable " ++ value.typeName ++ " object>"
  typeName := value.typeName

/-- A fault at a place of a record, with the value that was given there. -/
structure Issue where
  path : List Step
  fault : Fault
  given : Given
  deriving DecidableEq, Repr

/-- An issue as seen from the record around the one it lies in. -/
def Issue.within (step : Step) (issue : Issue) : Issue := { issue with path := step :: issue.path }

/-- A rejected record: its kind, and its issues in field order. -/
structure Rejection where
  kind : String
  issues : List Issue
  deriving DecidableEq, Repr

/-- The characters at the head of a text that take at most a number of bytes. -/
def takeBytes (room : Nat) : List Char → List Char
  | [] => []
  | c :: rest => if c.utf8Size ≤ room then c :: takeBytes (room - c.utf8Size) rest else []

/-- The most bytes of a value that are told. -/
def shownLimit : Nat := 50

/-- What is told of the text of a value: its head and its tail if it is long. -/
def abridged (text : String) : String :=
  -- The text is cut in bytes and not in characters, so both ends are rounded down to whole
  -- characters.
  if text.utf8ByteSize ≤ shownLimit then text
  else
    String.ofList (takeBytes (shownLimit / 2) text.toList) ++ "..."
      ++ String.ofList (takeBytes (shownLimit / 2 - 1) text.toList.reverse).reverse

/-- A step as it is told. -/
def Step.text : Step → String
  | .field name => if name.toList.contains '.' then "\x60" ++ name ++ "\x60" else name
  | .place index => toString index

/-- The lines that tell of an issue, without the one that says where to read more. -/
def Issue.lines (issue : Issue) : List String :=
  (if issue.path.isEmpty then [] else [".".intercalate (issue.path.map Step.text)])
    ++ ["  " ++ issue.fault.message ++ " [type=" ++ issue.fault.code ++ ", input_value="
      ++ abridged issue.given.shown ++ ", input_type=" ++ issue.given.typeName ++ "]"]

/-- The first line of a rejection's text. -/
def Rejection.headline (rejection : Rejection) : String :=
  let count := rejection.issues.length
  toString count ++ " validation error" ++ (if count == 1 then "" else "s")
    ++ " for " ++ rejection.kind

/-- The text of a rejection: what is rejected, and what is wrong with it. -/
def Rejection.text (rejection : Rejection) : String :=
  "\n".intercalate (rejection.headline :: rejection.issues.flatMap Issue.lines)

/-- A value read from a field, or the issues that it has. -/
abbrev Checked (α : Type) := Except (List Issue) α

/-- Two checks side by side: the issues of both are kept. -/
def Checked.both {α β : Type} (first : Checked α) (second : Checked β) : Checked (α × β) :=
  -- Neither check is stopped by the other, so all issues are told at once.
  match first, second with
  | .ok a, .ok b => .ok (a, b)
  | .error issues, .ok _ => .error issues
  | .ok _, .error issues => .error issues
  | .error issues, .error more => .error (issues ++ more)

/-- A check seen from the record around its value. -/
def Checked.within {α : Type} (step : Step) (checked : Checked α) : Checked α :=
  checked.mapError fun issues => issues.map (Issue.within step)

/-- A check that fails at its own place, on a value. -/
def Checked.fail {α : Type} (fault : Fault) (value : Value) : Checked α :=
  .error [⟨[], fault, .of value⟩]

/-- The outcome of a check as an accepted or rejected record of the given kind. -/
def accepted {α : Type} (kind : String) (checked : Checked α) : Except Rejection α :=
  checked.mapError fun issues => ⟨kind, issues⟩

/-- Two checks pass together exactly when each passes. -/
theorem Checked.both_eq_ok_iff {α β : Type} {first : Checked α} {second : Checked β}
    {a : α} {b : β} :
    Checked.both first second = .ok (a, b) ↔ first = .ok a ∧ second = .ok b := by
  -- One case for each way in which the two can come out.
  cases first <;> cases second <;> simp [Checked.both]

/-- A check seen from the record around its value passes with the same value. -/
theorem Checked.within_eq_ok_iff {α : Type} {step : Step} {checked : Checked α} {a : α} :
    checked.within step = .ok a ↔ checked = .ok a := by
  -- Only issues are seen from another place.
  cases checked with
  | error issues => exact ⟨nofun, nofun⟩
  | ok passed => exact Iff.rfl

/-- A check whose result is put into another form passes exactly if the check does. -/
theorem Checked.map_eq_ok_iff {α β : Type} {form : α → β} {checked : Checked α} {b : β} :
    checked.map form = .ok b ↔ ∃ a, checked = .ok a ∧ form a = b := by
  -- The form is only put on what has passed.
  cases checked <;> simp [Except.map]

end ModelServing.Schema
