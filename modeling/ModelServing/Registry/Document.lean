import ModelServing.Bundle
import ModelServing.Error.Failure

/-! The records that a registry document lists. -/

namespace ModelServing.Registry

/-- The name under which a document lists its models. -/
def modelsKey : String := "models"

/-- The characters of a text, each as a text of its own. -/
def letters (s : String) : List Value := s.toList.map fun c => .text (String.ofList [c])

/-- The items of the value under which the models are listed. -/
def items (value : Value) : Except Failure (List Value) :=
  -- A mapping is gone through by its keys, and a text by its characters.
  match value with
  | .list items => .ok items
  | .pair first second => .ok [first, second]
  | .map entries => .ok (entries.map (·.1))
  | .set items => .ok items
  | .text s => .ok (letters s)
  | .bytes content => .ok (content.map fun byte => .int byte.toNat)
  | _ => .error .wrongShape

/-- Whether one text stands inside another. -/
def occursIn (part : List Char) : List Char → Bool
  | [] => part.isEmpty
  | c :: rest => part.isPrefixOf (c :: rest) || occursIn part rest

/-- Why a document that consists of values lists no models. -/
def unlistedAmong (values : List Value) : Failure :=
  if values.any fun value => value.sameKey (.text modelsKey) then .wrongShape else .modelsAbsent

/-- The value under which a document lists its models. A document that is no mapping has none: if
it names the models in some other way, it has the wrong shape. -/
def modelsValue (document : Value) : Except Failure Value :=
  -- An empty document names no models, whatever its kind.
  if !document.isTruthy then .error .modelsAbsent
  else
    match document with
    | .map entries =>
      match Value.lookup? modelsKey entries with
      | some value => .ok value
      | none => .error .modelsAbsent
    | .list values | .set values => .error (unlistedAmong values)
    | .pair first second => .error (unlistedAmong [first, second])
    | .text s => .error (if occursIn modelsKey.toList s.toList then .wrongShape else .modelsAbsent)
    | _ => .error .wrongShape

/-- The records that a document lists, in their order. -/
def records (document : Value) : Except Failure (List Value) := do
  items (← modelsValue document)

/-- The name of a text key. -/
def keyName? (key : Value) : Option String :=
  match key with
  | .text name => some name
  | _ => none

/-- The field that an entry of a record is. -/
def recordField (entry : Value × Value) : Except Failure (String × Value) :=
  match keyName? entry.1 with
  | some name => .ok (name, entry.2)
  | none => .error .wrongShape

/-- The fields of a record, which has to be a mapping with text keys. -/
def recordFields (record : Value) : Except Failure Schema.Fields :=
  match record with
  | .map entries => entries.mapM recordField
  | _ => .error .wrongShape

/-- The bundle that a record describes. -/
def readRecord (record : Value) : Except Failure ModelBundle := do
  match ModelBundle.ofFields (← recordFields record) with
  | .ok bundle => return bundle
  | .error rejection => throw (.rejected rejection)

end ModelServing.Registry
