import ModelServing.Value
import ModelServing.Yaml.Node
import ModelServing.Yaml.Scalar

/-! The value of a YAML document. -/

namespace ModelServing.Yaml

/-- A value with the faults met while it was built, each with its round. Collections are filled
level by level, so a fault of an earlier round comes before all those of later rounds. -/
structure Built where
  value : Value
  faults : List (Nat × Fault) := []

/-- What fails in a round. -/
def Built.failed (round : Nat) (fault : Fault) : Built := ⟨.null, [(round, fault)]⟩

/-- The outcome of a step that is taken in a round. -/
def Built.ofResult (round : Nat) (result : Except Fault Value) : Built :=
  match result with
  | .ok value => ⟨value, []⟩
  | .error fault => .failed round fault

/-- The fault that is met first. -/
def Built.firstFault? (built : Built) : Option Fault :=
  (built.faults.foldl (fun (best : Option (Nat × Fault)) fault =>
    match best with
    | some earlier => if fault.1 < earlier.1 then some fault else best
    | none => some fault) none).map (·.2)

/-- What a place in a document is built from: the named collections around it, and how many more
references to them are followed. A collection that holds itself is shown to that depth only. -/
structure Surroundings where
  named : List (String × Node) := []
  allowance : Nat := 3

namespace Surroundings

/-- The surroundings inside a collection. -/
def entering (anchor : Option String) (node : Node) (around : Surroundings) : Surroundings :=
  match anchor with
  | some name => { around with named := (name, node) :: around.named }
  | none => around

/-- The collection with no parts, of the same kind and tag. -/
def hollow : Node → Node
  | .sequence tag _ _ => .sequence tag none []
  | .mapping tag _ _ => .mapping tag none []
  | node => node

/-- The collection that a reference to the outside stands for, and where to read it. -/
def followed (name : String) (around : Surroundings) : Node × Surroundings :=
  -- A reference to what is still being built is followed a number of times, and cut off then.
  match around.named.find? fun entry => entry.1 == name with
  | none => (.scalar .null "", around)
  | some (_, node) =>
    match around.allowance with
    | 0 => (hollow node, around)
    | left + 1 => (node, { around with allowance := left })

end Surroundings

namespace Node

/-- What kind of node this is. -/
def kind : Node → String
  | .scalar .. => "scalar"
  | .sequence .. => "sequence"
  | _ => "mapping"

/-- The tag of a node that is not a reference. -/
def tag? : Node → Option Tag
  | .scalar tag _ => some tag
  | .sequence tag _ _ => some tag
  | .mapping tag _ _ => some tag
  | .enclosing _ => none

/-- A key that stands for a mapping's own value is read as text where the mapping is a mapping. -/
def asKey : Node → Node
  | .scalar .default content => .scalar .text content
  | .sequence .default anchor items => .sequence .text anchor items
  | .mapping .default anchor entries => .mapping .text anchor entries
  | node => node

/-- The scalar text of a node: its own, or that of its own value if it is a mapping that has one. -/
def scalarText : (fuel : Nat) → Node → Except Fault String
  -- Values of a mapping are looked up again, since they may be mappings as well.
  | 0, _ => .error (.broken none "nested too deeply")
  | fuel + 1, node =>
    match node with
    | .scalar _ content => .ok content
    | .mapping _ _ entries =>
      match entries.find? fun entry => entry.1.tag? == some .default with
      | some (_, content) => scalarText fuel content
      | none => .error (.broken none "expected a scalar node, but found mapping")
    | node => .error (.broken none ("expected a scalar node, but found " ++ node.kind))

end Node

/-- A fault of merging other mappings into one. -/
def unmergeable (wrong : String) : Fault := .broken (some "while constructing a mapping") wrong

mutual

/-- The entries of a mapping: first those of the mappings that it merges in, then its own. -/
def flatten (around : Surroundings) (entries : List (Node × Node)) :
    (fuel : Nat) → Except Fault (List (Node × Node))
  -- Own entries come last, so that they win over those that are merged in.
  | 0 => .ok []
  | fuel + 1 => do
    let merges := entries.filter fun entry => entry.1.tag? == some .merge
    let own := entries.filter fun entry => entry.1.tag? != some .merge
    let merged ← merges.mapM fun entry => merge around entry.2 fuel
    return merged.flatten ++ own.map fun entry => (entry.1.asKey, entry.2)

/-- The entries that merging a node brings in. -/
def merge (around : Surroundings) (node : Node) : (fuel : Nat) → Except Fault (List (Node × Node))
  -- Of several mappings, the first ones win, so they are merged last.
  | 0 => .ok []
  | fuel + 1 =>
    match node with
    | .mapping _ anchor entries => flatten (around.entering anchor node) entries fuel
    | .sequence _ anchor items => do
      let parts ← items.mapM fun item => mergeItem (around.entering anchor node) item fuel
      return parts.reverse.flatten
    | .enclosing name =>
      let (target, around) := around.followed name
      merge around target fuel
    | .scalar .. => .error (unmergeable
        ("expected a mapping or list of mappings for merging, but found " ++ node.kind))

/-- The entries that one of several merged mappings brings in. -/
def mergeItem (around : Surroundings) (node : Node) :
    (fuel : Nat) → Except Fault (List (Node × Node))
  -- Within a list there may be mappings only.
  | 0 => .ok []
  | fuel + 1 =>
    match node with
    | .mapping _ anchor entries => flatten (around.entering anchor node) entries fuel
    | .enclosing name =>
      let (target, around) := around.followed name
      mergeItem around target fuel
    | node => .error (unmergeable ("expected a mapping for merging, but found " ++ node.kind))

end

/-- Whether a value can be the key of a mapping. -/
def isKey : Value → Bool
  | .list _ | .map _ | .set _ => false
  | _ => true

/-- The value of a collection that is tagged as a scalar. -/
def spelled (tag : Tag) (node : Node) (fuel : Nat) : Except Fault Value :=
  match tag with
  | .merge | .default | .other _ => .error (unknownTag tag)
  | tag => do readScalar tag (← node.scalarText fuel)

mutual

/-- Builds the value of a node that is met in a round. -/
def build (around : Surroundings) (round : Nat) (node : Node) : (fuel : Nat) → Built
  -- The rounds are those in which nested collections are filled, and they tell which fault comes
  -- first.
  | 0 => .failed round (.broken none "nested too deeply")
  | fuel + 1 =>
    match node with
    | .scalar tag content =>
      let later := [Tag.sequence, .mapping, .set, .orderedMap, .pairs].contains tag
      .ofResult (if later then round + 1 else round) (readScalar tag content)
    | .enclosing name =>
      let (target, around) := around.followed name
      build around round target fuel
    | .sequence tag anchor items =>
      let around := around.entering anchor node
      match tag with
      | .sequence =>
        let parts := items.map fun item => build around (round + 1) item fuel
        ⟨.list (parts.map (·.value)), parts.flatMap (·.faults)⟩
      | .orderedMap => buildPairs around "while constructing an ordered map" (round + 1) items fuel
      | .pairs => buildPairs around "while constructing pairs" (round + 1) items fuel
      | .mapping | .set =>
        .failed (round + 1) (.broken none "expected a mapping node, but found sequence")
      | tag => .ofResult round (spelled tag node fuel)
    | .mapping tag anchor entries =>
      let around := around.entering anchor node
      match tag with
      | .mapping =>
        let (entries, faults) := buildEntries around (round + 1) entries fuel
        ⟨.map entries, faults⟩
      | .set =>
        let (entries, faults) := buildEntries around (round + 1) entries fuel
        ⟨.set (entries.map (·.1)), faults⟩
      | .orderedMap => .failed (round + 1) (.broken (some "while constructing an ordered map")
          "expected a sequence, but found mapping")
      | .pairs => .failed (round + 1) (.broken (some "while constructing pairs")
          "expected a sequence, but found mapping")
      | .sequence => .failed (round + 1)
          (.broken none "expected a sequence node, but found mapping")
      | tag => .ofResult round (spelled tag node fuel)
  termination_by structural fuel => fuel

/-- Builds a list of pairs from one-entry mappings. -/
def buildPairs (around : Surroundings) (reading : String) (round : Nat) (items : List Node) :
    (fuel : Nat) → Built
  | 0 => .failed round (.broken none "nested too deeply")
  | fuel + 1 =>
    let parts := items.map fun item => buildPair around reading round item fuel
    ⟨.list (parts.map (·.value)), parts.flatMap (·.faults)⟩
  termination_by structural fuel => fuel

/-- Builds a pair from a one-entry mapping. -/
def buildPair (around : Surroundings) (reading : String) (round : Nat) (item : Node) :
    (fuel : Nat) → Built
  -- Each item has to be a mapping of one entry.
  | 0 => .failed round (.broken none "nested too deeply")
  | fuel + 1 =>
    match item with
    | .mapping _ _ [(key, content)] =>
      let key := build around round key fuel
      let content := build around round content fuel
      ⟨.pair key.value content.value, key.faults ++ content.faults⟩
    | .mapping _ _ entries => .failed round (.broken (some reading)
        ("expected a single mapping item, but found " ++ toString entries.length ++ " items"))
    | item => .failed round (.broken (some reading)
        ("expected a mapping of length 1, but found " ++ item.kind))
  termination_by structural fuel => fuel

/-- Builds the entries of a mapping. The value of a repeated key is the last one. -/
def buildEntries (around : Surroundings) (round : Nat) (entries : List (Node × Node)) :
    (fuel : Nat) → List (Value × Value) × List (Nat × Fault)
  -- A key that cannot be one is noted as a fault, and the building goes on.
  | 0 => ([], [(round, .broken none "nested too deeply")])
  | fuel + 1 =>
    match flatten around entries fuel with
    | .error fault => ([], [(round, fault)])
    | .ok entries =>
      entries.foldl (fun (found, faults) (key, content) =>
        let key := build around round key fuel
        let content := build around round content fuel
        let unfit :=
          if isKey key.value then []
          else [(round, Fault.broken (some "while constructing a mapping") "found unhashable key")]
        (Value.putEntry key.value content.value found,
          faults ++ key.faults ++ unfit ++ content.faults)) ([], [])
  termination_by structural fuel => fuel

end

/-- Whether a character may stand in a document. -/
def isAcceptable (c : Char) : Bool :=
  Text.inRanges [(0x09, 0x0A), (0x0D, 0x0D), (0x20, 0x7E), (0x85, 0x85), (0xA0, 0xD7FF),
    (0xE000, 0xFFFD), (0x10000, 0x10FFFF)] c.toNat

/-- The fault of a character that may not stand in a document. -/
def unacceptable (c : Char) : Fault :=
  let digits := (Nat.toDigits 16 c.toNat)
  .broken none ("unacceptable character #x"
    ++ String.ofList (List.replicate (4 - digits.length) '0' ++ digits)
    ++ ": special characters are not allowed")

/-- The value of the only document of a text. A text without a document has the value null. -/
def load (cs : List Char) : Except Fault Value := do
  -- Characters are checked before anything is read, and faults of values come after those of the
  -- text.
  match cs.find? fun c => !isAcceptable c with
  | some c => throw (unacceptable c)
  | none =>
    match ← rootNode cs with
    | none => return .null
    | some root =>
      let built := build {} 0 root (16 * cs.length + 64)
      match built.firstFault? with
      | some fault => throw fault
      | none => return built.value

end ModelServing.Yaml
