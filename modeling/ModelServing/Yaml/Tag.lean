/-! The tags of YAML values. -/

namespace ModelServing.Yaml

/-- The tags with a meaning, and all others. -/
inductive Tag where
  | null
  | truth
  | int
  | float
  | binary
  | time
  | text
  | orderedMap
  | pairs
  | set
  | sequence
  | mapping
  /-- The tag of the key under which other mappings are merged in. -/
  | merge
  /-- The tag of the key that holds a mapping's own value. -/
  | default
  | other (name : String)
  deriving DecidableEq, Repr

/-- What the full names of the known tags begin with. -/
def Tag.root : String := "tag:yaml.org,2002:"

/-- The short names of the known tags. -/
def Tag.known : List (String × Tag) :=
  [("null", .null), ("bool", .truth), ("int", .int), ("float", .float), ("binary", .binary),
    ("timestamp", .time), ("str", .text), ("omap", .orderedMap), ("pairs", .pairs), ("set", .set),
    ("seq", .sequence), ("map", .mapping), ("merge", .merge), ("value", .default)]

/-- The tag of a full name. -/
def Tag.ofName (name : String) : Tag :=
  match Tag.known.find? fun entry => Tag.root ++ entry.1 == name with
  | some entry => entry.2
  | none => .other name

/-- The full name of a tag. -/
def Tag.name : Tag → String
  | .other name => name
  | tag => Tag.root ++ ((Tag.known.find? fun entry => entry.2 == tag).map (·.1)).getD ""

end ModelServing.Yaml
