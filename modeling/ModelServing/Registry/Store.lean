import ModelServing.Filesystem.Lookup
import ModelServing.Registry.Bundles
import ModelServing.Registry.Document
import ModelServing.Text.Lines
import ModelServing.Yaml.Document

/-! A registry of model bundles, kept in a YAML file. -/

namespace ModelServing

/-- A registry: the path of its file, and the bundles that it holds. -/
structure Registry where
  path : String
  bundles : Bundles := []
  deriving Repr

namespace Registry

/-- A bundle with its weights taken relative to a directory. An empty path stays empty, and an
absolute one stays as it is. -/
def locate (directory : String) (bundle : ModelBundle) : ModelBundle :=
  if bundle.safetensorsPath.isEmpty || Path.isAbsolute bundle.safetensorsPath then bundle
  else { bundle with safetensorsPath := Path.below directory bundle.safetensorsPath }

/-- The bundle of a record, with its weights relative to the registry's directory. -/
def readBundle (path : String) (record : Value) : Except Failure ModelBundle :=
  (readRecord record).map (locate (Path.parent path))

/-- Registers the bundles of records in order, up to the first record that has none. -/
def addRecords (registry : Registry) : List Value → Registry × Except Failure Unit
  -- What was registered before a faulty record stays.
  | [] => (registry, .ok ())
  | record :: rest =>
    match readBundle registry.path record with
    | .error failure => (registry, .error failure)
    | .ok bundle =>
      addRecords { registry with bundles := registry.bundles.put bundle.name bundle } rest

/-- The content of a registry's file. -/
def readFile (fs : Filesystem) (path : String) : Except Failure Content :=
  -- Three errors of the system mean that the file is not there, and any other one is told as it is.
  if Filesystem.hasNull path then .error (.registryAbsent path)
  else
    match fs.read path with
    | .ok content => .ok content
    | .error .noEntry | .error .notDirectory | .error .tooManyLinks => .error (.registryAbsent path)
    | .error errno => .error (.system ⟨errno, path⟩)

/-- The text of a file's bytes, every line end read as a line feed. -/
def decode (content : Content) : Except Failure (List Char) :=
  match Text.Utf8.decode content.all with
  | .ok text => .ok (Text.unifyLineEnds text)
  | .error part => .error (.notUnicode part)

/-- The document in a registry's file. -/
def readDocument (fs : Filesystem) (path : String) : Except Failure Value := do
  -- Reading, decoding and parsing are three steps, each with its own failures.
  let text ← decode (← readFile fs path)
  match Yaml.load text with
  | .ok document => return document
  | .error fault => throw (.document fault)

/-- Registers what a document lists. -/
def addDocument (registry : Registry) (document : Value) : Registry × Except Failure Unit :=
  match records document with
  | .ok records => registry.addRecords records
  | .error failure => (registry, .error failure)

/-- Registers what the registry's file lists. -/
def fill (registry : Registry) (fs : Filesystem) : Registry × Except Failure Unit :=
  match readDocument fs registry.path with
  | .ok document => registry.addDocument document
  | .error failure => (registry, .error failure)

/-- Reads a registry from a file. -/
def load (fs : Filesystem) (path : String) : Except Failure Registry :=
  match fill { path := Path.plain path } fs with
  | (registry, .ok ()) => .ok registry
  | (_, .error failure) => .error failure

/-- Reads the registry's file again. All bundles are dropped first, so those of the records before
a faulty one remain when it fails. -/
def reload (registry : Registry) (fs : Filesystem) : Registry × Except Failure Unit :=
  fill { registry with bundles := [] } fs

/-- The bundle under a name. -/
def get? (registry : Registry) (name : String) : Option ModelBundle := registry.bundles.get? name

/-- The registered names in their order. -/
def names (registry : Registry) : List String := registry.bundles.names

/-- The bundles in the order of their names. -/
def list (registry : Registry) : List ModelBundle := registry.bundles.map (·.2)

/-- The bundle that has to be registered under a name. -/
def require (registry : Registry) (name : String) : Except BackendError ModelBundle :=
  match registry.get? name with
  | some bundle => .ok bundle
  | none => .error (.modelNotFound name registry.names)

end Registry

end ModelServing
