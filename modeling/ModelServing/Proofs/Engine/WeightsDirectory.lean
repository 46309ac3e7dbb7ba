import ModelServing.Proofs.Engine.Request
import ModelServing.Proofs.Filesystem.Names
import ModelServing.Proofs.Launch.CommandLine
import ModelServing.Proofs.Registry.Records

/-! Whether a server looks for its weights in the directory that holds them. -/

namespace ModelServing

namespace Path

/-- The names from the root to what a path leads to, seen from a directory. Double dots count as
names, links are not looked at, and an empty path stays in the directory. -/
def reach (here : List String) (path : String) : List String :=
  if isAbsolute path then names path else here ++ names path

/-- The names from the root to the directory that holds what a path leads to. -/
def holder (here : List String) (path : String) : List String :=
  if isAbsolute path then (names path).dropLast else here ++ (names path).dropLast

end Path

namespace Registry

/-- Weights with an absolute path stay where they are, and so does their directory. -/
theorem directory_locate_of_absolute (path : String) {raw : ModelBundle}
    (ends : Path.EndsInName raw.safetensorsPath)
    (absolute : Path.isAbsolute raw.safetensorsPath = true) :
    Path.names (Path.directory (locate (Path.parent path) raw).safetensorsPath)
        = (Path.names raw.safetensorsPath).dropLast ∧
      Path.isAbsolute (Path.directory (locate (Path.parent path) raw).safetensorsPath) = true := by
  -- The registry's directory is not put in front of an absolute path.
  rw [locate_of_absolute _ absolute, ends.names_directory, Path.isAbsolute_directory]
  exact ⟨rfl, absolute⟩

/-- The directory of weights with a relative path has all names from the registry's directory to the
weights but the last, and is absolute exactly when the registry's path is. -/
theorem directory_located (path : String) {raw : ModelBundle} (given : raw.safetensorsPath ≠ "")
    (relative : Path.isAbsolute raw.safetensorsPath = false) :
    Path.names (Path.directory (locate (Path.parent path) raw).safetensorsPath)
        = ((Path.names path).dropLast ++ Path.names raw.safetensorsPath).dropLast ∧
      Path.isAbsolute (Path.directory (locate (Path.parent path) raw).safetensorsPath)
        = Path.isAbsolute path := by
  -- The names of the registry's directory and of the weights stand one after the other, of which
  -- the last is left out.
  rw [Path.isAbsolute_directory, locate_of_relative path given relative,
    Path.names_directory_rooted _ Path.isName_of_mem_append,
    Path.isAbsolute_rooted _ Path.isName_of_mem_append, Path.names_parent, Path.isAbsolute_parent]
  exact ⟨rfl, rfl⟩

/-- If the path of weights ends in a name, that is the one that their directory leaves out. -/
theorem directory_locate_of_relative (path : String) {raw : ModelBundle}
    (ends : Path.EndsInName raw.safetensorsPath)
    (relative : Path.isAbsolute raw.safetensorsPath = false) :
    Path.names (Path.directory (locate (Path.parent path) raw).safetensorsPath)
        = (Path.names path).dropLast ++ (Path.names raw.safetensorsPath).dropLast ∧
      Path.isAbsolute (Path.directory (locate (Path.parent path) raw).safetensorsPath)
        = Path.isAbsolute path := by
  -- A path that ends in a name is not empty, so that it is put below the registry's directory.
  have given : raw.safetensorsPath ≠ "" := fun empty => ends.names_ne_nil (by rw [empty]; rfl)
  rw [← List.dropLast_append_of_ne_nil ends.names_ne_nil]
  exact directory_located path given relative

end Registry

/-- The names from the root to the directory that a server runs in, seen from the one that starts
it. -/
def Run.Server.reachDirectory (server : Run.Server) (here : List String) : List String :=
  -- A server with no directory of its own stays where it is started.
  match server.directory? with
  | some path => Path.reach here path
  | none => here

namespace Engine

/-- A server that is given for a model of a registry is told a directory to look for weights in.
Seen from the directory that the server runs in, it is the one that holds the weights of the last
record of that name exactly if the weights' path or the registry's is absolute, or if the server
runs in the directory from which the registry was read. -/
theorem weights_directory_iff {fs now : Filesystem} {path : String} {registry : Registry}
    (loaded : Registry.load fs path = .ok registry) {engine : Engine}
    (registered : engine.registry = some registry) {request : ServeRequest} {server : Run.Server}
    (given : engine.serverFor now request = .ok server) (here : List String) :
    ∃ raws raw token rest, Registry.described fs (Path.plain path) = .ok raws ∧
      raws.reverse.find? (fun raw => raw.name == request.model) = some raw ∧
      raw.safetensorsPath ≠ "" ∧
      server.arguments
        = engine.base ++ Launch.moduleArguments ++ "--model-path" :: token :: rest ∧
      (Path.EndsInName raw.safetensorsPath →
        (Path.reach (server.reachDirectory here) token
            = Path.holder (Path.holder here path) raw.safetensorsPath ↔
          Path.isAbsolute raw.safetensorsPath = true ∨ Path.isAbsolute path = true ∨
            server.reachDirectory here = here)) := by
  -- The bundle is the last record of the name, located; its arguments name the directory of that.
  obtain ⟨_, _, bundle, arguments, launcher, known, required, built, _, same⟩ :=
    serverFor_eq_ok_iff.mp given
  rw [registered, Option.some.injEq] at known
  subst known
  obtain ⟨raws, raw, described, last, located⟩ := Registry.require_of_load loaded required
  obtain ⟨nonempty, rest, told⟩ := Launch.arguments_eq_ok built
  refine ⟨raws, raw, Path.directory bundle.safetensorsPath,
    rest ++ ["--served-model-name", request.model, request.reference], described, last, ?_, ?_, ?_⟩
  · intro empty
    apply nonempty
    simp [located, Registry.locate, empty]
  · simp [same, requested, told]
  · intro ends
    rw [located]
    cases own : Path.isAbsolute raw.safetensorsPath with
    | true =>
      obtain ⟨names, absolute⟩ :=
        Registry.directory_locate_of_absolute (Path.plain path) ends own
      simp [Path.reach, Path.holder, own, absolute, names]
    | false =>
      obtain ⟨names, absolute⟩ :=
        Registry.directory_locate_of_relative (Path.plain path) ends own
      rw [Path.names_plain] at names
      rw [Path.isAbsolute_plain] at absolute
      cases rooted : Path.isAbsolute path with
      | true => simp [Path.reach, Path.holder, own, absolute, names, rooted]
      | false =>
        -- The same names follow the directory that each side starts from.
        simp [Path.reach, Path.holder, own, absolute, names, rooted]

/-- A machine with a registry file in its root, and a prebuilt installation in a directory. -/
def installedTree : Filesystem where
  -- The weights themselves are missing, since nothing here looks at them.
  root := .directory
    [("m.yaml", .file
      { identity := 0
        content := { bytes := "models:\n- name: m\n  safetensors_path: w/m\n".toUTF8.toList } }),
      ("env", .directory [("sglang", .file { identity := 1, executable := true })])]

/-- The engine of that machine with the registry that is read from a path. -/
def installedEngine (path : String) : Engine :=
  create {} (Registry.load installedTree path).toOption [] (some "/env") (some "py") true

/-- A request for the only model of that machine. -/
def installedRequest : ServeRequest where
  -- The request is the smallest one that the registry can serve.
  socket := "sock"
  model := "m"
  reference := "m"
  mode := .text "completion"

/-- With an absolute path of the registry, the directory of the weights is found. -/
theorem weights_found_by_absolute_registry :
    ∃ server token rest,
      (installedEngine "/m.yaml").serverFor installedTree installedRequest = .ok server ∧
      server.arguments = Launch.moduleArguments ++ "--model-path" :: token :: rest ∧
      server.reachDirectory [] = ["env"] ∧
      Path.reach (server.reachDirectory []) token = ["w"] := by
  -- The registry and the server come out of the files; their equations name them.
  have sound : ((Registry.load installedTree "/m.yaml").map fun _ => ()) = .ok () := by
    decide +kernel
  have served : ((installedEngine "/m.yaml").serverFor installedTree installedRequest).map
      (fun server => server.reachDirectory []) = .ok ["env"] := by decide +kernel
  have paths : (Registry.described installedTree (Path.plain "/m.yaml")).map
      (fun raws => raws.map (·.safetensorsPath)) = .ok ["w/m"] := by decide +kernel
  cases loaded : Registry.load installedTree "/m.yaml" with
  | error failure => simp [loaded, Except.map] at sound
  | ok registry =>
    have registered : (installedEngine "/m.yaml").registry = some registry := by
      simp [installedEngine, create, loaded, Except.toOption]
    cases given : (installedEngine "/m.yaml").serverFor installedTree installedRequest with
    | error failure => simp [given, Except.map] at served
    | ok server =>
      obtain ⟨raws, raw, token, rest, described, last, _, told, reached⟩ :=
        weights_directory_iff loaded registered given []
      have own : raw.safetensorsPath = "w/m" := by
        simp only [described, Except.map, Except.ok.injEq] at paths
        have member : raw.safetensorsPath ∈ raws.map (·.safetensorsPath) :=
          List.mem_map_of_mem (List.mem_reverse.mp (List.mem_of_find?_eq_some last))
        rw [paths] at member
        exact List.mem_singleton.mp member
      simp only [given, Except.map, Except.ok.injEq] at served
      rw [own] at reached
      have ends : Path.EndsInName "w/m" := ⟨by decide, by decide⟩
      have found := (reached ends).mpr (Or.inr (Or.inl (by decide)))
      exact ⟨server, token, rest, rfl, told, served, found.trans (by decide +kernel)⟩

/-- With a relative path of the registry, a server that runs in the directory of its installation
looks for the weights there. -/
theorem weights_missed_in_installation :
    ((installedEngine "m.yaml").serverFor installedTree installedRequest).map (fun server =>
      (server.arguments[3]?, server.arguments[3]?.map (Path.reach (server.reachDirectory []))))
        = .ok (some "w", some ["env", "w"]) ∧
      Path.holder (Path.holder [] "m.yaml") "w/m" = ["w"] := by
  -- The path that is handed over is relative, and the two processes read it from different places.
  decide +kernel

end Engine

end ModelServing
