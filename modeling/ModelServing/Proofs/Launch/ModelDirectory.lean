import ModelServing.Proofs.Engine.WeightsDirectory
import ModelServing.Proofs.Filesystem.PathLookup

/-! Which directory the arguments of a server name for the model, and when they name none. -/

namespace ModelServing

namespace Registry

/-- A located path holds a slash exactly if it was absolute, if the registry's path is, or if there
are two names on the way from where that path starts. -/
theorem slash_mem_locate_iff (path : String) {raw : ModelBundle} (weighted : raw.safetensorsPath ≠ "") :
    '/' ∈ (locate (Path.parent path) raw).safetensorsPath.toList ↔
      Path.isAbsolute raw.safetensorsPath = true ∨ Path.isAbsolute path = true ∨
        2 ≤ ((Path.names path).dropLast ++ Path.names raw.safetensorsPath).length := by
  -- Either the path is kept, slash and all, or its text is made of names with slashes between them.
  cases own : Path.isAbsolute raw.safetensorsPath with
  | true =>
    have slash : '/' ∈ raw.safetensorsPath.toList :=
      List.mem_of_head? (by simpa [Path.isAbsolute] using own)
    simp [locate, own, slash]
  | false =>
    -- A relative path is made anew from the names of both.
    rw [locate_of_relative path weighted own,
      Path.slash_mem_rooted_iff _ Path.isName_of_mem_append, Path.isAbsolute_parent, Path.names_parent]
    simp

end Registry

namespace Path

/-- Seen from anywhere, the directory of a path that ends in a name is what holds that name. -/
theorem reach_directory {path : String} (ends : EndsInName path) (here : List String) :
    reach here (directory path) = holder here path := by
  -- All names but the last are those of the directory, and the last is what it holds.
  simp only [reach, holder, isAbsolute_directory, ends.names_directory]

end Path

namespace Filesystem

/-- What a path leads to, the last link not passed, lies in its directory exactly if the path has a
slash. Without one, the directory is the empty path, which leads nowhere. -/
theorem find_directory_iff {fs : Filesystem} {path : String} {names : List String} {entry : Entry}
    (found : fs.find false path = .ok (names, entry)) (leaf : entry.isDirectory = false) :
    (∃ there entries, fs.find true (Path.directory path) = .ok (there, .directory entries) ∧
      names = there ++ [Path.lastName path]) ↔ '/' ∈ path.toList := by
  -- The empty path is refused before anything is looked up.
  constructor
  · rintro ⟨there, entries, reached, _⟩
    exact Path.directory_ne_empty_iff.mp (find_eq_ok_iff.mp reached).1
  · exact fun slashed => find_directory slashed found leaf

end Filesystem

namespace Launch

/-- Arguments name a directory for the model exactly if there is a slash in the path of its weights;
otherwise the name is empty. In every file system where that path leads to anything but a directory,
the named directory is where it lies, again exactly if there is a slash. Whether or not there is
such a file, the name has the names on the path but the last. For a bundle of a registry that was
read from a file, the name is empty exactly if the paths of both are relative and there is one name
only on the way from where the registry's path starts to the weights. -/
theorem model_directory_iff {base : List String} {bundle : ModelBundle} {socket : String}
    {mode : Value} {config : Option BackendConfiguration} {built : List String}
    (ok : arguments base bundle socket mode config = .ok built) :
    ∃ token rest, built = base ++ moduleArguments ++ "--model-path" :: token :: rest ∧
      (token ≠ "" ↔ '/' ∈ bundle.safetensorsPath.toList) ∧
      (∀ (fs : Filesystem) names entry, fs.find false bundle.safetensorsPath = .ok (names, entry) →
        entry.isDirectory = false →
        ((∃ there entries, fs.find true token = .ok (there, .directory entries) ∧
          names = there ++ [Path.lastName bundle.safetensorsPath]) ↔
            '/' ∈ bundle.safetensorsPath.toList)) ∧
      (Path.EndsInName bundle.safetensorsPath → ∀ here,
        Path.reach here token = Path.holder here bundle.safetensorsPath) ∧
      ∀ fs path registry name, Registry.load fs path = .ok registry →
        registry.require name = .ok bundle →
        ∃ raws raw, Registry.described fs (Path.plain path) = .ok raws ∧
          raws.reverse.find? (fun raw => raw.name == name) = some raw ∧
          (token ≠ "" ↔
            Path.isAbsolute raw.safetensorsPath = true ∨ Path.isAbsolute path = true ∨
              2 ≤ ((Path.names path).dropLast ++ Path.names raw.safetensorsPath).length) := by
  -- The name is what stands before the last slash of the path.
  obtain ⟨weighted, rest, told⟩ := arguments_eq_ok ok
  refine ⟨Path.directory bundle.safetensorsPath, rest, told, Path.directory_ne_empty_iff,
    fun fs names entry found leaf => Filesystem.find_directory_iff found leaf,
    fun ends here => Path.reach_directory ends here, ?_⟩
  intro fs path registry name loaded required
  obtain ⟨raws, raw, described, last, located⟩ := Registry.require_of_load loaded required
  refine ⟨raws, raw, described, last, ?_⟩
  -- Locating keeps an empty path empty, so that the record has weights as well.
  have given : raw.safetensorsPath ≠ "" := by
    intro empty
    apply weighted
    simp [located, Registry.locate, empty]
  rw [Path.directory_ne_empty_iff, located, Registry.slash_mem_locate_iff _ given,
    Path.isAbsolute_plain, Path.names_plain]

/-- A registry file with a bundle beside it, and another one further down. -/
def weightsTree : Filesystem where
  -- One file lies beside the registry and one further down, to be named without a slash and with
  -- one.
  root := .directory
    [("m.yaml", .file
      { identity := 0
        content := { bytes := "models:\n- name: m\n  safetensors_path: m.st\n".toUTF8.toList } }),
      ("m.st", .file { identity := 1 }),
      ("w", .directory [("m.st", .file { identity := 2 })])]

/-- Weights behind two slashes lie in the directory that is named. -/
theorem model_directory_behind_slashes :
    arguments [] { name := "m", safetensorsPath := "w//m.st" } "sock" (.text "completion") none
        = .ok ["-m", "sglang.launch_server", "--model-path", "w", "--host", "sock"] ∧
      ∃ there entries, weightsTree.find true "w" = .ok (there, .directory entries) ∧
        ["w", "m.st"] = there ++ ["m.st"] := by
  -- The slashes are dropped together, which leaves the directory that holds the file.
  have built : arguments [] { name := "m", safetensorsPath := "w//m.st" } "sock"
      (.text "completion") none
      = .ok ["-m", "sglang.launch_server", "--model-path", "w", "--host", "sock"] := by decide +kernel
  obtain ⟨token, rest, told, _, lies, _⟩ := model_directory_iff built
  have same : "w" = token := by
    simp only [moduleArguments, List.nil_append, List.cons_append, List.cons.injEq] at told
    exact told.2.2.2.1
  subst same
  have found : weightsTree.find false "w//m.st" = .ok (["w", "m.st"], .file { identity := 2 }) := by
    rfl
  exact ⟨built, (lies weightsTree _ _ found rfl).mpr (by decide)⟩

/-- The weights of a registry in the current directory lie beside it, and the directory that is
named for them is empty, which leads nowhere. -/
theorem model_directory_missing_for_bare_name :
    ((Registry.load weightsTree "m.yaml").toOption.bind fun registry =>
        (registry.require "m").toOption.bind fun bundle =>
          (arguments [] bundle "sock" (.text "completion") none).toOption)
        = some ["-m", "sglang.launch_server", "--model-path", "", "--host", "sock"] ∧
      (weightsTree.linkStatus "m.st").map (·.isDirectory) = .ok false ∧
      (weightsTree.status "").map (·.isDirectory) = .error .noEntry := by
  -- The name of a file in the current directory has no slash, so nothing is left of it.
  decide +kernel

end Launch

end ModelServing
