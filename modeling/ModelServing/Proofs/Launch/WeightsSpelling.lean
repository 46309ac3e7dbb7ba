import ModelServing.Proofs.Engine.WeightsDirectory
import ModelServing.Proofs.Filesystem.Normalizing
import ModelServing.Proofs.Registry.Loading

/-! Whether the directory that is named for a model hangs on how the path of its weights is
spelled. -/

namespace ModelServing

namespace Path

/-- A relative path that is seen from a directory ends as it does by itself. -/
theorem lastName_join {directory path : String} (placed : directory ≠ "")
    (relative : isAbsolute path = false) : lastName (join directory path) = lastName path := by
  -- Both are read backwards up to the last slash, which may be the one between them.
  obtain ⟨front, joined, -⟩ := join_cases placed relative
  rw [joined]
  rcases last_slash path with unslashed | ⟨before, last, unslashed, same⟩
  · rw [lastName_append unslashed, lastName_of_unslashed unslashed, String.ofList_toList]
  · have whole : front ++ '/' :: path.toList = (front ++ '/' :: before) ++ '/' :: last := by
      simp [same]
    rw [whole, lastName_append unslashed, same, lastName_append unslashed]

/-- The directory of a relative path that is seen from another one has all names but the last, if
the path ends in a name, and otherwise all of them. -/
theorem names_directory_join {directory path : String} (placed : directory ≠ "")
    (relative : isAbsolute path = false) :
    (EndsInName path →
      names (Path.directory (join directory path)) = (names directory ++ names path).dropLast) ∧
    (¬EndsInName path →
      names (Path.directory (join directory path)) = names directory ++ names path) := by
  -- Joining keeps the last name, so the two paths end alike.
  have same : EndsInName (join directory path) ↔ EndsInName path := by
    rw [EndsInName, EndsInName, lastName_join placed relative]
  refine ⟨fun ends => ?_, fun unnamed => ?_⟩
  · rw [(same.mpr ends).names_directory, names_join relative]
  · rw [names_directory_of_not_endsInName (mt same.mp unnamed), names_join relative]

/-- An absolute path is not empty. -/
theorem ne_empty_of_isAbsolute {path : String} (absolute : isAbsolute path = true) : path ≠ "" := by
  -- The first character of an absolute path is a slash.
  rintro rfl
  cases absolute

/-- What begins with an absolute path is absolute. -/
theorem isAbsolute_append {front : String} (absolute : isAbsolute front = true) (more : String) :
    isAbsolute (front ++ more) = true := by
  -- The first character stays the first.
  obtain ⟨rest, starts⟩ : ∃ rest, front.toList = '/' :: rest := by
    simpa [isAbsolute, List.head?_eq_some_iff] using absolute
  simp [isAbsolute, starts]

/-- A directory with a slash behind it is another spelling of itself, from which a path is seen
behind that slash. -/
theorem join_behind_slash (directory : String) {path : String} (relative : isAbsolute path = false) :
    join (directory ++ "/") path = directory ++ "/" ++ path ∧
      names (directory ++ "/") = names directory := by
  -- The slash at the end is an empty part, and no other one is put behind it.
  have ends : endsInSlash (directory ++ "/") = true := by simp [endsInSlash]
  refine ⟨by simp [join, relative, ends], ?_⟩
  have split := names_append_slash directory.toList []
  have same : String.ofList (directory.toList ++ ['/']) = directory ++ "/" := by
    rw [← String.toList_inj]
    simp
  rw [same, String.ofList_toList] at split
  exact split.trans (List.append_nil _)

/-- A relative path that is spelled from the root, behind its directory and a slash or as it is seen
from that directory, is absolute. The directory of this spelling has all names but the last, if the
path ends in a name, and otherwise all of them. -/
theorem directory_of_spelled {directory path absolute : String} (fromRoot : isAbsolute directory = true)
    (relative : isAbsolute path = false)
    (spelled : absolute = directory ++ "/" ++ path ∨ absolute = join directory path) :
    isAbsolute absolute = true ∧
      (EndsInName path →
        names (Path.directory absolute) = (names directory ++ names path).dropLast) ∧
      (¬EndsInName path → names (Path.directory absolute) = names directory ++ names path) := by
  -- Either way, the path is seen from some spelling of the directory.
  obtain ⟨place, seen, same, start⟩ : ∃ place, absolute = join place path ∧
      names place = names directory ∧ isAbsolute place = true := by
    rcases spelled with glued | joined
    · obtain ⟨behind, same⟩ := join_behind_slash directory relative
      exact ⟨directory ++ "/", glued.trans behind.symm, same, isAbsolute_append fromRoot "/"⟩
    · exact ⟨directory, joined, rfl, fromRoot⟩
  rw [seen, ← same]
  exact ⟨isAbsolute_join_of_absolute start path,
    names_directory_join (ne_empty_of_isAbsolute start) relative⟩

end Path

namespace Registry

/-- Whether a registry is loaded from a path, and the record that counts for a name spells the path
of its weights in some way. -/
structure Registers (fs : Filesystem) (path : String) (registry : Registry) (name weights : String) :
    Prop where
  loaded : load fs path = .ok registry
  recorded : ∃ raws raw, described fs (Path.plain path) = .ok raws ∧
    raws.reverse.find? (fun raw => raw.name == name) = some raw ∧ raw.safetensorsPath = weights

/-- A registered name stands for the located bundle of its record. -/
theorem Registers.exists_require {fs : Filesystem} {path : String} {registry : Registry}
    {name weights : String} (registers : Registers fs path registry name weights) :
    ∃ raw : ModelBundle, raw.safetensorsPath = weights ∧
      registry.require name = .ok (locate (Path.parent (Path.plain path)) raw) := by
  -- The last record of the name is the one that the registry keeps.
  obtain ⟨loaded, raws, raw, sound, last, weighs⟩ := registers
  obtain ⟨same, again, path, _, _, found, _, _, _, _, required, _⟩ := load_of_described sound
  rw [loaded, Except.ok.injEq] at again
  subst again
  refine ⟨raw, weighs, (required _ _).mpr ?_⟩
  rw [found, last, path]
  rfl

/-- A registry is loaded whose file has a record for a name. -/
theorem exists_registers {fs : Filesystem} {path name weights : String}
    (told : (described fs (Path.plain path)).map (fun raws =>
      (raws.reverse.find? fun raw => raw.name == name).map (·.safetensorsPath))
        = .ok (some weights)) :
    ∃ registry, Registers fs path registry name weights := by
  -- The file is sound, so that there is a registry, and it holds the last record.
  cases sound : described fs (Path.plain path) with
  | error failure => simp [sound, Except.map] at told
  | ok raws =>
    rw [sound, Except.map, Except.ok.injEq, Option.map_eq_some_iff] at told
    obtain ⟨raw, last, weighs⟩ := told
    obtain ⟨registry, loaded, _⟩ := load_of_described sound
    exact ⟨registry, loaded, raws, raw, sound, last, weighs⟩

end Registry

namespace Launch

open Registry (Registers)

/-- The arguments of a bundle with weights name the directory of these, whatever else they say. -/
theorem exists_arguments {bundle : ModelBundle} (weighted : bundle.safetensorsPath ≠ "")
    {mode : Value} {selected : List String} (served : modeArguments mode = .ok selected)
    (base : List String) (socket : String) (config : Option BackendConfiguration) :
    ∃ rest, arguments base bundle socket mode config = .ok (base ++ moduleArguments
      ++ "--model-path" :: Path.directory bundle.safetensorsPath :: rest) := by
  -- There are weights and a mode that is served, which is all that arguments take.
  obtain ⟨words, built⟩ : ∃ words, arguments base bundle socket mode config = .ok words :=
    ⟨_, arguments_eq_ok_iff.mpr ⟨weighted, selected, served, rfl⟩⟩
  obtain ⟨_, rest, same⟩ := arguments_eq_ok built
  exact ⟨rest, same ▸ built⟩

/-- The directories that are named for weights below the directory of an absolute registry, once
spelled from there and once from the root, are absolute and have the same names exactly if the path
from there ends in a name and not in a slash or a single dot, or if there is no name at all. The
relative spelling names all names on the way to the weights but the last. The absolute one does so
as well if it ends in a name, and otherwise leaves none out. -/
theorem directories_agree_iff {path directory weights absolute : String}
    (rooted : Path.isAbsolute path = true) (fromRoot : Path.isAbsolute directory = true)
    (holds : Path.names directory = (Path.names path).dropLast) (given : weights ≠ "")
    (relative : Path.isAbsolute weights = false)
    (spelled : absolute = directory ++ "/" ++ weights ∨ absolute = Path.join directory weights)
    {here there : Filesystem} {registry other : Registry} {name otherName : String}
    (near : Registers here path registry name weights)
    (far : Registers there path other otherName absolute)
    {mode : Value} {selected : List String} (served : modeArguments mode = .ok selected)
    (base : List String) (socket : String) (config : Option BackendConfiguration) :
    ∃ bundle twin token mirror rest more,
      registry.require name = .ok bundle ∧ other.require otherName = .ok twin ∧
      arguments base bundle socket mode config
        = .ok (base ++ moduleArguments ++ "--model-path" :: token :: rest) ∧
      arguments base twin socket mode config
        = .ok (base ++ moduleArguments ++ "--model-path" :: mirror :: more) ∧
      Path.isAbsolute token = true ∧ Path.isAbsolute mirror = true ∧
      Path.names token = (Path.names directory ++ Path.names weights).dropLast ∧
      (¬Path.EndsInName weights →
        Path.names mirror = Path.names directory ++ Path.names weights) ∧
      (Path.names token = Path.names mirror ↔
        Path.EndsInName weights ∨ Path.names directory ++ Path.names weights = []) := by
  -- Both directories are compared by names: the relative spelling is put together anew, and the
  -- absolute one is cut at its last slash.
  obtain ⟨raw, rfl, required⟩ := near.exists_require
  obtain ⟨copy, written, mirrored⟩ := far.exists_require
  obtain ⟨whole, closed, opened⟩ := Path.directory_of_spelled fromRoot relative spelled
  -- The relative spelling is made anew below the directory of the registry.
  obtain ⟨tokenNames, tokenRoot⟩ := Registry.directory_located (Path.plain path) given relative
  rw [Path.names_plain, ← holds] at tokenNames
  rw [Path.isAbsolute_plain, rooted] at tokenRoot
  -- The absolute one is kept as it is.
  have kept : (Registry.locate (Path.parent (Path.plain path)) copy).safetensorsPath = absolute := by
    rw [Registry.locate_of_absolute _ (written ▸ whole), written]
  obtain ⟨rest, built⟩ := @exists_arguments (Registry.locate (Path.parent (Path.plain path)) raw)
    (Path.ne_empty_of_isAbsolute ((Path.isAbsolute_directory _).symm.trans tokenRoot)) mode selected
    served base socket config
  obtain ⟨more, mirrorBuilt⟩ := @exists_arguments
    (Registry.locate (Path.parent (Path.plain path)) copy)
    (kept ▸ Path.ne_empty_of_isAbsolute whole) mode selected served base socket config
  rw [kept] at mirrorBuilt
  refine ⟨_, _, _, _, rest, more, required, mirrored, built, mirrorBuilt, tokenRoot, ?_, tokenNames,
    opened, ?_⟩
  · rw [Path.isAbsolute_directory, whole]
  · rw [tokenNames]
    by_cases ends : Path.EndsInName raw.safetensorsPath
    · simp [closed ends, ends]
    · -- Only a list without names is none shorter without its last name.
      rw [opened ends, or_iff_right ends]
      refine ⟨fun same => ?_, fun empty => by rw [empty]; rfl⟩
      have short := congrArg List.length same
      rw [List.length_dropLast] at short
      exact List.eq_nil_of_length_eq_zero (by omega)

/-- A registry that spells the same weights from its directory and from the root, once with a name
at the end and once with a slash there. -/
def spellings : Filesystem where
  -- The first two names spell one path, and so do the last two.
  root := .directory [("r", .directory [("m.yaml", .file
    { identity := 0
      content := { bytes := ("models:\n- name: a\n  safetensors_path: v//x/../m\n"
        ++ "- name: b\n  safetensors_path: /r/v//x/../m\n"
        ++ "- name: c\n  safetensors_path: w/\n"
        ++ "- name: d\n  safetensors_path: /r/w/\n").toUTF8.toList } })])]

/-- The directory that is named for a bundle of this registry in completion mode. -/
def spelledDirectory (name : String) : Option String :=
  -- The directory is the fourth of the arguments.
  (Registry.load spellings "/r/m.yaml").toOption.bind fun registry =>
    (registry.require name).toOption.bind fun bundle =>
      (arguments [] bundle "sock" (.text "completion") none).toOption.bind fun words => words[3]?

/-- Weights that are spelled with a doubled slash and a way back, and end in a name, lie in one
directory either way. -/
theorem directories_agree_behind_name :
    ∃ (registry : Registry) (bundle twin : ModelBundle) (token mirror : String) (rest more : List String),
      registry.require "a" = .ok bundle ∧ registry.require "b" = .ok twin ∧
      arguments [] bundle "sock" (.text "completion") none
        = .ok (moduleArguments ++ "--model-path" :: token :: rest) ∧
      arguments [] twin "sock" (.text "completion") none
        = .ok (moduleArguments ++ "--model-path" :: mirror :: more) ∧
      Path.names token = ["r", "v", "x", ".."] ∧ Path.names mirror = ["r", "v", "x", ".."] := by
  -- The path ends in a name, so both spellings leave out that name.
  obtain ⟨registry, near⟩ : ∃ registry, Registers spellings "/r/m.yaml" registry "a" "v//x/../m" :=
    Registry.exists_registers (by decide +kernel)
  obtain ⟨other, far⟩ : ∃ other, Registers spellings "/r/m.yaml" other "b" "/r/v//x/../m" :=
    Registry.exists_registers (by decide +kernel)
  obtain rfl : registry = other := by
    have both := near.loaded.symm.trans far.loaded
    rwa [Except.ok.injEq] at both
  obtain ⟨bundle, twin, token, mirror, rest, more, required, mirrored, built, twinned, -, -, named, -,
    agree⟩ := @directories_agree_iff "/r/m.yaml" "/r" _ _ (by decide) (by decide) (by decide)
      (by decide) (by decide) (.inl rfl) _ _ _ _ _ _ near far (.text "completion") _ rfl [] "sock" none
  have same := named.trans (show _ = ["r", "v", "x", ".."] by decide)
  exact ⟨registry, bundle, twin, token, mirror, rest, more, required, mirrored, built, twinned, same,
    (agree.mpr (.inl ⟨by decide, by decide⟩)).symm.trans same⟩

/-- Weights that are spelled with a slash at the end lie in two directories, the one below the
other. -/
theorem directories_apart_behind_slash :
    spelledDirectory "c" = some "/r" ∧ spelledDirectory "d" = some "/r/w" ∧
      Path.names "/r" ≠ Path.names "/r/w" := by
  -- One spelling is put together from names, where the slash is gone, and the other one keeps its
  -- slash.
  decide +kernel

end Launch

end ModelServing
