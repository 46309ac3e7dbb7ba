import ModelServing.Command.Execution
import ModelServing.Proofs.Console.PlainDisplay
import ModelServing.Proofs.Registry.Reload
import ModelServing.Proofs.Shell.Words

/-! Which arguments can be read back from what is shown of them. -/

namespace ModelServing.Command

open ModelServing.Console ModelServing.Shell ModelServing.Text

/-- What words have to be like if the terminal is to show the line of them as it is, be it one that
drops blanks beyond its width or not. -/
structure Survives (crops : Bool) (words : List (List Char)) : Prop where
  /-- They hold neither tabs nor characters that are never printed. -/
  printable : ∀ word ∈ words, ∀ c ∈ word, c ≠ '\t' ∧ isControl c = false
  /-- As they are quoted, they hold no name between colons that stands for a pictograph. -/
  unnamed : ∀ word ∈ words, expandShortcodes (quoteWord word) = quoteWord word
  /-- With line feeds in them, they make no line that ends with a blank beyond the width, if such
  blanks are dropped. -/
  uncropped : crops = true → ∀ line ∈ (joinWords words).splitOn '\n',
    line.length ≤ lineWidth ∨ ∀ c ∈ line.getLast?, isBlank c = false

/-- A line of words is shown with the names between colons in it if every word is. -/
theorem expandShortcodes_joinWords_eq_iff (words : List (List Char)) :
    expandShortcodes (joinWords words) = joinWords words ↔
      ∀ word ∈ words, expandShortcodes (quoteWord word) = quoteWord word := by
  -- A line is its words with blanks between them, and no name of a pictograph holds a blank, so
  -- induction on the words splits it.
  induction words with
  | nil => simp [expandShortcodes]
  | cons word rest ih =>
    cases rest with
    | nil => simp
    | cons next more =>
      rw [joinWords_cons_cons, expandShortcodes_append_eq_iff, ih]
      simp only [List.mem_cons, forall_eq_or_imp]

/-- Nothing that is never printed stands in a line of words that hold nothing like that. -/
theorem printable_joinWords {words : List (List Char)}
    (printable : ∀ word ∈ words, ∀ c ∈ word, c ≠ '\t' ∧ isControl c = false) :
    ∀ c ∈ joinWords words, c ≠ '\t' ∧ isControl c = false := by
  -- Quotation marks and blanks are printable, so such characters are counted in the words alone.
  have none : (joinWords words).countP (fun c => c == '\t' || isControl c) = 0 := by
    rw [countP_joinWords (by decide) (by decide) (by decide), List.countP_eq_zero]
    intro c member
    obtain ⟨part, among, stands⟩ := List.mem_flatten.mp member
    simp [printable part among c stands]
  intro c member
  simpa using List.countP_eq_zero.mp none c member

section Uncropped

variable {crops : Bool} {words : List (List Char)}
  (read : splitWords? (((joinWords words).splitOn '\n').flatMap fun line =>
    unbroken crops line ++ ['\n']) = some words)
include read

/-- If the words of a line are read back, then the first of its lines that might lose a blank loses
none. -/
theorem unbroken_of_read_behind {before after : List (List Char)} {line : List Char}
    (parts : (joinWords words).splitOn '\n' = before ++ line :: after)
    (kept : ∀ early ∈ before, unbroken crops early = early) : unbroken crops line = line := by
  -- What is lost is a run of blanks in front of a line feed, so suppose that it is not empty.
  obtain ⟨blanks, whole, blank⟩ := exists_unbroken crops line
  cases blanks with
  | nil => rw [← List.append_nil (unbroken crops line), ← whole]
  | cons b blanks =>
    -- Otherwise the line feed takes the place of the first blank that is lost.
    let start := before.flatMap (· ++ ['\n']) ++ unbroken crops line
    have same : before.flatMap (fun early => unbroken crops early ++ ['\n'])
        = before.flatMap (· ++ ['\n']) :=
      List.flatMap_congr fun early among => by rw [kept early among]
    have text : joinWords words ++ ['\n']
        = start ++ b :: (blanks ++ '\n' :: after.flatMap (· ++ ['\n'])) := by
      rw [← flatMap_splitOn, parts, List.flatMap_append, List.flatMap_cons]
      nth_rewrite 1 [whole]
      simp [start]
    have printed : splitWords? (start ++ '\n' :: after.flatMap fun late =>
        unbroken crops late ++ ['\n']) = some words := by
      rw [← read, parts, List.flatMap_append, List.flatMap_cons, same]
      simp [start]
    have replaced : '\n' = b := by
      have first := blank b List.mem_cons_self
      cases blanks with
      | nil => exact blank_of_read first rfl rfl text printed
      | cons c blanks => exact blank_of_read first (blank c (by simp)) rfl text printed
    -- But no line holds a line feed.
    have member : line ∈ (joinWords words).splitOn '\n' := by simp [parts]
    have unended : '\n' ∉ line := not_mem_of_mem_splitOn member
    exact absurd (whole ▸ List.mem_append_right _ (replaced ▸ List.mem_cons_self)) unended

/-- If the words of a line are read back, then all of its lines are printed as they are. -/
theorem unbroken_of_read : ∀ line ∈ (joinWords words).splitOn '\n', unbroken crops line = line := by
  -- The lines before each one are known to be whole already.
  have behind : ∀ lines before, (joinWords words).splitOn '\n' = before ++ lines →
      (∀ line ∈ before, unbroken crops line = line) → ∀ line ∈ lines, unbroken crops line = line := by
    intro lines
    induction lines with
    | nil => simp
    | cons line lines ih =>
      intro before parts kept
      have first := unbroken_of_read_behind read parts kept
      refine List.forall_mem_cons.mpr ⟨first, ih (before ++ [line]) (by simp [parts]) ?_⟩
      simpa [or_imp, forall_and, first] using kept
  exact behind _ [] rfl (by simp)

end Uncropped

/-- The words that a line was made of are read from what is printed of it exactly if they survive
the printing. -/
theorem splitWords?_plainly_iff (crops : Bool) (words : List (List Char)) :
    splitWords? (plainly crops (joinWords words)) = some words ↔ Survives crops words := by
  -- Three things can be lost: characters that are never printed, names between colons, and blanks
  -- that are cropped. They are treated in this order.
  have lines : (∀ line ∈ (joinWords words).splitOn '\n', unbroken crops line = line) ↔
      (crops = true → ∀ line ∈ (joinWords words).splitOn '\n',
        line.length ≤ lineWidth ∨ ∀ c ∈ line.getLast?, isBlank c = false) := by
    simp only [unbroken_eq_self_iff]
    exact ⟨fun kept crop line member => kept line member crop,
      fun kept line member crop => kept crop line member⟩
  constructor
  · intro read
    -- The words consist of characters that were printed, and colons that were printed.
    have kept := sublist_of_splitFrom read
    simp only [Option.getD_none, Quotation.held, List.nil_append] at kept
    have printable : ∀ word ∈ words, ∀ c ∈ word, c ≠ '\t' ∧ isControl c = false :=
      fun word member c stands =>
        of_mem_plainly (kept.subset (List.mem_flatten.mpr ⟨word, member, stands⟩))
    have unnamed : expandShortcodes (joinWords words) = joinWords words := by
      -- A name that is replaced takes two colons with it, which the words are then without.
      rcases expandShortcodes_cases (joinWords words) with same | fewer
      · exact same
      · have shown := Nat.le_trans (kept.count_le ':') (count_plainly crops _)
        have written : (joinWords words).count ':' = words.flatten.count ':' :=
          countP_joinWords (by decide) (by decide) (by decide) words
        omega
    have proper := printable_joinWords printable
    rw [plainly_of_printable (fun tab => (proper _ tab).1 rfl) (fun c member => (proper c member).2)
      unnamed] at read
    exact ⟨printable, (expandShortcodes_joinWords_eq_iff words).mp unnamed,
      lines.mp (unbroken_of_read read)⟩
  · rintro ⟨printable, unnamed, uncropped⟩
    have proper := printable_joinWords printable
    have same : ((joinWords words).splitOn '\n').flatMap (fun line => unbroken crops line ++ ['\n'])
        = joinWords words ++ ['\n'] := by
      rw [← flatMap_splitOn]
      exact List.flatMap_congr fun line member => by rw [lines.mpr uncropped line member]
    rw [plainly_of_printable (fun tab => (proper _ tab).1 rfl) (fun c member => (proper c member).2)
      ((expandShortcodes_joinWords_eq_iff words).mpr unnamed), same, splitWords?_joinWords]

/-- The arguments that are built for a model of a loaded registry are shown, and they are read back
from what is shown exactly if they survive the printing. -/
theorem shown_arguments_iff {deployment : Deployment} {options : LaunchOptions}
    {registry : Registry} {words : List String}
    (loaded : Registry.load deployment.host.fs (deployment.registryPath options.registryPath)
      = .ok registry)
    (built : options.arguments registry = .ok words) :
    let outcome := showArguments deployment options
    outcome.ending = .exited 0 ∧ outcome.logs = [] ∧
      (splitWords? outcome.stdout.toList = some (words.map String.toList) ↔
        Survives deployment.crops (words.map String.toList)) := by
  -- The arguments are printed without markup, so what is printed is the plain text of their line.
  intro outcome
  have printed : outcome =
      { stdout := String.ofList (plainly deployment.crops (joinWords (words.map String.toList))) } := by
    unfold outcome showArguments
    rw [Deployment.withRegistry_of_ok loaded, showArgumentsFrom, built]
    dsimp only
    rw [Outcome.afterPrinting_of_ok (display_plainly rfl rfl _), shellLine, String.toList_ofList,
      String.append_empty]
    rfl
  rw [printed]
  refine ⟨rfl, rfl, ?_⟩
  rw [String.toList_ofList]
  exact splitWords?_plainly_iff _ _

/-- A machine with a registry of one model in its root. -/
def oneModel : Deployment where
  host := { fs := Registry.oneFile "m.yaml" "models:\n- name: m\n  safetensors_path: w/m\n" }

/-- What is asked about the arguments for that model with some flags. -/
def withFlags (flags : List String) : LaunchOptions where
  -- The flags come last among the arguments, so they can be chosen without a change to the rest.
  model := "m"
  socket := "host"
  flags := flags
  registryPath := some "/m.yaml"

/-- The arguments that are built for that model with some flags. -/
def argumentsWith (flags : List String) : List String :=
  ["-m", "sglang.launch_server", "--model-path", "/w", "--host", "host"] ++ flags

/-- Flags that a shell would read otherwise if they were not quoted. -/
def flagsWithMarks : List String := ["it's", "[b]", "a\n b", ""]

/-- Quotation marks, square brackets and line feeds survive. -/
theorem shown_arguments_with_marks :
    ∃ registry, Registry.load oneModel.host.fs
        (oneModel.registryPath (some "/m.yaml")) = .ok registry ∧
      (withFlags flagsWithMarks).arguments registry
        = .ok (argumentsWith flagsWithMarks) ∧
      splitWords? (showArguments oneModel (withFlags flagsWithMarks)).stdout.toList
        = some ((argumentsWith flagsWithMarks).map String.toList) := by
  -- None of the marks is a colon or a control character, and the line is shorter than the display.
  have told : ((Registry.load oneModel.host.fs (oneModel.registryPath (some "/m.yaml"))).map
      fun registry => (withFlags flagsWithMarks).arguments registry)
        = .ok (.ok (argumentsWith flagsWithMarks)) := by
    decide +kernel
  cases loaded : Registry.load oneModel.host.fs (oneModel.registryPath (some "/m.yaml")) with
  | error failure => simp [loaded, Except.map] at told
  | ok registry =>
    simp only [loaded, Except.map, Except.ok.injEq] at told
    obtain ⟨_, _, read⟩ :=
      @shown_arguments_iff oneModel (withFlags flagsWithMarks) _ _ loaded told
    have printable : ((argumentsWith flagsWithMarks).map String.toList).all
        (fun word => word.all fun c => c != '\t' && !isControl c) = true := by decide +kernel
    exact ⟨registry, rfl, told, read.mpr ⟨by simpa using printable, by decide +kernel,
      fun _ => by decide +kernel⟩⟩

/-- A flag that names a pictograph is not read back. -/
theorem arguments_lost_to_pictograph :
    ((Registry.load oneModel.host.fs (oneModel.registryPath (some "/m.yaml"))).map
      fun registry => (withFlags [":aries:"]).arguments registry)
        = .ok (.ok (argumentsWith [":aries:"])) ∧
      splitWords? (showArguments oneModel (withFlags [":aries:"])).stdout.toList
        ≠ some ((argumentsWith [":aries:"]).map String.toList) := by
  -- The name between the colons is replaced by a single character, which is read back as it is.
  decide +kernel

end ModelServing.Command
