import ModelServing.Log.RootLogger

/-! Which of several setups decides about the logger above all others, and what a failed one leaves
behind. -/

namespace ModelServing.RootLogger

/-- What setups in order make of a logger, and how each of them ends. -/
def configureAll (logger : RootLogger) : List Value → RootLogger × List (Except Failure Unit)
  -- Each setup sees the logger that the one before it has left.
  | [] => (logger, [])
  | level :: rest =>
    let (logger, result) := logger.configure level
    let (logger, results) := logger.configureAll rest
    (logger, result :: results)

/-- The level that a value stands for: an integer or a truth value for itself, and a text for the
number of the level that it names. -/
inductive StandsFor : Value → Value → Prop
  | number (n : Int) : StandsFor (.int n) (.int n)
  | truth (b : Bool) : StandsFor (.bool b) (.bool b)
  | name {name : String} {number : Int} (known : (name, number) ∈ namedLevels) :
    StandsFor (.text name) (.int number)

/-- The failure of a value that stands for no level: a text that names none, or anything else but a
null, which leaves the level to the logger. -/
inductive Refused : Value → Failure → Prop
  | unknown {name : String} (unknown : ∀ number, (name, number) ∉ namedLevels) :
    Refused (.text name) (.unknownLevel name)
  | misshapen {value : Value} (given : value ≠ .null) (innumerable : value.asInt? = none)
    (unnamed : ∀ name, value ≠ .text name) : Refused value .wrongShape

section Levels

/-- A name is looked up to the number that is listed for it. -/
theorem find?_namedLevels_eq_some_iff {name : String} {entry : String × Int} :
    namedLevels.find? (fun entry => entry.1 == name) = some entry ↔
      entry ∈ namedLevels ∧ entry.1 = name := by
  -- The first entry that carries the name is the only one.
  constructor
  · intro found
    exact ⟨List.mem_of_find?_eq_some found, by simpa using List.find?_some found⟩
  · -- No name is listed twice.
    have single : ∀ entry ∈ namedLevels,
        namedLevels.find? (fun other => other.1 == entry.1) = some entry := by decide
    rintro ⟨member, rfl⟩
    exact single entry member

/-- A name is not looked up to anything if no number is listed for it. -/
theorem find?_namedLevels_eq_none_iff {name : String} :
    namedLevels.find? (fun entry => entry.1 == name) = none ↔
      ∀ number, (name, number) ∉ namedLevels := by
  -- The search fails exactly if no entry carries the name.
  rw [List.find?_eq_none]
  constructor
  · intro none number member
    exact none (name, number) member (beq_self_eq_true name)
  · rintro absent ⟨other, number⟩ member same
    rw [beq_iff_eq] at same
    exact absent number (same ▸ member)

/-- What is read of a value is the level that it stands for. -/
theorem readLevel_eq_some_iff {given level : Value} :
    readLevel given = .ok (some level) ↔ StandsFor given level := by
  -- Numbers and truth values are levels themselves, and texts are looked up.
  constructor
  · intro read
    cases given with
    | int n =>
      cases read
      exact .number n
    | bool b =>
      cases read
      exact .truth b
    | text name =>
      simp only [readLevel] at read
      split at read
      · rename_i listed number found
        obtain ⟨member, rfl⟩ := find?_namedLevels_eq_some_iff.mp found
        cases read
        exact .name member
      · cases read
    | _ => cases read
  · rintro (n | b | known)
    · rfl
    · rfl
    · simp only [readLevel, find?_namedLevels_eq_some_iff.mpr ⟨known, rfl⟩]

/-- Only of a null nothing is read. -/
theorem readLevel_eq_none_iff {given : Value} : readLevel given = .ok none ↔ given = .null := by
  -- All other kinds of values give a level or an error.
  constructor
  · intro read
    cases given with
    | null => rfl
    | text name =>
      simp only [readLevel] at read
      split at read <;> cases read
    | _ => cases read
  · rintro rfl
    rfl

/-- A value that cannot be read stands for no level. -/
theorem readLevel_eq_error_iff {given : Value} {failure : Failure} :
    readLevel given = .error failure ↔ Refused given failure := by
  -- A text is refused if it is not listed, and any value that is no level is refused for its kind.
  constructor
  · intro read
    cases given with
    | null | int | bool => cases read
    | text name =>
      simp only [readLevel] at read
      split at read
      · cases read
      · rename_i absent
        cases read
        exact .unknown (find?_namedLevels_eq_none_iff.mp absent)
    | _ =>
      cases read
      exact .misshapen nofun rfl nofun
  · rintro (unknown | ⟨given, innumerable, unnamed⟩)
    · simp only [readLevel, find?_namedLevels_eq_none_iff.mpr unknown]
    · -- The three kinds that can be read are excluded one by one.
      unfold readLevel
      split
      · exact absurd rfl given
      · cases innumerable
      · cases innumerable
      · exact absurd rfl (unnamed _)
      · rfl

end Levels

section Calls

variable {logger : RootLogger}

/-- A logger with a handler passes over a setup. -/
theorem configure_of_handled (handled : logger.formats ≠ []) (given : Value) :
    logger.configure given = (logger, .ok ()) := by
  -- The handlers are looked at first.
  unfold configure
  rw [if_pos (by simpa using handled)]

/-- A logger without a handler gets one from a setup, whether that fails or not. -/
theorem formats_configure (bare : logger.formats = []) (given : Value) :
    (logger.configure given).1.formats = [serviceFormat] := by
  -- The handler is added before the level is read.
  unfold configure
  rw [bare, if_neg (by simp)]
  dsimp only
  split <;> rfl

/-- A setup of a logger without a handler sets the level that is given. -/
theorem configure_of_standsFor (bare : logger.formats = []) {given level : Value}
    (stands : StandsFor given level) :
    logger.configure given = ({ level, formats := [serviceFormat] }, .ok ()) := by
  -- The level is read after the handler was added, and set then.
  unfold configure
  rw [bare, if_neg (by simp)]
  simp only [readLevel_eq_some_iff.mpr stands]

/-- A setup of a logger without a handler fails as its level does, and leaves the level as it
was. -/
theorem configure_of_refused (bare : logger.formats = []) {given : Value} {failure : Failure}
    (refused : Refused given failure) :
    logger.configure given
      = ({ level := logger.level, formats := [serviceFormat] }, .error failure) := by
  -- The handler is added before the level is read.
  unfold configure
  rw [bare, if_neg (by simp)]
  simp only [readLevel_eq_error_iff.mpr refused]

/-- A setup of a logger without a handler that is given no level leaves the level as it was. -/
theorem configure_of_null (bare : logger.formats = []) :
    logger.configure .null = ({ level := logger.level, formats := [serviceFormat] }, .ok ()) := by
  -- Nothing is read of a null, so there is nothing to set.
  unfold configure
  rw [bare, if_neg (by simp)]
  rfl

/-- A setup sets the level that its value stands for, or leaves it as it was. -/
theorem level_configure (bare : logger.formats = []) (given : Value) :
    StandsFor given (logger.configure given).1.level ∨
      (∀ level, ¬StandsFor given level) ∧ (logger.configure given).1.level = logger.level := by
  -- The level is one that stands for something, or there is nothing to set.
  cases read : readLevel given with
  | error failure =>
    right
    have refused := readLevel_eq_error_iff.mp read
    refine ⟨fun level stands => ?_, by rw [configure_of_refused bare refused]⟩
    rw [readLevel_eq_some_iff.mpr stands] at read
    cases read
  | ok found =>
    cases found with
    | none =>
      obtain rfl := readLevel_eq_none_iff.mp read
      exact .inr ⟨fun _ => nofun, by rw [configure_of_null bare]⟩
    | some level =>
      have stands := readLevel_eq_some_iff.mp read
      rw [configure_of_standsFor bare stands]
      exact .inl stands

/-- A setup of a logger without a handler fails only as its level does. -/
theorem configure_eq_error_iff (bare : logger.formats = []) {given : Value} {failure : Failure} :
    (logger.configure given).2 = .error failure ↔ Refused given failure := by
  -- Reading the level is the only step of a setup that can fail.
  constructor
  · intro failed
    cases read : readLevel given with
    | error other =>
      have refused := readLevel_eq_error_iff.mp read
      rw [configure_of_refused bare refused] at failed
      cases failed
      exact refused
    | ok found =>
      -- Whatever was read, the setup would have ended well.
      cases found with
      | none =>
        obtain rfl := readLevel_eq_none_iff.mp read
        rw [configure_of_null bare] at failed
        cases failed
      | some level =>
        rw [configure_of_standsFor bare (readLevel_eq_some_iff.mp read)] at failed
        cases failed
  · intro refused
    rw [configure_of_refused bare refused]

end Calls

section Sequences

variable {logger : RootLogger}

/-- Setups can be interrupted. -/
theorem configureAll_append (logger : RootLogger) (first second : List Value) :
    logger.configureAll (first ++ second) =
      (((logger.configureAll first).1.configureAll second).1,
        (logger.configureAll first).2 ++ ((logger.configureAll first).1.configureAll second).2) := by
  -- Induction on the first setups, with the logger left open.
  induction first generalizing logger with
  | nil => rfl
  | cons level rest ih => simp [configureAll, ih]

/-- Every setup has an end of its own. -/
theorem length_configureAll (logger : RootLogger) (levels : List Value) :
    (logger.configureAll levels).2.length = levels.length := by
  -- Induction on the setups.
  induction levels generalizing logger with
  | nil => rfl
  | cons level rest ih => simp [configureAll, ih]

/-- A setup among others ends as it does on the logger that those before it leave. -/
theorem getElem?_configureAll (logger : RootLogger) (before : List Value) (given : Value)
    (after : List Value) :
    (logger.configureAll (before ++ given :: after)).2[before.length]?
      = some ((logger.configureAll before).1.configure given).2 := by
  -- The setups before it have as many ends as there are of them.
  rw [configureAll_append, List.getElem?_append_right (by simp [length_configureAll])]
  simp [length_configureAll, configureAll]

/-- A logger with a handler stays as it is under any setups. -/
theorem configureAll_of_handled (handled : logger.formats ≠ []) (levels : List Value) :
    (logger.configureAll levels).1 = logger := by
  -- The first setup changes nothing, so that the next one finds the handler as well.
  induction levels with
  | nil => rfl
  | cons level rest ih =>
    rw [configureAll, configure_of_handled handled]
    exact ih

/-- The first setup decides about the logger. -/
theorem configureAll_cons (bare : logger.formats = []) (first : Value) (rest : List Value) :
    (logger.configureAll (first :: rest)).1 = (logger.configure first).1 := by
  -- The first one leaves a handler, whatever else comes of it, and handlers stop the others.
  have handled : (logger.configure first).1.formats ≠ [] := by
    rw [formats_configure bare first]
    exact List.cons_ne_nil _ _
  exact configureAll_of_handled handled rest

end Sequences

/-- Of several setups of a logger without a handler, the first decides. It adds the one handler with
the service's format even if it fails, and sets the level that it is given; if it stands for none,
or fails, the level stays as it was. The first setup fails exactly if the level that it is given is
refused, and leaves the level alone then. Every later setup ends well and changes nothing, whatever
it is given and however the first one has ended. -/
theorem configured_by_first {logger : RootLogger} (bare : logger.formats = []) (levels : List Value) :
    let (final, results) := logger.configureAll levels
    (levels = [] → final = logger) ∧
    (levels ≠ [] → final.formats = [serviceFormat]) ∧
    (∀ first rest, levels = first :: rest →
      StandsFor first final.level ∨
        (∀ level, ¬StandsFor first level) ∧ final.level = logger.level) ∧
    ∀ before given after, levels = before ++ given :: after →
      let held := (logger.configureAll before).1
      let (next, result) := held.configure given
      results[before.length]? = some result ∧
        (∀ failure, result = .error failure ↔ before = [] ∧ Refused given failure) ∧
        (result ≠ .ok () → next.level = held.level ∧ next.formats = [serviceFormat]) ∧
        (before ≠ [] → next = held) := by
  -- The first setup is followed on its own, and a handler is left for all the others.
  dsimp only
  refine ⟨?_, ?_, ?_, ?_⟩
  · rintro rfl
    rfl
  · intro some
    obtain ⟨first, rest, rfl⟩ := List.exists_cons_of_ne_nil some
    rw [configureAll_cons bare, formats_configure bare]
  · rintro first rest rfl
    rw [configureAll_cons bare]
    exact level_configure bare first
  · rintro before given after rfl
    refine ⟨getElem?_configureAll logger before given after, ?_⟩
    cases before with
    | nil =>
      -- The first setup finds no handler.
      refine ⟨fun failure => ?_, fun failed => ?_, fun later => absurd rfl later⟩
      · simpa [configureAll] using @configure_eq_error_iff logger bare given failure
      · cases ended : (logger.configure given).2 with
        | ok done => exact absurd ended failed
        | error failure =>
          have refused := (configure_eq_error_iff bare).mp ended
          simp only [configureAll, configure_of_refused bare refused, and_self]
    | cons first rest =>
      -- A later one finds the handler that the first has added.
      have handled : (logger.configureAll (first :: rest)).1.formats ≠ [] := by
        rw [configureAll_cons bare, formats_configure bare]
        exact List.cons_ne_nil _ _
      rw [configure_of_handled handled]
      simp

/-- After a setup with an unknown level, one with a known level ends well and sets nothing. -/
theorem configured_by_unknown_name :
    let levels := [Value.text "bogus", .text "DEBUG"]
    let (final, results) := ({} : RootLogger).configureAll levels
    ({} : RootLogger).formats = [] ∧ results = [.error (.unknownLevel "bogus"), .ok ()] ∧
      final.formats = [serviceFormat] ∧ final.level = .int 30 := by
  -- The unknown name stands for no level, so the level is the one from before.
  have bare : ({} : RootLogger).formats = [] := rfl
  obtain ⟨_, handled, levels, _⟩ :=
    configured_by_first bare [.text "bogus", .text "DEBUG"]
  refine ⟨bare, rfl, handled (by simp), ?_⟩
  rcases levels _ _ rfl with stands | ⟨_, level⟩
  · -- The first name is not listed.
    exact absurd (readLevel_eq_some_iff.mpr stands) nofun
  · exact level

/-- A setup that fails leaves a handler behind, which keeps the next one from setting a level that
it would have set without the failed one. -/
theorem handler_left_by_failed_setup :
    let (after, result) := ({} : RootLogger).configure (.text "bogus")
    result = .error (.unknownLevel "bogus") ∧ ({} : RootLogger).formats = [] ∧
      after.formats = [serviceFormat] ∧
      (after.configure (.text "DEBUG")).2 = .ok () ∧
      (after.configure (.text "DEBUG")).1.level = .int 30 ∧
      (({} : RootLogger).configure (.text "DEBUG")).1.level = .int 10 :=
  -- Adding the handler and reading the level are two steps, of which the second fails.
  ⟨rfl, rfl, rfl, rfl, rfl, rfl⟩

end ModelServing.RootLogger
