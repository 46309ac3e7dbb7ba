import ModelServing.Filesystem.Lookup
import ModelServing.Proofs.Filesystem.Removal

/-! Walks along names, and what is left of them when something else in the tree is removed. -/

namespace ModelServing

namespace Entry

/-- A tree that holds whatever another one holds apart from sockets, at the same names. -/
def Covers (root after : Entry) : Prop :=
  ∀ names entry, root.at? names = some entry → entry.isSocket = false →
    ∃ kept, after.at? names = some kept ∧ Alike entry kept

/-- A tree holds what it holds. -/
theorem covers_refl (root : Entry) : Covers root root :=
  -- Every entry is like itself.
  fun _ entry stands _ => ⟨entry, stands, Or.inl rfl⟩

/-- Such a tree has a directory wherever the other one has one. -/
theorem Covers.directory {root after : Entry} (covers : Covers root after) {names : List String}
    {entries : List (String × Entry)} (stands : root.at? names = some (.directory entries)) :
    ∃ others, after.at? names = some (.directory others) := by
  -- What is like a directory is one.
  obtain ⟨kept, stays, alike⟩ := covers names _ stands rfl
  obtain ⟨others, rfl⟩ := alike.exists_directory
  exact ⟨others, stays⟩

/-- Such a tree has the same link wherever the other one has one. -/
theorem Covers.link {root after : Entry} (covers : Covers root after) {names : List String}
    {target : String} (stands : root.at? names = some (.link target)) :
    after.at? names = some (.link target) := by
  -- A link is no directory, so what is like it is the same.
  obtain ⟨kept, stays, alike⟩ := covers names _ stands rfl
  rwa [alike.eq_of_leaf rfl] at stays

/-- Removing a socket takes nothing else away. -/
theorem covers_set_none {root : Entry} {gone : List String}
    (socket : root.at? gone = some .socket) : Covers root (root.set none gone) := by
  -- Everything that is left stands where it stood, apart from the directories on the way, which are
  -- still directories.
  by_cases whole : gone = []
  · subst whole
    exact covers_refl root
  · intro names entry stands other
    have lacks := lacks_set_none whole socket
    -- No names lead through the socket but its own.
    have apart : ¬gone <+: names := by
      rintro ⟨more, rfl⟩
      rw [at?_append, socket, Option.bind_some] at stands
      cases more with
      | nil =>
        rw [at?, Option.some.injEq] at stands
        subst stands
        cases other
      | cons name rest => cases stands
    have alike := lacks.rel_at? apart
    rw [stands] at alike
    generalize (root.set none gone).at? names = kept at alike ⊢
    cases alike with
    | some alike => exact ⟨_, rfl, alike⟩

end Entry

namespace Filesystem

open Entry (Covers Alike)

/-- A name that stands for an entry of the directory that it is looked up in. -/
structure Proper (name : String) : Prop where
  own : name ≠ "."
  below : name ≠ ".."
  short : ¬nameLimit < name.utf8ByteSize

/-- How a walk that reaches a place passes its first name. -/
inductive Passes (root : Entry) (follow : Bool)
    (pass : (reached ahead : List String) → Except Errno Place) (reached rest : List String)
    (place : Place) : (name : String) → Prop
  | here (onward : advance root follow pass reached rest = .ok place) :
    Passes root follow pass reached rest place "."
  | up (onward : advance root follow pass reached.dropLast rest = .ok place) :
    Passes root follow pass reached rest place ".."
  | free {name : String} (proper : Proper name) (absent : root.at? (reached ++ [name]) = none)
    (final : rest = []) (reaches : place = .free (reached ++ [name])) :
    Passes root follow pass reached rest place name
  /-- The link at the end is not passed. -/
  | stop {name target : String} (proper : Proper name)
    (stands : root.at? (reached ++ [name]) = some (.link target)) (final : rest = [])
    (unfollowed : follow = false) (reaches : place = .taken (reached ++ [name]) (.link target)) :
    Passes root follow pass reached rest place name
  | link {name target : String} (proper : Proper name)
    (stands : root.at? (reached ++ [name]) = some (.link target))
    (followed : (rest.isEmpty && !follow) = false)
    (onward : pass (if Path.isAbsolute target then [] else reached) (spelled target ++ rest)
      = .ok place) :
    Passes root follow pass reached rest place name
  | on {name : String} {entry : Entry} (proper : Proper name)
    (stands : root.at? (reached ++ [name]) = some entry)
    (unlinked : ∀ target, entry ≠ .link target)
    (onward : advance root follow pass (reached ++ [name]) rest = .ok place) :
    Passes root follow pass reached rest place name

variable {root after : Entry} {follow : Bool}
  {pass onward : (reached ahead : List String) → Except Errno Place}
  {reached ahead rest names : List String} {name : String} {entry : Entry} {place : Place}

/-- A walk reaches a place exactly if it starts in a directory and passes its first name. -/
theorem advance_cons_iff :
    advance root follow pass reached (name :: rest) = .ok place ↔
      (∃ entries, root.at? reached = some (.directory entries)) ∧
        Passes root follow pass reached rest place name := by
  -- The cases are the kinds of entries that the name can lead to, and those it can be passed in.
  constructor
  · intro reaches
    -- Nothing but a directory lets the walk go on.
    obtain ⟨entries, start⟩ : ∃ entries, root.at? reached = some (.directory entries) := by
      rw [advance] at reaches
      split at reaches
      · exact ⟨_, by assumption⟩
      · cases reaches
      · cases reaches
    refine ⟨⟨entries, start⟩, ?_⟩
    rw [advance, start] at reaches
    by_cases own : name = "."
    · subst own
      exact .here (by simpa using reaches)
    by_cases below : name = ".."
    · subst below
      exact .up (by simpa using reaches)
    by_cases long : nameLimit < name.utf8ByteSize
    · simp [own, below, long] at reaches
    -- The name is looked up in the directory, and what it stands for decides.
    have proper : Proper name := ⟨own, below, long⟩
    simp only [beq_iff_eq, own, below, long, if_false] at reaches
    split at reaches
    · rename_i absent
      split at reaches
      · rename_i final
        exact .free proper absent (List.isEmpty_iff.mp final) (Except.ok.inj reaches).symm
      · cases reaches
    · rename_i target stands
      split at reaches
      · rename_i kept
        rw [Bool.and_eq_true, List.isEmpty_iff, Bool.not_eq_true'] at kept
        exact .stop proper stands kept.1 kept.2 (Except.ok.inj reaches).symm
      · rename_i followed
        exact .link proper stands (by simpa using followed) reaches
    · rename_i found unlinked stands
      exact .on proper stands (fun target same => unlinked target (same ▸ rfl)) reaches
  · rintro ⟨⟨entries, start⟩, passes⟩
    rw [advance, start]
    cases passes with
    | here onward => exact onward
    | up onward => exact onward
    | free proper absent final reaches =>
      simp [proper.own, proper.below, proper.short, absent, final, reaches]
    | stop proper stands final unfollowed reaches =>
      simp [proper.own, proper.below, proper.short, stands, final, unfollowed, reaches]
    | link proper stands followed onward =>
      simp [proper.own, proper.below, proper.short, stands, followed, onward]
    | on proper stands unlinked onward =>
      simpa [proper.own, proper.below, proper.short, stands, unlinked] using onward

/-- A walk along no names stays where it is. -/
theorem advance_nil_iff :
    advance root follow pass reached [] = .ok place ↔
      ∃ entry, root.at? reached = some entry ∧ place = .taken reached entry := by
  -- With no names left, the walk ends where it is.
  rw [advance]
  cases root.at? reached with
  | none => simp
  | some entry => simp [eq_comm]

/-- What a walk along names ends at stands at the names that it tells. -/
theorem at?_of_advance
    (stands : ∀ {reached ahead names entry}, pass reached ahead = .ok (.taken names entry) →
      root.at? names = some entry)
    (reaches : advance root follow pass reached ahead = .ok (.taken names entry)) :
    root.at? names = some entry := by
  -- Induction on the names, each of which is passed in one of the few ways.
  induction ahead generalizing reached with
  | nil =>
    obtain ⟨found, there, same⟩ := advance_nil_iff.mp reaches
    cases same
    exact there
  | cons name rest ih =>
    obtain ⟨_, passes⟩ := advance_cons_iff.mp reaches
    cases passes with
    | here onward | up onward => exact ih onward
    | free _ _ _ reaches => cases reaches
    | stop _ there _ _ reaches =>
      cases reaches
      exact there
    | link _ _ _ onward => exact stands onward
    | on _ _ _ onward => exact ih onward

/-- What a walk through links ends at stands at the names that it tells. -/
theorem at?_of_walk {links : Nat}
    (reaches : walk root follow links reached ahead = .ok (.taken names entry)) :
    root.at? names = some entry := by
  -- Induction on the links that may still be passed.
  induction links generalizing reached ahead names entry with
  | zero =>
    -- A walk that may pass no link fails at the first one.
    refine at?_of_advance ?_ reaches
    rintro _ _ _ _ ⟨⟩
  | succ links ih => exact at?_of_advance ih reaches

/-- A walk that ends at no socket starts at none. -/
theorem start_of_advance
    (reaches : advance root follow pass reached ahead = .ok (.taken names entry))
    (other : entry.isSocket = false) :
    ∃ start, root.at? reached = some start ∧ start.isSocket = false := by
  -- Names are passed in directories, which are no sockets.
  cases ahead with
  | nil =>
    obtain ⟨found, there, same⟩ := advance_nil_iff.mp reaches
    cases same
    exact ⟨entry, there, other⟩
  | cons name rest =>
    obtain ⟨⟨entries, start⟩, _⟩ := advance_cons_iff.mp reaches
    exact ⟨_, start, rfl⟩

/-- A walk that ends at no socket goes the same way in a tree that holds everything but sockets, if
it does so from the links on. -/
theorem advance_of_covers (covers : Covers root after)
    (passed : ∀ {reached ahead names entry}, pass reached ahead = .ok (.taken names entry) →
      entry.isSocket = false →
      ∃ kept, onward reached ahead = .ok (.taken names kept) ∧ Alike entry kept)
    (reaches : advance root follow pass reached ahead = .ok (.taken names entry))
    (other : entry.isSocket = false) :
    ∃ kept, advance after follow onward reached ahead = .ok (.taken names kept) ∧
      Alike entry kept := by
  -- Induction on the names; each is passed in the same way in both trees.
  induction ahead generalizing reached with
  | nil =>
    obtain ⟨found, there, same⟩ := advance_nil_iff.mp reaches
    cases same
    obtain ⟨kept, stays, alike⟩ := covers _ _ there other
    exact ⟨kept, advance_nil_iff.mpr ⟨kept, stays, rfl⟩, alike⟩
  | cons name rest ih =>
    obtain ⟨⟨entries, start⟩, passes⟩ := advance_cons_iff.mp reaches
    -- The directory that the walk starts in is still one, so that its first name can be passed.
    have still := covers.directory start
    cases passes with
    | here further =>
      obtain ⟨kept, reached, alike⟩ := ih further
      exact ⟨kept, advance_cons_iff.mpr ⟨still, .here reached⟩, alike⟩
    | up further =>
      obtain ⟨kept, reached, alike⟩ := ih further
      exact ⟨kept, advance_cons_iff.mpr ⟨still, .up reached⟩, alike⟩
    | free _ _ _ reaches => cases reaches
    | stop proper there final unfollowed reaches =>
      cases reaches
      have stays := covers.link there
      exact ⟨_, advance_cons_iff.mpr ⟨still, .stop proper stays final unfollowed rfl⟩, .inl rfl⟩
    | link proper there followed further =>
      have stays := covers.link there
      obtain ⟨kept, reached, alike⟩ := passed further other
      exact ⟨kept, advance_cons_iff.mpr ⟨still, .link proper stays followed reached⟩, alike⟩
    | on proper there unlinked further =>
      -- What the name stands for is no socket, or the walk would end there.
      obtain ⟨found, same, passable⟩ := start_of_advance further other
      rw [there, Option.some.injEq] at same
      subst same
      obtain ⟨next, stays, like⟩ := covers _ _ there passable
      obtain ⟨kept, reached, alike⟩ := ih further
      refine ⟨kept, advance_cons_iff.mpr ⟨still, .on proper stays ?_ reached⟩, alike⟩
      rintro target rfl
      rcases like with same | ⟨_, directory⟩
      · exact unlinked target same
      · cases directory

/-- A walk through links that ends at no socket goes the same way in a tree that holds everything
but sockets. -/
theorem walk_of_covers (covers : Covers root after) {links : Nat}
    (reaches : walk root follow links reached ahead = .ok (.taken names entry))
    (other : entry.isSocket = false) :
    ∃ kept, walk after follow links reached ahead = .ok (.taken names kept) ∧
      Alike entry kept := by
  -- Induction on the links that may still be passed.
  induction links generalizing reached ahead names entry with
  | zero =>
    -- Without links to pass, nothing is left to say of them.
    refine advance_of_covers covers ?_ reaches other
    rintro _ _ _ _ ⟨⟩
  | succ links ih => exact advance_of_covers covers ih reaches other

/-- The last name of a walk is passed in a directory, to which the names before it lead alone. A
link at the end of all names is passed or not. -/
theorem advance_front {tail : List String} (short : tail = [] ∨ tail = ["."])
    (passed : ∀ {reached ahead place}, pass reached (ahead ++ [name]) = .ok place →
      ∃ there entries last, onward reached (ahead ++ tail) = .ok (.taken there (.directory entries)) ∧
        Passes root follow last there [] place name)
    (reaches : advance root follow pass reached (ahead ++ [name]) = .ok place) :
    ∃ there entries last, advance root true onward reached (ahead ++ tail)
        = .ok (.taken there (.directory entries)) ∧ Passes root follow last there [] place name := by
  -- Where the names end, the directory is the one in which the last name is looked up.
  induction ahead generalizing reached with
  | nil =>
    obtain ⟨⟨entries, start⟩, passes⟩ := advance_cons_iff.mp reaches
    have stays : advance root true onward reached [] = .ok (.taken reached (.directory entries)) :=
      advance_nil_iff.mpr ⟨_, start, rfl⟩
    rcases short with rfl | rfl
    · exact ⟨reached, entries, pass, stays, passes⟩
    · exact ⟨reached, entries, pass,
        advance_cons_iff.mpr ⟨⟨entries, start⟩, .here stays⟩, passes⟩
  | cons first rest ih =>
    obtain ⟨start, passes⟩ := advance_cons_iff.mp reaches
    rw [List.append_eq] at passes
    cases passes with
    | here further =>
      obtain ⟨there, entries, last, reached, passes⟩ := ih further
      exact ⟨there, entries, last, advance_cons_iff.mpr ⟨start, .here reached⟩, passes⟩
    | up further =>
      obtain ⟨there, entries, last, reached, passes⟩ := ih further
      exact ⟨there, entries, last, advance_cons_iff.mpr ⟨start, .up reached⟩, passes⟩
    | free _ _ final _ => simp at final
    | stop _ _ final _ _ => simp at final
    | link proper stands followed further =>
      -- The names behind the link end in the same name.
      rw [← List.append_assoc] at further
      obtain ⟨there, entries, last, reached, passes⟩ := passed further
      rw [List.append_assoc] at reached
      exact ⟨there, entries, last,
        advance_cons_iff.mpr ⟨start, .link proper stands (by simp) reached⟩, passes⟩
    | on proper stands unlinked further =>
      obtain ⟨there, entries, last, reached, passes⟩ := ih further
      exact ⟨there, entries, last,
        advance_cons_iff.mpr ⟨start, .on proper stands unlinked reached⟩, passes⟩

/-- The last name of a walk through links is passed in a directory, to which the names before it
lead alone. -/
theorem walk_front {tail : List String} (short : tail = [] ∨ tail = ["."]) {links : Nat}
    (reaches : walk root follow links reached (ahead ++ [name]) = .ok place) :
    ∃ there entries last, walk root true links reached (ahead ++ tail)
        = .ok (.taken there (.directory entries)) ∧ Passes root follow last there [] place name := by
  -- Induction on the links that may still be passed; the last name is reached through the ones
  -- before it.
  induction links generalizing reached ahead place with
  | zero =>
    refine advance_front short ?_ reaches
    rintro _ _ _ ⟨⟩
  | succ links ih => exact advance_front short ih reaches

/-- A tree in which a directory stands holds a directory above it. -/
theorem directory_above {there : List String} {entries : List (String × Entry)}
    (stands : root.at? there = some (.directory entries)) :
    ∃ others, root.at? there.dropLast = some (.directory others) := by
  -- What has an entry is a directory.
  rcases List.eq_nil_or_concat there with rfl | ⟨above, name, rfl⟩
  · exact ⟨entries, stands⟩
  · rw [List.concat_eq_append, Entry.at?_append, Option.bind_eq_some_iff] at stands
    obtain ⟨entry, holds, child⟩ := stands
    rw [List.concat_eq_append, List.dropLast_concat]
    cases entry with
    | directory others => exact ⟨others, holds⟩
    | _ => cases child

/-- A last name that is passed in a directory and leads to anything but a directory stands for an
entry of that directory. -/
theorem Passes.holds {there : List String} {entries : List (String × Entry)}
    (start : root.at? there = some (.directory entries))
    (passes : Passes root false pass there [] (.taken names entry) name)
    (leaf : entry.isDirectory = false) : Proper name ∧ names = there ++ [name] := by
  -- Of the ways to pass a name, the others end at directories.
  cases passes with
  | here onward =>
    -- The directory itself would be what the name leads to.
    obtain ⟨found, stands, same⟩ := advance_nil_iff.mp onward
    cases same
    rw [start, Option.some.injEq] at stands
    rw [← stands] at leaf
    cases leaf
  | up onward =>
    obtain ⟨found, stands, same⟩ := advance_nil_iff.mp onward
    cases same
    obtain ⟨others, above⟩ := directory_above start
    rw [above, Option.some.injEq] at stands
    rw [← stands] at leaf
    cases leaf
  | free _ _ _ reaches => cases reaches
  | stop proper _ _ _ reaches =>
    cases reaches
    exact ⟨proper, rfl⟩
  | link _ _ followed _ => simp at followed
  | on proper _ _ onward =>
    obtain ⟨found, stands, same⟩ := advance_nil_iff.mp onward
    cases same
    exact ⟨proper, rfl⟩

end Filesystem

end ModelServing
