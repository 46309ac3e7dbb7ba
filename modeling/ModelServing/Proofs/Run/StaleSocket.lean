import ModelServing.Proofs.Filesystem.PathLookup
import ModelServing.Run.Server

/-! What the removal of a socket that was left behind changes. -/

namespace ModelServing.Run

open Entry (Alike Lacks lacks_set_none rel_alike_leaf_iff)

/-- For every path that the system can take, the removal of a socket ends without a failure and
changes one entry at most: the one that the path names, the last link not passed, if that is a
socket and the system does not refuse to remove it. Then it is gone from its directory, and every
other entry of the tree is as it was. A socket that the system refuses to remove is told in one
warning, and nothing is told otherwise. -/
theorem removeStaleSocket_changes (fs : Filesystem) (refused : Option Errno) {path : String}
    (clean : Filesystem.hasNull path = false) :
    ∃ after logs, removeStaleSocket fs refused path = .ok (after, logs) ∧
      after.current = fs.current ∧
      ((∃ names, fs.find false path = .ok (names, .socket) ∧ refused = none ∧ logs = [] ∧
          fs.root.at? names = some .socket ∧ after ≠ fs ∧
          Lacks .socket names fs.root after.root ∧
          (∀ other, ¬names <+: other →
            Option.Rel Alike (fs.root.at? other) (after.root.at? other)) ∧
          (fs.root.Distinct → ∀ other, names <+: other → after.root.at? other = none)) ∨
        (∃ names errno, fs.find false path = .ok (names, .socket) ∧ refused = some errno ∧
          after = fs ∧ logs = [.warning ("Failed to remove stale socket " ++ path ++ ": "
            ++ SystemError.message ⟨errno, path⟩)]) ∨
        ((∀ names, fs.find false path ≠ .ok (names, .socket)) ∧ after = fs ∧ logs = [])) := by
  -- The path leads nowhere, to no socket or to a socket, and only in the last case is anything
  -- asked of the system.
  by_cases socket : ∃ names, fs.find false path = .ok (names, .socket)
  · obtain ⟨names, found⟩ := socket
    cases refused with
    | some errno =>
      exact ⟨fs, _, by simp [removeStaleSocket, clean, found], rfl,
        .inr (.inl ⟨names, errno, found, rfl, rfl, rfl⟩)⟩
    | none =>
      -- The tree is left without the socket, and all else follows from that.
      have stands := Filesystem.at?_of_find found
      have lacks := lacks_set_none (Filesystem.names_ne_nil_of_find found rfl) stands
      exact ⟨fs.setAt names none, [], by simp [removeStaleSocket, clean, found], rfl,
        .inl ⟨names, found, rfl, rfl, stands, fun same => lacks.ne (congrArg Filesystem.root same),
          lacks, fun _ apart => lacks.rel_at? apart,
          fun distinct _ through => lacks.at?_eq_none distinct through⟩⟩
  · refine ⟨fs, [], ?_, rfl, .inr (.inr ⟨fun names found => socket ⟨names, found⟩, rfl, rfl⟩)⟩
    unfold removeStaleSocket
    simp only [clean, Bool.false_eq_true, if_false]
    split
    · rename_i names found
      exact absurd ⟨names, found⟩ socket
    · rfl

/-- A file system with two sockets, a link to one of them and a link to their directory. -/
def socketHost : Filesystem where
  -- Two of the paths to a socket have a link on the way, one of them in the last place.
  root := .directory [
    ("run", .directory [("a.sock", .socket), ("b.sock", .socket), ("to", .link "a.sock")]),
    ("there", .link "run")]
  current := ["run"]

/-- The socket that a path through a link names is removed, and the one beside it is not. -/
theorem removeStaleSocket_behind_link :
    ∃ after, removeStaleSocket socketHost none "../there/./b.sock" = .ok (after, []) ∧
      after.root.at? ["run", "b.sock"] = none ∧
      after.root.at? ["run", "a.sock"] = some .socket ∧
      after.root.at? ["run", "to"] = some (.link "a.sock") := by
  -- The path is resolved by evaluation, and the general statement tells what its removal leaves.
  have leads : socketHost.find false "../there/./b.sock" = .ok (["run", "b.sock"], .socket) := by
    have shown : (socketHost.find false "../there/./b.sock").map
        (fun reached => (reached.1, reached.2.isSocket)) = .ok (["run", "b.sock"], true) := by
      decide +kernel
    cases reached : socketHost.find false "../there/./b.sock" with
    | error errno => simp [reached, Except.map] at shown
    | ok place =>
      obtain ⟨names, entry⟩ := place
      cases entry <;> simp [reached, Except.map, Entry.isSocket] at shown
      rw [shown]
  obtain ⟨after, _, removed, _, ⟨names, found, _, rfl, _, _, _, others, gone⟩ |
    ⟨_, _, _, refused, _⟩ | ⟨unnamed, _⟩⟩ :=
    removeStaleSocket_changes socketHost none
      (show Filesystem.hasNull "../there/./b.sock" = false by decide)
  · rw [leads] at found
    cases found
    have distinct : socketHost.root.Distinct := by
      simp [socketHost, Entry.Distinct, Entry.DistinctIn]
    exact ⟨after, removed, gone distinct _ (List.prefix_refl _),
      (rel_alike_leaf_iff rfl).mp (others ["run", "a.sock"] (by decide)),
      (rel_alike_leaf_iff rfl).mp (others ["run", "to"] (by decide))⟩
  · cases refused
  · exact absurd leads (unnamed _)

end ModelServing.Run
