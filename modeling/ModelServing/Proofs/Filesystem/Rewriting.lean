import Mathlib.Tactic.SplitIfs
import ModelServing.Filesystem.Change

/-! What paths lead to after a file was given another content. -/

namespace ModelServing

namespace Entry

/-- The entries of a directory in which a file is replaced keep their names and their order. -/
theorem putFileIn_eq_map (new : File) (entries : List (String × Entry)) :
    putFileIn new entries = entries.map fun child => (child.1, putFile new child.2) := by
  -- Induction on the entries, each of which is replaced on its own.
  induction entries with
  | nil => rfl
  | cons first rest ih => rw [putFileIn, ih, List.map_cons]

/-- A name leads to what it led to before a file was replaced, with the file replaced there as
well. -/
theorem child?_putFile (new : File) (name : String) (tree : Entry) :
    (tree.putFile new).child? name = (tree.child? name).map (putFile new) := by
  -- Names are not touched, so the same entry is found.
  cases tree with
  | directory entries =>
    -- The search looks at the names alone, and these are the same.
    simp only [putFile, child?, Entry.entries, putFileIn_eq_map, List.find?_map, Option.map_map,
      Function.comp_def]
  | _ => rfl

/-- Names lead to what they led to before a file was replaced, with the file replaced there as
well. -/
theorem at?_putFile (new : File) (names : List String) (tree : Entry) :
    (tree.putFile new).at? names = (tree.at? names).map (putFile new) := by
  -- Induction on the names, each of which is passed alike.
  induction names generalizing tree with
  | nil => rfl
  | cons name rest ih =>
    rw [at?, at?, child?_putFile]
    cases tree.child? name with
    | none => rfl
    | some child => exact ih child

end Entry

namespace Filesystem

open Entry (at?_putFile)

/-- A place in a tree after a file was replaced there. -/
def Place.putFile (new : File) : Place → Place
  | .taken names entry => .taken names (entry.putFile new)
  | .free names => .free names

/-- A walk goes on as before a file was replaced, if what it hands over at links does. -/
theorem advance_putFile (new : File) (root : Entry) (follow : Bool)
    {pass onward : (reached ahead : List String) → Except Errno Place}
    (same : ∀ reached ahead, onward reached ahead = (pass reached ahead).map (Place.putFile new))
    (reached ahead : List String) :
    advance (root.putFile new) follow onward reached ahead
      = (advance root follow pass reached ahead).map (Place.putFile new) := by
  -- Each name is met by an entry of the same kind, whose links are the same.
  induction ahead generalizing reached with
  | nil =>
    rw [advance, advance, at?_putFile]
    cases root.at? reached <;> rfl
  | cons name rest ih =>
    rw [advance, advance, at?_putFile]
    cases root.at? reached with
    | none => rfl
    | some entry =>
      cases entry with
      | directory entries =>
        simp only [Option.map_some, Entry.putFile, ih, at?_putFile]
        cases root.at? (reached ++ [name]) with
        | none =>
          simp only [Option.map_none]
          split_ifs <;> rfl
        | some entry =>
          cases entry with
          | link target =>
            simp only [Option.map_some, Entry.putFile, same]
            split_ifs <;> rfl
          | _ =>
            simp only [Option.map_some, Entry.putFile]
            split_ifs <;> rfl
      | _ => rfl

/-- A walk that may pass a number of links goes on as before a file was replaced. -/
theorem walk_putFile (new : File) (root : Entry) (follow : Bool) (links : Nat)
    (reached ahead : List String) :
    walk (root.putFile new) follow links reached ahead
      = (walk root follow links reached ahead).map (Place.putFile new) := by
  -- Induction on the links that are left, since passing one begins a walk with one less.
  induction links generalizing reached ahead with
  | zero =>
    rw [walk, walk]
    exact @advance_putFile new root follow (fun _ _ => .error .tooManyLinks) _ (fun _ _ => rfl) reached
      ahead
  | succ links ih => exact advance_putFile new root follow ih reached ahead

/-- The file system in which a file is replaced. -/
def putFile (new : File) (fs : Filesystem) : Filesystem := { fs with root := fs.root.putFile new }

/-- A path leads to the same place as before a file was replaced. -/
theorem place_putFile (new : File) (fs : Filesystem) (follow : Bool) (path : String) :
    (fs.putFile new).place follow path = (fs.place follow path).map (Place.putFile new) := by
  -- What the walk starts from and passes is not changed by replacing a file.
  have walked := walk_putFile new fs.root follow linkLimit
    (if Path.isAbsolute path then [] else fs.current) (spelled path)
  unfold place
  rw [show (fs.putFile new).root = fs.root.putFile new from rfl,
    show (fs.putFile new).current = fs.current from rfl, walked]
  -- The two refusals of the path itself come before the walk.
  by_cases empty : path.isEmpty
  · rw [if_pos empty, if_pos empty]
    rfl
  · rw [if_neg empty, if_neg empty]
    by_cases long : pathLimit < path.utf8ByteSize
    · rw [if_pos long, if_pos long]
      rfl
    · rw [if_neg long, if_neg long]

/-- A path leads to what it led to before a file was replaced, or fails to lead anywhere as it
did. -/
theorem status_putFile (new : File) (fs : Filesystem) (path : String) :
    (fs.putFile new).status path = (fs.status path).map (Entry.putFile new) := by
  -- The status is that of the place, which is the same.
  unfold status find
  rw [place_putFile]
  rcases fs.place true path with _ | ⟨_, _⟩ | _ <;> rfl

/-- If what a path leads to can be read, then writing there leaves every path lead to what it led
to, apart from the content. -/
theorem exists_status_of_write {fs other : Filesystem} {path : String} {old content : Content}
    (readable : fs.read path = .ok old) (written : fs.write path content false = .ok other) :
    ∃ change : Entry → Entry, ∀ path, other.status path = (fs.status path).map change := by
  -- Writing to what can be read replaces the content of a file, and nothing else.
  unfold read status find at readable
  unfold write at written
  cases reaches : fs.place true path with
  | error errno =>
    rw [reaches] at readable
    cases readable
  | ok place =>
    rw [reaches] at readable written
    cases place with
    | free names => cases readable
    | taken names entry =>
      cases entry with
      | file leaf =>
        cases written
        exact ⟨Entry.putFile { leaf with content }, status_putFile { leaf with content } fs⟩
      | pipe =>
        -- What is written there is gone.
        cases written
        exact ⟨id, fun path => by cases fs.status path <;> rfl⟩
      | directory entries | link target | socket => cases readable

end Filesystem

end ModelServing
