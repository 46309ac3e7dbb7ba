/-! Line ends of a text. -/

namespace ModelServing.Text

/-- Characters with every carriage return, alone or before a line feed, read as a line feed. -/
def unifyLineEnds : List Char → List Char
  | [] => []
  | '\r' :: '\n' :: rest => '\n' :: unifyLineEnds rest
  | '\r' :: rest => '\n' :: unifyLineEnds rest
  | c :: rest => c :: unifyLineEnds rest

/-- The characters before the first line feed. -/
def firstLine (cs : List Char) : List Char := cs.takeWhile (· != '\n')

/-- The parts of a list before each element that ends one, and what follows the last of those. -/
def splitEnds {α : Type} (isEnd : α → Bool) : List α → List (List α) × List α
  -- The recursion is on the rest, so the first element joins the first part of what that gives.
  | [] => ([], [])
  | a :: rest =>
    let (lines, tail) := splitEnds isEnd rest
    if isEnd a then ([] :: lines, tail)
    else
      match lines with
      | [] => ([], a :: tail)
      | line :: more => ((a :: line) :: more, tail)

/-- Neither a part nor what follows the last of them holds an end. -/
theorem splitEnds_unended {α : Type} (isEnd : α → Bool) (items : List α) :
    ∀ part ∈ (splitEnds isEnd items).2 :: (splitEnds isEnd items).1, ∀ a ∈ part, isEnd a = false := by
  -- A part starts empty at its end, and it only takes elements that are no ends, as the tail does.
  induction items with
  | nil => simp [splitEnds]
  | cons a rest ih =>
    unfold splitEnds
    generalize splitEnds isEnd rest = parts at ih
    obtain ⟨lines, tail⟩ := parts
    by_cases ends : isEnd a = true
    · simpa [ends] using ih
    · cases lines with
      | nil => simpa [ends] using ih
      | cons line more => simpa [ends] using ih

/-- The parts with their ends, and what follows the last of them, are the whole list. -/
theorem flatten_splitEnds {α : Type} [BEq α] [LawfulBEq α] (ending : α) (items : List α) :
    ((splitEnds (· == ending) items).1.map (· ++ [ending])).flatten
      ++ (splitEnds (· == ending) items).2 = items := by
  -- Each element is the end of an empty part, or joins the part that follows it.
  induction items with
  | nil => rfl
  | cons a rest ih =>
    unfold splitEnds
    generalize splitEnds (· == ending) rest = parts at ih
    obtain ⟨lines, tail⟩ := parts
    by_cases ends : a = ending
    · subst ends
      simpa using ih
    · cases lines with
      | nil => simpa [ends] using ih
      | cons line more => simpa [ends] using ih

/-- Without an end among them, the elements before a list join its first part. -/
theorem splitEnds_append_of_open {α : Type} {isEnd : α → Bool} {items : List α}
    (unended : ∀ a ∈ items, isEnd a = false) (rest : List α) :
    splitEnds isEnd (items ++ rest) =
      match splitEnds isEnd rest with
      | ([], tail) => ([], items ++ tail)
      | (line :: more, tail) => ((items ++ line) :: more, tail) := by
  -- Each of the elements goes in front of whatever the rest starts with.
  induction items with
  | nil =>
    rw [List.nil_append]
    rcases splitEnds isEnd rest with ⟨_ | ⟨line, more⟩, tail⟩ <;> rfl
  | cons a items ih =>
    have here : isEnd a = false := unended a List.mem_cons_self
    have later := ih fun b member => unended b (List.mem_cons_of_mem a member)
    simp only [List.cons_append, splitEnds, here, later]
    rcases splitEnds isEnd rest with ⟨_ | ⟨line, more⟩, tail⟩ <;> rfl

/-- Splitting can be interrupted: what follows the last end is then split with what comes after. -/
theorem splitEnds_append {α : Type} (isEnd : α → Bool) (items rest : List α) :
    splitEnds isEnd (items ++ rest) =
      ((splitEnds isEnd items).1 ++ (splitEnds isEnd ((splitEnds isEnd items).2 ++ rest)).1,
        (splitEnds isEnd ((splitEnds isEnd items).2 ++ rest)).2) := by
  -- An end starts a part of its own; any other element belongs to the first part, or to the tail.
  induction items with
  | nil => rfl
  | cons a items ih =>
    simp only [List.cons_append, splitEnds, ih]
    rcases splitEnds isEnd items with ⟨_ | ⟨line, more⟩, tail⟩
    · cases ends : isEnd a with
      | true => rfl
      | false => simp [splitEnds, ends]
    · cases ends : isEnd a <;> rfl

end ModelServing.Text
