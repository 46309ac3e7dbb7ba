import ModelServing.Text.Utf8

/-! A text can be decoded line by line: no character reaches over a line feed, well-formed or
not. -/

namespace ModelServing.Text.Utf8

/-- The second byte of a character is no ASCII byte. -/
theorem le_secondRange (lead : Nat) : 0x80 ≤ (secondRange lead).1 := by
  -- Some lead bytes narrow the range of all continuation bytes, but none reaches below it.
  unfold secondRange
  repeat' split
  all_goals decide

/-- Continuation bytes are collected up to a line feed at most, whatever comes behind it. -/
theorem continuation_feed (more : Nat) {range : Nat × Nat} (high : 0x80 ≤ range.1)
    (value taken : Nat) (before after : List UInt8) :
    continuation more range value taken (before ++ 10 :: after)
        = continuation more range value taken (before ++ [10]) ∧
      (continuation more range value taken (before ++ [10])).2 ≤ taken + before.length := by
  -- Each byte before the line feed is either taken or the last one that is looked at.
  induction before generalizing more range value taken with
  | nil =>
    cases more with
    | zero => exact ⟨rfl, Nat.le_refl taken⟩
    | succ more =>
      -- The line feed itself continues nothing.
      have low : ¬range.1 ≤ 10 := by omega
      simp [continuation, low]
  | cons byte rest ih =>
    cases more with
    | zero => exact ⟨rfl, Nat.le_add_right taken _⟩
    | succ more =>
      simp only [List.cons_append, continuation]
      split
      · -- From the third byte on, the range is the one of all continuation bytes.
        have later : 0x80 ≤ ((0x80, 0xBF) : Nat × Nat).1 := Nat.le_refl 0x80
        obtain ⟨same, bound⟩ := ih more later (value * 64 + byte.toNat % 64) (taken + 1)
        refine ⟨same, Nat.le_trans bound ?_⟩
        rw [List.length_cons]
        omega
      · exact ⟨rfl, Nat.le_add_right taken _⟩

/-- What stands at the head of a line is read from the line alone. -/
theorem read_feed (first : UInt8) (before after : List UInt8) :
    read first (before ++ 10 :: after) = read first (before ++ [10]) ∧
      (read first (before ++ [10])).2 ≤ before.length := by
  -- A lead byte has its continuation bytes collected; any other byte stands alone.
  have collected (more value : Nat) :=
    continuation_feed more (le_secondRange first.toNat) value 0 before after
  simp only [Nat.zero_add] at collected
  unfold read
  dsimp only
  split
  · exact ⟨rfl, Nat.zero_le _⟩
  split
  · exact ⟨rfl, Nat.zero_le _⟩
  split
  · exact collected 1 _
  split
  · exact collected 2 _
  split
  · exact collected 3 _
  · exact ⟨rfl, Nat.zero_le _⟩

/-- The readings of a text are those of its first line and those of what follows the line. -/
theorem readings_append_feed (before after : List UInt8) :
    readings (before ++ 10 :: after) = readings (before ++ [10]) ++ readings after := by
  -- Each reading takes at least one byte of the line, and none behind the line feed.
  induction length : before.length using Nat.strongRecOn generalizing before with
  | _ size ih =>
    cases before with
    | nil => simp [readings, read]
    | cons first rest =>
      obtain ⟨same, bound⟩ := read_feed first rest after
      have shorter : (rest.drop (read first (rest ++ [10])).2).length < size := by
        rw [List.length_cons] at length
        rw [List.length_drop]
        omega
      have later := ih _ shorter (rest.drop (read first (rest ++ [10])).2) rfl
      simp only [List.cons_append, readings, same, List.drop_append_of_le_length bound, later]

/-- A text is decoded line by line. -/
theorem decodeLossy_append_feed (before after : List UInt8) :
    decodeLossy (before ++ 10 :: after) = decodeLossy (before ++ [10]) ++ decodeLossy after := by
  -- Each reading becomes a character of its own, whatever stands around it.
  rw [decodeLossy, readings_append_feed, List.map_append]
  rfl

/-- Lines that have ended, and what follows the last of them, are decoded one by one. -/
theorem decodeLossy_lines (lines : List (List UInt8)) (tail : List UInt8) :
    decodeLossy ((lines.map (· ++ [10])).flatten ++ tail)
      = ((lines.map (· ++ [10])).map decodeLossy).flatten ++ decodeLossy tail := by
  -- The first line is cut off at its line feed, and the others are left.
  induction lines with
  | nil => rfl
  | cons line rest ih =>
    have cut := decodeLossy_append_feed line ((rest.map (· ++ [10])).flatten ++ tail)
    simp only [List.map_cons, List.flatten_cons, List.append_assoc, List.cons_append,
      List.nil_append] at cut ih ⊢
    rw [cut, ih]

end ModelServing.Text.Utf8
