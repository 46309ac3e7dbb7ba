import ModelServing.Proofs.Console.PlainDisplay

/-! How a text is shown that begins with a heading in markup. -/

namespace ModelServing.Console

open ModelServing.Text

/-- Whether a character means the same wherever it stands in a text with markup, tags apart. -/
def isPlain (c : Char) : Bool := c != '\\' && c != '['

/-- Plain characters begin no tag. -/
theorem tag?_of_plain {c : Char} (plain : isPlain c = true) (rest : List Char) :
    tag? (c :: rest) = none := by
  -- A tag begins with backslashes and then a bracket, and a plain character is neither of them.
  simp only [isPlain, Bool.and_eq_true, bne_iff_ne] at plain
  obtain ⟨backslash, bracket⟩ := plain
  rw [tag?, List.dropWhile_cons_of_neg (by simpa using backslash)]
  split
  · rename_i same
    exact absurd (List.cons.inj same).1 bracket
  · rfl

theorem piecesFrom_of_tag {cs body rest : List Char} {count : Nat} (chunk : List Char)
    (found : tag? cs = some (count, body, rest)) :
    piecesFrom chunk cs = plainPiece chunk ++ tagPieces count body ++ piecesFrom [] rest := by
  -- The recursion is well-founded, so its equation for this case is opened here and cited from then
  -- on.
  rw [piecesFrom]
  split <;> simp_all

theorem piecesFrom_cons {c : Char} {rest : List Char} (chunk : List Char)
    (absent : tag? (c :: rest) = none) :
    piecesFrom chunk (c :: rest) = piecesFrom (chunk ++ [c]) rest := by
  -- Without a tag, the recursion takes the single character and goes on behind it.
  rw [piecesFrom]
  split
  · simp_all
  · rfl

theorem piecesFrom_nil (chunk : List Char) : piecesFrom chunk [] = plainPiece chunk := by
  -- No tag begins at the end of a text.
  rw [piecesFrom]
  split
  · next found => cases found
  · rfl

/-- Plain characters join the characters read before them. -/
theorem piecesFrom_of_plain {cs : List Char} (plain : ∀ c ∈ cs, isPlain c = true)
    (chunk rest : List Char) : piecesFrom chunk (cs ++ rest) = piecesFrom (chunk ++ cs) rest := by
  -- Induction on the plain characters, with the characters read before them left open.
  induction cs generalizing chunk with
  | nil => simp
  | cons c more ih =>
    rw [List.cons_append, piecesFrom_cons chunk (tag?_of_plain (plain c List.mem_cons_self) _),
      ih fun d member => plain d (List.mem_cons_of_mem c member)]
    simp

/-- Plain characters stay as they are where escaped brackets are read. -/
theorem unescapeBrackets_of_plain {cs : List Char} (plain : ∀ c ∈ cs, isPlain c = true)
    (rest : List Char) : unescapeBrackets (cs ++ rest) = cs ++ unescapeBrackets rest := by
  -- Only a backslash makes the reading look at what follows, and no plain character is one.
  induction cs with
  | nil => rfl
  | cons c more ih =>
    have backslash : c ≠ '\\' := fun same => by
      simpa [isPlain, same] using plain c List.mem_cons_self
    rw [List.cons_append, unescapeBrackets, ih fun d member =>
      plain d (List.mem_cons_of_mem c member), List.cons_append]
    exact fun _ same => absurd same backslash

/-- Characters before the first colon stay as they are where names between colons are replaced. -/
theorem expandShortcodes_of_not_mem {cs : List Char} (colonless : ':' ∉ cs) (rest : List Char) :
    expandShortcodes (cs ++ rest) = cs ++ expandShortcodes rest := by
  -- Induction on the characters in front, each of which is kept.
  induction cs with
  | nil => rfl
  | cons c more ih =>
    rw [List.mem_cons, not_or] at colonless
    rw [List.cons_append, expandShortcodes_of_other (Ne.symm colonless.1), ih colonless.2,
      List.cons_append]

/-- A colon that ends a text without others is no part of a name. -/
theorem expandShortcodes_of_last_colon {cs : List Char} (colonless : ':' ∉ cs) :
    expandShortcodes (cs ++ [':']) = cs ++ [':'] := by
  -- Behind the last colon there is nothing that a name could consist of.
  rw [expandShortcodes_of_not_mem colonless, expandShortcodes_of_colon rfl, expandShortcodes]

/-- The colour of headings. -/
def red : List Char := ['r', 'e', 'd']

/-- A word in red and a text after it, in markup. -/
def redHeading (word text : List Char) : List Char :=
  '[' :: red ++ ']' :: (word ++ '[' :: '/' :: red ++ ']' :: text)

/-- The pieces of a text with such a heading. -/
theorem pieces_redHeading {word : List Char} (words : ∀ c ∈ word, isPlain c = true)
    (someWord : word ≠ []) (text : List Char) :
    pieces (redHeading word text)
      = .opening { name := red } :: .plain word :: .closing red :: pieces text := by
  -- The text is read tag by tag, with the plain characters between them.
  have opens : ∀ cs : List Char, tag? ('[' :: red ++ ']' :: cs) = some (0, red, cs) :=
    fun _ => rfl
  have closes : ∀ cs : List Char, tag? ('[' :: '/' :: red ++ ']' :: cs) = some (0, '/' :: red, cs) :=
    fun _ => rfl
  have shape : redHeading word text
      = '[' :: red ++ ']' :: (word ++ ('[' :: '/' :: red ++ ']' :: text)) := by
    simp [redHeading]
  have piece : plainPiece word = [.plain word] := by simp [plainPiece, someWord]
  rw [pieces, shape, piecesFrom_of_tag [] (opens _), piecesFrom_of_plain words, List.nil_append,
    piecesFrom_of_tag word (closes _), piece]
  rfl

/-- A text between a tag and the one that closes it is shown without them. -/
theorem showPieces_enclosed {name : List Char} (normal : Style.normalName name = .ok name)
    (named : name.isEmpty = false) (checked : checkTag { name } = .ok ()) (cs : List Char)
    (rest : List Piece) :
    showPieces [] (.opening { name } :: .plain cs :: .closing name :: rest)
      = (showPieces [] rest).map fun shown => expandShortcodes (unescapeBrackets cs) ++ shown := by
  -- The tag that closes meets the one tag that is open.
  have closed : close? name [{ name }] = some ({ name }, []) := by simp [close?]
  simp only [showPieces, normal, named, closed, checked, bind, Except.bind, pure, Except.pure,
    Bool.false_eq_true, if_false]
  cases showPieces [] rest <;> rfl

/-- What is shown for a text with such a heading is the word and what is shown for the text. -/
theorem showMarkup_redHeading {word : List Char} (words : ∀ c ∈ word, isPlain c = true)
    (someWord : word ≠ []) (text : List Char) :
    showMarkup (redHeading word text)
      = (showPieces [] (pieces text)).map fun shown => expandShortcodes word ++ shown := by
  -- The heading is an enclosed piece, and its plain characters stand for themselves.
  have marked : (redHeading word text).contains '[' = true := rfl
  have kept : unescapeBrackets word = word := by
    simpa [unescapeBrackets] using unescapeBrackets_of_plain words []
  have normal : Style.normalName red = .ok red := rfl
  rw [showMarkup, if_pos marked, pieces_redHeading words someWord,
    showPieces_enclosed normal rfl rfl, kept]

section Lines

end Lines

end ModelServing.Console
