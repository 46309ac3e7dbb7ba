/-! Blank characters, and text with the blanks at its ends removed. -/

namespace ModelServing.Text

/-- Whether a code point lies in one of the ranges. -/
def inRanges (ranges : List (Nat × Nat)) (point : Nat) : Bool :=
  ranges.any fun range => range.1 ≤ point && point ≤ range.2

/-- Closed ranges of the Unicode white space characters, ascending and apart. -/
def whiteRanges : List (Nat × Nat) :=
  [(0x09, 0x0D), (0x20, 0x20), (0x85, 0x85), (0xA0, 0xA0), (0x1680, 0x1680), (0x2000, 0x200A),
    (0x2028, 0x2029), (0x202F, 0x202F), (0x205F, 0x205F), (0x3000, 0x3000)]

/-- Whether a character is Unicode white space. -/
def isWhite (c : Char) : Bool := inRanges whiteRanges c.toNat

/-- Whether a character is blank: white space, or one of the four information separators. -/
def isBlank (c : Char) : Bool := isWhite c || inRanges [(0x1C, 0x1F)] c.toNat

/-- Characters without those at both ends that satisfy a test. -/
def trimBy (test : Char → Bool) (cs : List Char) : List Char :=
  ((cs.dropWhile test).reverse.dropWhile test).reverse

/-- A text with the blanks at both ends removed. -/
def strip (s : String) : String := String.ofList (trimBy isBlank s.toList)

/-- Characters with every trailing one that satisfies a test removed. -/
def dropTrailing (test : Char → Bool) (cs : List Char) : List Char :=
  (cs.reverse.dropWhile test).reverse

end ModelServing.Text
