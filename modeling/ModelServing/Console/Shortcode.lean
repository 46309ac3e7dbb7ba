import ModelServing.Console.Pictographs
import ModelServing.Text.Blank
import ModelServing.Text.LowerCase

/-! Names between colons, and the pictographs that are shown for them. -/

namespace ModelServing.Console

open ModelServing.Text

/-- Whether a character may stand between the colons. -/
def isShortcodeChar (c : Char) : Bool := c != ':' && !isBlank c

/-- A name without its ending, if it has that ending. -/
def withoutEnding? (ending : String) (name : List Char) : Option (List Char) :=
  if ending.toList.isSuffixOf name then some (name.take (name.length - ending.length)) else none

/-- A name as what names the pictograph, and the mark that asks for its text or its picture form. -/
def shortcodeParts (name : List Char) : List Char × List Char :=
  match withoutEnding? "-emoji" name, withoutEnding? "-text" name with
  | some base, _ => (base, ['\ufe0f'])
  | none, some base => (base, ['\ufe0e'])
  | none, none => (name, [])

/-- What is shown for a name between colons; an unknown name is left as it is. -/
def showShortcode (name : List Char) : List Char :=
  let (base, mark) := shortcodeParts name
  match pictograph? (lowerCase base) with
  | some picture => picture ++ mark
  | none => ':' :: name ++ [':']

/-- The name and what follows its second colon, if characters begin with a name and a colon. -/
def shortcode? (cs : List Char) : Option (List Char × List Char) :=
  match cs.dropWhile isShortcodeChar with
  | ':' :: rest => some (cs.takeWhile isShortcodeChar, rest)
  | _ => none

/-- What follows a name is shorter. -/
theorem shortcode?_length {cs name rest : List Char} (found : shortcode? cs = some (name, rest)) :
    rest.length < cs.length := by
  -- The name and the colon are in front of what follows.
  have bound : (cs.dropWhile isShortcodeChar).length ≤ cs.length :=
    (List.dropWhile_sublist isShortcodeChar).length_le
  unfold shortcode? at found
  split at found
  · next heq =>
    simp only [Option.some.injEq, Prod.mk.injEq] at found
    rw [heq, List.length_cons, found.2] at bound
    omega
  · contradiction

/-- Characters with every name between colons replaced by what is shown for it. -/
def expandShortcodes : List Char → List Char
  -- A colon that begins no name is kept, and may still end one.
  | [] => []
  | c :: rest =>
    if c == ':' then
      match _found : shortcode? rest with
      | some (name, after) => showShortcode name ++ expandShortcodes after
      | none => c :: expandShortcodes rest
    else c :: expandShortcodes rest
termination_by cs => cs.length
decreasing_by
  · exact Nat.lt_succ_of_lt (shortcode?_length _found)
  · simp
  · simp

end ModelServing.Console
