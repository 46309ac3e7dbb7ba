import ModelServing.Console.Literal
import ModelServing.Console.Shortcode
import ModelServing.Console.Style

/-! Console markup: tags in square brackets, and the text that is left when they are taken out. -/

namespace ModelServing.Console

open ModelServing.Text

/-- A tag that opens a style. -/
structure Tag where
  /-- What is opened. -/
  name : List Char
  /-- What stands after an equals sign. -/
  parameters : Option (List Char) := none
  deriving DecidableEq, Repr

/-- A part of a text with markup. -/
inductive Piece where
  /-- Characters to be shown. -/
  | plain (cs : List Char)
  | opening (tag : Tag)
  /-- Closes the last tag of a name, or the last tag of all if the name is empty. -/
  | closing (name : List Char)
  deriving DecidableEq, Repr

/-- Whether a tag may begin with a character. -/
def beginsTag (c : Char) : Bool := c.isLower || c == '#' || c == '/' || c == '@'

/-- Whether a character may stand inside a tag. -/
def isTagChar (c : Char) : Bool := c != '[' && c != ']'

/-- The inside of a tag and what follows it, if characters begin with one; its opening bracket is
already passed over. -/
def tagBody? (cs : List Char) : Option (List Char × List Char) :=
  -- The bracket that closes the tag is the first one behind its characters.
  if (cs.head?.map beginsTag).getD false then
    match cs.dropWhile isTagChar with
    | ']' :: rest => some (cs.takeWhile isTagChar, rest)
    | _ => none
  else none

/-- The piece that a tag stands for. -/
def tagPiece (body : List Char) : Piece :=
  -- An equals sign divides the name of a tag from its parameters.
  let name := body.takeWhile (· != '=')
  let parameters :=
    match body.dropWhile (· != '=') with
    | _ :: parameters => some parameters
    | [] => none
  match name with
  | '/' :: name => .closing (trimBy isBlank name)
  | name => .opening { name, parameters }

/-- Backslashes before a tag, the inside of the tag and what follows it, if characters begin so. -/
def tag? (cs : List Char) : Option (Nat × List Char × List Char) :=
  match cs.dropWhile (· == '\\') with
  | '[' :: rest => (tagBody? rest).map fun found => ((cs.takeWhile (· == '\\')).length, found)
  | _ => none

/-- What follows the inside of a tag is shorter. -/
theorem tagBody?_length {cs body rest : List Char} (found : tagBody? cs = some (body, rest)) :
    rest.length < cs.length := by
  -- The inside and the closing bracket are in front of what follows.
  have bound : (cs.dropWhile isTagChar).length ≤ cs.length :=
    (List.dropWhile_sublist isTagChar).length_le
  unfold tagBody? at found
  split at found
  · split at found
    · next heq =>
      simp only [Option.some.injEq, Prod.mk.injEq] at found
      rw [heq, List.length_cons, found.2] at bound
      omega
    · contradiction
  · contradiction

/-- What follows a tag is shorter. -/
theorem tag?_length {cs body rest : List Char} {count : Nat}
    (found : tag? cs = some (count, body, rest)) : rest.length < cs.length := by
  -- The backslashes and the opening bracket come before the inside.
  have bound : (cs.dropWhile (· == '\\')).length ≤ cs.length :=
    (List.dropWhile_sublist (· == '\\')).length_le
  unfold tag? at found
  split at found
  · next inner heq =>
    simp only [Option.map_eq_some_iff, Prod.mk.injEq] at found
    obtain ⟨_, within, _, same⟩ := found
    have shorter := tagBody?_length (same ▸ within)
    rw [heq, List.length_cons] at bound
    omega
  · contradiction

/-- What backslashes before a tag and the tag itself stand for: each pair of them is one backslash,
and one that is left over keeps the tag as it is written. -/
def tagPieces (count : Nat) (body : List Char) : List Piece :=
  let backslashes := if count < 2 then [] else [Piece.plain (List.replicate (count / 2) '\\')]
  backslashes ++ [if count % 2 == 1 then .plain ('[' :: body ++ [']']) else tagPiece body]

/-- The characters read so far as a piece, if there are any. -/
def plainPiece (chunk : List Char) : List Piece := if chunk.isEmpty then [] else [.plain chunk]

/-- The pieces of a text after characters to be shown that are already read. -/
def piecesFrom (chunk cs : List Char) : List Piece :=
  -- A tag ends the characters that have been read by then.
  match _found : tag? cs with
  | some (count, body, rest) => plainPiece chunk ++ tagPieces count body ++ piecesFrom [] rest
  | none =>
    match cs with
    | [] => plainPiece chunk
    | c :: rest => piecesFrom (chunk ++ [c]) rest
termination_by cs.length
decreasing_by
  · exact tag?_length _found
  · simp

/-- The pieces of a text with markup. -/
def pieces (cs : List Char) : List Piece := piecesFrom [] cs

/-- Characters with every opening bracket after a backslash alone. -/
def unescapeBrackets : List Char → List Char
  | [] => []
  | '\\' :: '[' :: rest => '[' :: unescapeBrackets rest
  | c :: rest => c :: unescapeBrackets rest

/-- The open tags without the last one of a name, and that one. -/
def close? (name : List Char) : List Tag → Option (Tag × List Tag)
  | [] => none
  | tag :: rest =>
    if name.isEmpty || tag.name == name then some (tag, rest)
    else (close? name rest).map fun (found, rest) => (found, tag :: rest)

/-- The arguments in the parameters of an event handler. -/
def handlerArguments (parameters : List Char) : List Char :=
  -- Parameters without brackets are put between some, and a name in front of them is dropped.
  let isNameChar (c : Char) : Bool := Literal.isWordChar c || c == '.'
  let trimmed := trimBy isBlank parameters
  match trimmed.dropWhile isNameChar with
  | [] => "()".toList
  | '(' :: rest => if rest.getLast? == some ')' && !rest.contains '\n' then '(' :: rest else trimmed
  | _ => trimmed

/-- Checks that what a tag says of its text makes sense; a style that is unknown is passed over. -/
def checkTag (tag : Tag) : Except MarkupFault Unit :=
  -- Handlers are checked for their arguments, and other tags for being a style at all.
  match tag.name, tag.parameters with
  | '@' :: _, some parameters =>
    if parameters.isEmpty || Literal.isLiteral (handlerArguments parameters) then .ok ()
    else .error .handlerArguments
  | '@' :: _, none => .ok ()
  | name, some parameters => do discard (Style.read? (name ++ ' ' :: parameters))
  | _, none => .ok ()

/-- The characters that pieces show, where tags may be open, the last one opened first. -/
def showPieces (opened : List Tag) : List Piece → Except MarkupFault (List Char)
  -- Tags are checked where they close; those that stay open are checked at the end, apart from
  -- handlers.
  | [] => do
    (opened.filter fun tag => tag.name.head? != some '@').forM checkTag
    return []
  | .plain cs :: rest => do
    return expandShortcodes (unescapeBrackets cs) ++ (← showPieces opened rest)
  | .opening tag :: rest => do
    showPieces ({ tag with name := ← Style.normalName tag.name } :: opened) rest
  | .closing name :: rest => do
    let name ← if name.isEmpty then pure [] else Style.normalName name
    match close? name opened with
    | none => throw .unmatchedTag
    | some (tag, opened) => do
      checkTag tag
      showPieces opened rest

/-- The characters that a text with markup shows. -/
def showMarkup (cs : List Char) : Except MarkupFault (List Char) :=
  if cs.contains '[' then showPieces [] (pieces cs) else .ok (expandShortcodes cs)

end ModelServing.Console
