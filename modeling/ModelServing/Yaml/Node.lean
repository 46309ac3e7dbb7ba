import ModelServing.Yaml.Implicit
import ModelServing.Yaml.Lexing

/-! The nodes of a YAML document, and how tokens form them. -/

namespace ModelServing.Yaml

/-- A node with its tag. A collection may carry the name by which its own parts refer to it. -/
inductive Node where
  | scalar (tag : Tag) (content : String)
  | sequence (tag : Tag) (anchor : Option String) (items : List Node)
  | mapping (tag : Tag) (anchor : Option String) (entries : List (Node × Node))
  /-- The collection around this place that has the name. -/
  | enclosing (anchor : String)
  deriving Inhabited, Repr

/-- What nodes are formed from: the tokens left, the fault after the last one, the tag handles of
the document, and the names seen so far with their nodes once those are complete. -/
structure Parsing where
  tokens : List Token
  fault : Option Fault
  handles : List (String × String) := []
  anchors : List (String × Option Node) := []

/-- A step that reads tokens. -/
abbrev Parse := StateT Parsing (Except Fault)

namespace Parse

/-- The next token, which stays. -/
def peek : Parse Token := do
  let state ← get
  match state.tokens with
  | token :: _ => return token
  | [] => throw (state.fault.getD (.broken none "found the end of the tokens"))

/-- Passes over the next token. -/
def pass : Parse Unit := modify fun state => { state with tokens := state.tokens.tail }

/-- Whether the next token is one of those given. -/
def isAt (expected : List Token) : Parse Bool := return expected.contains (← peek)

/-- Passes over the next token if it is the one given, and tells whether it was. -/
def accept (token : Token) : Parse Bool := do
  if (← peek) == token then
    pass
    return true
  else return false

/-- Fails at a token that cannot stand where it does. -/
def unexpected {α : Type} (reading wanted : String) : Parse α := do
  throw (.broken (some reading) (wanted ++ Text.quoted (← peek).name))

/-- The node of a place where nothing stands. -/
def nothing : Node := .scalar .null ""

/-- Reads a tag's handle and suffix, if a tag stands next. -/
def tag? : Parse (Option (Option String × String)) := do
  -- The tag is looked at before it is passed.
  match ← peek with
  | .tag handle suffix =>
    pass
    return some (handle, suffix)
  | _ => return none

/-- Reads an anchor, if one stands next. -/
def anchor? : Parse (Option String) := do
  -- The anchor is looked at before it is passed.
  match ← peek with
  | .anchor name =>
    pass
    return some name
  | _ => return none

/-- The full name of a tag. -/
def tagName (handle : Option String) (suffix : String) : Parse String := do
  -- A handle stands for what its directive has said.
  match handle with
  | none => return suffix
  | some handle =>
    match (← get).handles.find? fun entry => entry.1 == handle with
    | some (_, start) => return start ++ suffix
    | none =>
      throw (.broken (some "while parsing a node")
        ("found undefined tag handle " ++ Text.quoted handle))

/-- Reads a node's anchor and tag, in either order. -/
def properties : Parse (Option String × Option String) := do
  -- The anchor may come before the tag or after it.
  let anchor ← anchor?
  let tag ← tag?
  let anchor ← if anchor.isNone && tag.isSome then anchor? else pure anchor
  match tag with
  | none => return (anchor, none)
  | some (handle, suffix) => return (anchor, some (← tagName handle suffix))

/-- Checks that a name is new in the document. -/
def checkNew (anchor : Option String) : Parse Unit := do
  -- The first occurrence is told along with the second.
  match anchor with
  | none => return ()
  | some name =>
    if (← get).anchors.any fun entry => entry.1 == name then
      throw (.broken (some ("found duplicate anchor " ++ Text.quoted name ++ "; first occurrence"))
        "second occurrence")

/-- Gives a name to a node, or to the collection that is being read. -/
def name (anchor : Option String) (node : Option Node) : Parse Unit := do
  match anchor with
  | none => return ()
  | some name => modify fun state => { state with anchors := (name, node) :: state.anchors }

/-- The node that a name refers to. -/
def referred (name : String) : Parse Node := do
  match (← get).anchors.find? fun entry => entry.1 == name with
  | some (_, some node) => return node
  | some (_, none) => return .enclosing name
  | none => throw (.broken none ("found undefined alias " ++ Text.quoted name))

/-- A tag name that leaves the choice of the tag to the node's kind and spelling. -/
def isOpen (tag : Option String) : Bool := tag.isNone || tag == some "!"

/-- The tag of a collection. -/
def collectionTag (tag : Option String) (usual : Tag) : Tag :=
  match tag with
  | some name => if name == "!" then usual else .ofName name
  | none => usual

/-- The tag of a scalar. Only plain scalars, and those marked with a lone exclamation mark, have a
tag by their spelling. -/
def scalarTag (tag : Option String) (plain : Bool) (content : String) : Tag :=
  match tag with
  | some name => if name == "!" then implicitTag content else .ofName name
  | none => if plain then implicitTag content else .text

mutual

/-- Reads a node. Block collections stand only where `block` holds, and a sequence without
indentation of its own only where `unindented` holds. -/
def node (block unindented : Bool) : (fuel : Nat) → Parse Node
  -- The properties come first, and what stands behind them decides what they belong to.
  | 0 => throw (.broken none "nested too deeply")
  | fuel + 1 => do
    match ← peek with
    | .alias name =>
      pass
      referred name
    | _ =>
      let (anchor, tag) ← properties
      match ← peek with
      | .scalar content plain =>
        pass
        checkNew anchor
        let found := Node.scalar (scalarTag tag plain content) content
        name anchor (some found)
        return found
      | next =>
        let kind : Option Token :=
          if unindented && next == .blockEntry then some .blockEntry
          else if next == .flowSequenceStart || next == .flowMappingStart then some next
          else if block && (next == .blockSequenceStart || next == .blockMappingStart) then some next
          else none
        match kind with
        | none =>
          if anchor.isNone && tag.isNone then
            unexpected ("while parsing a " ++ (if block then "block" else "flow") ++ " node")
              "expected the node content, but found "
          else
            checkNew anchor
            let found := Node.scalar (scalarTag tag (isOpen tag) "") ""
            name anchor (some found)
            return found
        | some start =>
          checkNew anchor
          name anchor none
          let found ← collection start anchor tag fuel
          name anchor (some found)
          return found

/-- Reads the collection that starts with a token. -/
def collection (start : Token) (anchor tag : Option String) : (fuel : Nat) → Parse Node
  -- The token that opens the collection tells how its entries are written.
  | 0 => throw (.broken none "nested too deeply")
  | fuel + 1 => do
    match start with
    | .blockEntry =>
      return .sequence (collectionTag tag .sequence) anchor (← unindentedItems fuel)
    | .blockSequenceStart =>
      pass
      return .sequence (collectionTag tag .sequence) anchor (← blockItems fuel)
    | .blockMappingStart =>
      pass
      return .mapping (collectionTag tag .mapping) anchor (← blockEntries fuel)
    | .flowSequenceStart =>
      pass
      return .sequence (collectionTag tag .sequence) anchor (← flowItems true fuel)
    | _ =>
      pass
      return .mapping (collectionTag tag .mapping) anchor (← flowEntries true fuel)

/-- Reads the items of an indented block sequence. -/
def blockItems : (fuel : Nat) → Parse (List Node)
  -- An item may be missing, if the next one or the end follows at once.
  | 0 => throw (.broken none "nested too deeply")
  | fuel + 1 => do
    if ← accept .blockEntry then
      let item ← if ← isAt [.blockEntry, .blockEnd] then pure nothing else node true false fuel
      return item :: (← blockItems fuel)
    else if ← accept .blockEnd then return []
    else unexpected "while parsing a block collection" "expected <block end>, but found "

/-- Reads the items of a block sequence that is indented no further than its key. -/
def unindentedItems : (fuel : Nat) → Parse (List Node)
  -- Nothing closes such a sequence but a token that belongs to something else.
  | 0 => throw (.broken none "nested too deeply")
  | fuel + 1 => do
    if ← accept .blockEntry then
      let item ←
        if ← isAt [.blockEntry, .key, .value, .blockEnd] then pure nothing else node true false fuel
      return item :: (← unindentedItems fuel)
    else return []

/-- Reads the entries of a block mapping. -/
def blockEntries : (fuel : Nat) → Parse (List (Node × Node))
  -- Both the key and the value may be missing, but not the mark that comes first.
  | 0 => throw (.broken none "nested too deeply")
  | fuel + 1 => do
    let isKey ← accept .key
    if isKey || (← peek) == .value then
      let key ←
        if !isKey || (← isAt [.key, .value, .blockEnd]) then pure nothing else node true true fuel
      let content ←
        if ← accept .value then
          if ← isAt [.key, .value, .blockEnd] then pure nothing else node true true fuel
        else pure nothing
      return (key, content) :: (← blockEntries fuel)
    else if ← accept .blockEnd then return []
    else unexpected "while parsing a block mapping" "expected <block end>, but found "

/-- Reads the items of a flow sequence; an item may be a single entry of a mapping. -/
def flowItems (first : Bool) : (fuel : Nat) → Parse (List Node)
  -- An item with a key of its own is a mapping of one entry.
  | 0 => throw (.broken none "nested too deeply")
  | fuel + 1 => do
    if ← accept .flowSequenceEnd then return []
    else
      let separated ← if first then pure true else accept .flowEntry
      if !separated then
        unexpected "while parsing a flow sequence" "expected ',' or ']', but got "
      if ← accept .key then
        let key ←
          if ← isAt [.value, .flowEntry, .flowSequenceEnd] then pure nothing else node false false fuel
        let content ←
          if ← accept .value then
            if ← isAt [.flowEntry, .flowSequenceEnd] then pure nothing else node false false fuel
          else pure nothing
        return .mapping .mapping none [(key, content)] :: (← flowItems false fuel)
      else if ← accept .flowSequenceEnd then return []
      else
        let item ← node false false fuel
        return item :: (← flowItems false fuel)

/-- Reads the entries of a flow mapping. -/
def flowEntries (first : Bool) : (fuel : Nat) → Parse (List (Node × Node))
  -- A key without a value has an empty one.
  | 0 => throw (.broken none "nested too deeply")
  | fuel + 1 => do
    if ← accept .flowMappingEnd then return []
    else
      let separated ← if first then pure true else accept .flowEntry
      if !separated then
        unexpected "while parsing a flow mapping" "expected ',' or '\x7d', but got "
      if ← accept .key then
        let key ←
          if ← isAt [.value, .flowEntry, .flowMappingEnd] then pure nothing else node false false fuel
        let content ←
          if ← accept .value then
            if ← isAt [.flowEntry, .flowMappingEnd] then pure nothing else node false false fuel
          else pure nothing
        return (key, content) :: (← flowEntries false fuel)
      else if ← accept .flowMappingEnd then return []
      else
        let key ← node false false fuel
        return (key, nothing) :: (← flowEntries false fuel)

end

/-- Passes over document end marks. -/
def passEnds : (fuel : Nat) → Parse Unit
  | 0 => return ()
  | fuel + 1 => do
    if ← accept .documentEnd then passEnds fuel

/-- The tag handles that every document has. -/
def usualHandles : List (String × String) := [("!", "!"), ("!!", Tag.root)]

/-- Reads the directives of a document into its tag handles. -/
def directives (versioned : Bool) (handles : List (String × String)) : (fuel : Nat) → Parse Unit
  -- Handles are collected as the directives come, in front of the usual ones.
  | 0 => return ()
  | fuel + 1 => do
    match ← peek with
    | .directive content =>
      pass
      match content with
      | .version major _ =>
        if versioned then throw (.broken none "found duplicate YAML directive")
        if major != 1 then
          throw (.broken none "found incompatible YAML document (version 1.* is required)")
        directives true handles fuel
      | .tag handle start =>
        if handles.any fun entry => entry.1 == handle then
          throw (.broken none ("duplicate tag handle " ++ Text.quoted handle))
        directives versioned ((handle, start) :: handles) fuel
      | .other => directives versioned handles fuel
    | _ => modify fun state => { state with handles := handles ++ usualHandles }

/-- Reads the head of a document after the first, or of one that is marked: nothing when the
text ends, and otherwise a mark that has to be there. -/
def documentMark? (fuel : Nat) : Parse Bool := do
  -- Between two documents there has to be a mark.
  passEnds fuel
  if (← peek) == .streamEnd then return false
  else
    directives false [] fuel
    if ← accept .documentStart then return true
    else
      throw (.broken none
        ("expected '<document start>', but found " ++ Text.quoted (← peek).name))

/-- Reads the content of a marked document, which may be missing. -/
def markedContent (fuel : Nat) : Parse Node := do
  match ← peek with
  | .directive _ | .documentStart | .documentEnd | .streamEnd => return nothing
  | _ => node true false fuel

/-- Reads the only document of a text, if there is one. -/
def onlyDocument (fuel : Nat) : Parse (Option Node) := do
  -- The first document needs no mark, unless directives precede it.
  let found ← (do
    match ← peek with
    | .directive _ | .documentStart | .streamEnd =>
      if ← documentMark? fuel then return some (← markedContent fuel) else return none
    | _ =>
      modify fun state => { state with handles := usualHandles }
      return some (← node true false fuel) : Parse (Option Node))
  match found with
  | none => return none
  | some root =>
    discard (accept .documentEnd)
    if ← documentMark? fuel then
      throw (.broken (some "expected a single document in the stream") "but found another document")
    else return some root

end Parse

/-- The root node of a text that holds at most one document. -/
def rootNode (cs : List Char) : Except Fault (Option Node) :=
  let (tokens, fault) := tokens cs
  (Parse.onlyDocument (2 * tokens.length + 8)).run' { tokens, fault }

end ModelServing.Yaml
