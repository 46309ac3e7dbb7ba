import ModelServing.Filesystem.Lookup

/-! Patterns for texts and for file names. -/

namespace ModelServing.Shell

/-- A pattern: characters, each with whether it stands for itself. -/
abbrev Pattern := List (Char × Bool)

/-- Whether a character has no special meaning in any pattern. -/
def isPlain (c : Char) : Bool := c != '*' && c != '?' && c != '['

/-- Whether a character lies in a set of characters and ranges. -/
def inSet (c : Char) : List Char → Bool
  | a :: '-' :: b :: rest => (a ≤ c && c ≤ b) || inSet c rest
  | a :: rest => a == c || inSet c rest
  | [] => false

/-- Whether a character lies in a set that may be negated. -/
def inBrackets (c : Char) (set : List Char) : Bool :=
  match set with
  | '!' :: rest => !inSet c rest
  | set => inSet c set

/-- What stands between brackets, and the pattern after them. -/
def brackets? (pattern : Pattern) : Option (List Char × Pattern) :=
  -- The first character stands for itself, even if it is a closing bracket.
  match pattern with
  | [] => none
  | first :: rest =>
    let inner := rest.takeWhile fun entry => entry != (']', false)
    match rest.drop inner.length with
    | _ :: after => some ((first :: inner).map (·.1), after)
    | [] => none

/-- Whether a text fits a pattern. -/
def fits (pattern : Pattern) (text : List Char) : (fuel : Nat) → Bool
  -- A star fits nothing, or one character more.
  | 0 => false
  | fuel + 1 =>
    match pattern, text with
    | [], text => text.isEmpty
    | ('*', false) :: rest, text =>
      fits rest text fuel ||
        match text with
        | _ :: more => fits pattern more fuel
        | [] => false
    | ('?', false) :: rest, _ :: more => fits rest more fuel
    | ('[', false) :: rest, c :: more =>
      match brackets? rest with
      | some (set, after) => inBrackets c set && fits after more fuel
      | none => c == '[' && fits rest more fuel
    | (p, _) :: rest, c :: more => p == c && fits rest more fuel
    | _, [] => false

/-- Whether a text fits a pattern. -/
def Pattern.matches (pattern : Pattern) (text : List Char) : Bool :=
  fits pattern text (pattern.length + text.length + 2)

/-- A text without the shortest or the longest part at one of its ends that fits a pattern. -/
def Pattern.trim (pattern : Pattern) (atEnd longest : Bool) (text : List Char) : List Char :=
  -- All parts at that end are tried, and the first or the last that fits is taken away.
  let counts := List.range (text.length + 1)
  let fitting := counts.filter fun count =>
    pattern.matches (if atEnd then text.drop (text.length - count) else text.take count)
  match if longest then fitting.getLast? else fitting.head? with
  | some count => if atEnd then text.take (text.length - count) else text.drop count
  | none => text

/-- Whether a pattern can fit more than one text. -/
def Pattern.isOpen (pattern : Pattern) : Bool :=
  pattern.any fun (c, literal) => !literal && !isPlain c

/-- The parts of a pattern between slashes. -/
def Pattern.pieces (pattern : Pattern) : List Pattern :=
  pattern.splitOnP fun entry => entry.1 == '/'

/-- The paths that fit the parts of a pattern, each seen from a start. -/
def pathsFor (fs : Filesystem) : (starts : List String) → List Pattern → List String
  -- A part without signs is not looked up until the end, where a missing directory on the way shows
  -- as well.
  | starts, [] => starts
  | starts, piece :: rest =>
    let glued (start name : String) : String := start ++ name ++ (if rest.isEmpty then "" else "/")
    let reached := starts.flatMap fun start =>
      if !piece.isOpen then
        let path := glued start (String.ofList (piece.map (·.1)))
        if rest.isEmpty && !fs.containsEntry path then [] else [path]
      else
        let directory := if start.isEmpty then "." else start
        let names : List String :=
          match fs.status directory with
          | .ok entry => entry.entries.map (·.1)
          | .error _ => []
        let shown := names.filter fun name =>
          let isHidden := name.toList.head? == some '.'
          piece.matches name.toList && (!isHidden || piece.head? == some ('.', false))
        (shown.mergeSort fun a b => decide (a ≤ b)).map (glued start)
    pathsFor fs reached rest

/-- The paths that fit a pattern, in order. -/
def Pattern.paths (fs : Filesystem) (pattern : Pattern) : List String :=
  if pattern.isOpen then pathsFor fs [""] pattern.pieces else []

end ModelServing.Shell
