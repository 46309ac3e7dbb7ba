import ModelServing.Shell.Syntax

/-! How the text of a script is read as commands. -/

namespace ModelServing.Shell

/-- What is left of a script, and the line on which it starts. -/
structure Unread where
  text : List Char
  line : Nat := 1

/-- A step that reads a part of a script; it fails where the syntax is broken. -/
abbrev Reader := StateT Unread Option

namespace Reader

/-- Whether a character ends a word where it is not quoted. -/
def endsWord (c : Char) : Bool := " \t\n;&|<>()".toList.contains c

/-- What is left. -/
def rest : Reader (List Char) := return (← get).text

/-- Passes over a number of characters. -/
def skip (count : Nat) : Reader Unit := modify fun unread =>
  { text := unread.text.drop count
    line := unread.line + ((unread.text.take count).filter (· == '\n')).length }

/-- Fails. -/
def broken {α : Type} : Reader α := fun _ => none

/-- Passes over the text given, which has to stand next. -/
def expect (text : String) : Reader Unit := do
  if text.toList.isPrefixOf (← rest) then skip text.length else broken

/-- Passes over the text given if it stands next, and tells whether it does. -/
def accept (text : String) : Reader Bool := do
  if text.toList.isPrefixOf (← rest) then
    skip text.length
    return true
  else return false

/-- How many blanks, joined lines and comments stand at the start of a text. -/
def blankCount : List Char → Nat
  | ' ' :: more => blankCount more + 1
  | '\t' :: more => blankCount more + 1
  | '\\' :: '\n' :: more => blankCount more + 2
  | '#' :: more => (more.takeWhile (· != '\n')).length + 1
  | _ => 0

/-- Passes over blanks. -/
def skipBlanks : Reader Unit := do skip (blankCount (← rest))

/-- Passes over blanks and line ends. -/
def skipLines : (fuel : Nat) → Reader Unit
  | 0 => return ()
  | fuel + 1 => do
    skipBlanks
    if ← accept "\n" then skipLines fuel

/-- The plain word that stands next, without passing over it. -/
def plainWord : Reader String := do
  skipBlanks
  let word := (← rest).takeWhile fun c => !endsWord c
  if word.any fun c => "'\"\\$\x60".toList.contains c then return "" else return String.ofList word

/-- Passes over a reserved word, which has to stand next. -/
def keyword (word : String) : Reader Unit := do
  if (← plainWord) == word then skip word.length else broken

/-- Passes over a reserved word if it stands next, and tells whether it does. -/
def acceptKeyword (word : String) : Reader Bool := do
  if (← plainWord) == word then
    skip word.length
    return true
  else return false

/-- Reads the name of a parameter: a name, a digit or a special character. -/
def parameterName : Reader String := do
  -- A digit is a whole name, so that others behind it are text.
  match ← rest with
  | c :: more =>
    if startsName c then
      let name := c :: more.takeWhile isNameChar
      skip name.length
      return String.ofList name
    else if c.isDigit || "@*#?$!-".toList.contains c then
      skip 1
      return String.ofList [c]
    else broken
  | [] => broken

/-- Reads the name of a parameter between braces: it may have several digits. -/
def bracedName : Reader String := do
  -- The braces tell where the name ends, so several digits may belong to it.
  let digits := (← rest).takeWhile Char.isDigit
  if digits.isEmpty then parameterName
  else
    skip digits.length
    return String.ofList digits

/-- The operator of an alternative. -/
def alternativeOf? : Char → Option Alternative
  | '-' => some .default
  | '=' => some .assigned
  | '+' => some .instead
  | '?' => some .required
  | _ => none

/-- What stands before the first back quotation mark that no backslash protects, with the marks,
dollar signs and backslashes after backslashes alone, and how many characters that takes. -/
def backquoted : List Char → Option (List Char × Nat)
  -- A backslash is dropped only before the characters that it protects in there.
  | [] => none
  | '\x60' :: _ => some ([], 1)
  | '\\' :: c :: rest =>
    let kept := if "$\x60\\".toList.contains c then [c] else ['\\', c]
    (backquoted rest).map fun (inner, count) => (kept ++ inner, count + 2)
  | c :: rest => (backquoted rest).map fun (inner, count) => (c :: inner, count + 1)

/-- What stands before the two brackets that close an expression; those inside come in pairs. -/
def balanced (depth : Nat) : List Char → Option (List Char)
  -- Brackets inside are counted, and the first one that is not matched has to be doubled.
  | [] => none
  | '(' :: rest => (balanced (depth + 1) rest).map ('(' :: ·)
  | ')' :: rest =>
    match depth with
    | 0 => if rest.head? == some ')' then some [] else none
    | depth + 1 => (balanced depth rest).map (')' :: ·)
  | c :: rest => (balanced depth rest).map (c :: ·)

/-- Splits lines at the one that is a mark; tabs in front of lines are dropped where asked for. -/
def documentLines (mark : String) (tabsDropped : Bool) :
    List (List Char) → List (List Char) × List (List Char)
  -- A missing mark is no fault: the text goes on to the end.
  | [] => ([], [])
  | line :: rest =>
    let line := if tabsDropped then line.dropWhile (· == '\t') else line
    if String.ofList line == mark then ([], rest)
    else
      let (lines, after) := documentLines mark tabsDropped rest
      (line :: lines, after)

/-- Takes a text that begins on the next line and ends before the line that is a mark. -/
def takeDocument (mark : String) (tabsDropped : Bool) : Reader (List Char) := do
  -- The text is cut out of what is still to be read, so that reading goes on behind the first line.
  let unread ← get
  let first := unread.text.takeWhile (· != '\n')
  let (lines, after) :=
    documentLines mark tabsDropped ((unread.text.drop (first.length + 1)).splitOn '\n')
  set { unread with text := first ++ '\n' :: ['\n'].intercalate after }
  return lines.flatMap (· ++ ['\n'])

/-- The words after which a list of commands ends. -/
def closers : List String := ["then", "elif", "else", "fi", "do", "done", "esac", "\x7d"]

/-- The characters that a word spells without any expansion. -/
def plainText (word : Word) : String :=
  String.ofList (word.flatMap fun part =>
    match part with
    | .text cs _ => cs
    | _ => [])

mutual

/-- Reads a word up to a character that ends it. -/
def wordUntil (isEnd : Char → Bool) : (fuel : Nat) → Reader Word
  -- A word consists of parts that stand side by side, each quoted in its own way.
  | 0 => broken
  | fuel + 1 => do
    match ← rest with
    | [] => return []
    | c :: more =>
      if isEnd c then return []
      else if c == '\'' then
        let quoted := more.takeWhile (· != '\'')
        if quoted.length == more.length then broken
        skip (quoted.length + 2)
        return .text quoted true :: (← wordUntil isEnd fuel)
      else if c == '"' then
        skip 1
        let parts ← doubleQuoted true fuel
        return .text [] true :: parts ++ (← wordUntil isEnd fuel)
      else if c == '\\' then
        match more with
        | '\n' :: _ =>
          skip 2
          wordUntil isEnd fuel
        | d :: _ =>
          skip 2
          return .text [d] true :: (← wordUntil isEnd fuel)
        | [] =>
          skip 1
          return [.text ['\\'] true]
      else if c == '$' || c == '\x60' then
        let part ← expansion false fuel
        return part :: (← wordUntil isEnd fuel)
      else
        let run := (c :: more).takeWhile fun c =>
          !isEnd c && !"'\"\\$\x60".toList.contains c
        skip run.length
        return .text run false :: (← wordUntil isEnd fuel)

/-- Reads what stands between double quotation marks, the closing one included, or a whole text in
which such marks stand for themselves. -/
def doubleQuoted (marked : Bool) : (fuel : Nat) → Reader Word
  -- A backslash keeps its meaning only before a few characters.
  | 0 => broken
  | fuel + 1 => do
    let special := if marked then "$\x60\"\\".toList else "$\x60\\".toList
    match ← rest with
    | [] => if marked then broken else return []
    | '\\' :: '\n' :: _ =>
      skip 2
      doubleQuoted marked fuel
    | '\\' :: c :: _ =>
      skip 2
      let kept := if special.contains c then [c] else ['\\', c]
      return .text kept true :: (← doubleQuoted marked fuel)
    | c :: more =>
      if c == '$' || c == '\x60' then
        let part ← expansion true fuel
        return part :: (← doubleQuoted marked fuel)
      else if c == '"' && marked then
        skip 1
        return []
      else
        let run := more.takeWhile fun c => !special.contains c
        skip (run.length + 1)
        return .text (c :: run) true :: (← doubleQuoted marked fuel)

/-- Reads an expansion, which starts with a dollar sign or a back quotation mark. -/
def expansion (quoted : Bool) : (fuel : Nat) → Reader Part
  -- The longest opening is tried first: two brackets, one bracket, a brace, a name.
  | 0 => broken
  | fuel + 1 => do
    match ← rest with
    | '\x60' :: more =>
      match backquoted more with
      | none => broken
      | some (inner, count) =>
        let line := (← get).line
        skip (count + 1)
        match (list fuel).run { text := inner, line } with
        | some (command, ⟨[], _⟩) => return .output command quoted
        | _ => broken
    | '$' :: '(' :: '(' :: more =>
      match balanced 0 more with
      | none => broken
      | some inner =>
        let line := (← get).line
        skip (inner.length + 5)
        match (doubleQuoted false fuel).run { text := inner, line } with
        | some (expression, _) => return .arithmetic expression quoted
        | none => broken
    | '$' :: '(' :: _ =>
      skip 2
      let command ← list fuel
      expect ")"
      return .output command quoted
    | '$' :: '\x7b' :: _ =>
      skip 2
      match ← rest with
      | '#' :: c :: _ =>
        if c == '\x7d' then
          skip 2
          return .parameter "#" quoted
        else
          skip 1
          let name ← bracedName
          expect "\x7d"
          return .length name quoted
      | _ =>
        let name ← bracedName
        if ← accept "\x7d" then return .parameter name quoted
        let ahead := (← rest).head?
        if ahead == some '#' || ahead == some '%' then
          let atEnd := ahead == some '%'
          skip 1
          let longest ← accept (if atEnd then "%" else "#")
          let pattern ← wordUntil (· == '\x7d') fuel
          expect "\x7d"
          return .trimmed name atEnd longest pattern quoted
        let orEmpty ← accept ":"
        match (← rest).head?.bind alternativeOf? with
        | none => broken
        | some kind =>
          skip 1
          let word ← wordUntil (· == '\x7d') fuel
          expect "\x7d"
          return .alternative name kind orEmpty word quoted
    | _ =>
      skip 1
      let before ← get
      match parameterName.run before with
      | some (name, after) =>
        set after
        return .parameter name quoted
      | none => return .text ['$'] quoted

/-- Reads a redirection, if one stands next. -/
def redirect? : (fuel : Nat) → Reader (Option Redirect)
  -- Digits belong to a redirection only if its sign follows them at once.
  | 0 => broken
  | fuel + 1 => do
    skipBlanks
    let digits := (← rest).takeWhile Char.isDigit
    let after := (← rest).drop digits.length
    match after with
    | c :: _ =>
      if c != '<' && c != '>' then return none
      else
        skip digits.length
        let given := String.toNat? (String.ofList digits)
        if ← accept "<<" then
          let tabsDropped ← accept "-"
          skipBlanks
          let mark ← wordUntil endsWord fuel
          if mark.isEmpty then broken
          let literal := mark.any fun part =>
            match part with
            | .text _ quoted => quoted
            | _ => false
          let text ← takeDocument (plainText mark) tabsDropped
          if literal then return some (.document (given.getD 0) [.text text true])
          else
            match (doubleQuoted false fuel).run { text, line := (← get).line } with
            | some (parts, _) => return some (.document (given.getD 0) parts)
            | none => broken
        let (usual, opening) ←
          if ← accept ">>" then pure (1, Opening.appending)
          else if ← accept ">&" then pure (1, Opening.duplicating)
          else if ← accept "<&" then pure (0, Opening.duplicating)
          else if ← accept ">|" then pure (1, Opening.writing)
          else if ← accept ">" then pure (1, Opening.writing)
          else do
            expect "<"
            pure (0, Opening.reading)
        skipBlanks
        let target ← wordUntil endsWord fuel
        if target.isEmpty then broken
        return some (.redirect (given.getD usual) opening target)
    | [] => return none

/-- Reads redirections as long as there are any. -/
def redirects : (fuel : Nat) → Reader (List Redirect)
  | 0 => broken
  | fuel + 1 => do
    match ← redirect? fuel with
    | some redirect => return redirect :: (← redirects fuel)
    | none => return []

/-- Reads words as long as there are any. -/
def words : (fuel : Nat) → Reader (List Word)
  | 0 => broken
  | fuel + 1 => do
    skipBlanks
    let word ← wordUntil endsWord fuel
    if word.isEmpty then return [] else return word :: (← words fuel)

/-- Reads the words and redirections of a simple command. -/
def simpleParts : (fuel : Nat) → Reader (List Word × List Redirect)
  -- Words and redirections may come in any order.
  | 0 => broken
  | fuel + 1 => do
    match ← redirect? fuel with
    | some redirect =>
      let (words, redirects) ← simpleParts fuel
      return (words, redirect :: redirects)
    | none =>
      let word ← wordUntil endsWord fuel
      if word.isEmpty then return ([], [])
      else
        let (words, redirects) ← simpleParts fuel
        return (word :: words, redirects)

/-- The assignments at the start of a simple command, and the words after them. -/
def assignments : List Word → List (String × Word) × List Word
  -- Assignments end with the first word that is none.
  | (.text run false :: parts) :: words =>
    let name := String.ofList (run.takeWhile (· != '='))
    let after := run.drop (name.length + 1)
    if run.contains '=' && isName name then
      let (assigned, words) := assignments words
      let value := if after.isEmpty then parts else .text after false :: parts
      ((name, value) :: assigned, words)
    else ([], (.text run false :: parts) :: words)
  | words => ([], words)

/-- Reads a simple command, or the definition of a function. -/
def simple : (fuel : Nat) → Reader Command
  -- A name with brackets behind it begins a definition, and anything else a simple command.
  | 0 => broken
  | fuel + 1 => do
    let line := (← get).line
    let name ← plainWord
    let after := (← rest).drop name.length
    if isName name && "()".toList.isPrefixOf (after.drop (blankCount after)) then
      skip name.length
      skipBlanks
      skip 2
      skipLines fuel
      return .define name (← command fuel)
    else
      let (words, redirects) ← simpleParts fuel
      if words.isEmpty && redirects.isEmpty then broken
      let (assigned, words) := assignments words
      let simple := Command.simple line assigned words
      if redirects.isEmpty then return simple else return .redirected simple redirects

/-- Reads the rest of a conditional after its opening word. -/
def conditional : (fuel : Nat) → Reader Command
  -- Each further condition is a conditional of its own in place of the other branch.
  | 0 => broken
  | fuel + 1 => do
    let condition ← list fuel
    keyword "then"
    let body ← list fuel
    if ← acceptKeyword "elif" then return .branch condition body (← conditional fuel)
    else if ← acceptKeyword "else" then
      let otherwise ← list fuel
      keyword "fi"
      return .branch condition body otherwise
    else
      keyword "fi"
      return .branch condition body (.sequence [])

/-- Reads the patterns of an arm, the closing bracket included. -/
def patterns : (fuel : Nat) → Reader (List Word)
  -- The patterns are divided by bars, and a bracket ends them.
  | 0 => broken
  | fuel + 1 => do
    skipBlanks
    let pattern ← wordUntil endsWord fuel
    skipBlanks
    if ← accept "|" then return pattern :: (← patterns fuel)
    else
      expect ")"
      return [pattern]

/-- Reads the arms of a selection, the closing word included. -/
def arms : (fuel : Nat) → Reader (List (List Word × Command))
  -- The last arm may lack the marks that end it.
  | 0 => broken
  | fuel + 1 => do
    skipLines fuel
    if ← acceptKeyword "esac" then return []
    else
      discard (accept "(")
      let patterns ← patterns fuel
      let body ← list fuel
      if ← accept ";;" then return (patterns, body) :: (← arms fuel)
      else
        skipLines fuel
        keyword "esac"
        return [(patterns, body)]

/-- Reads a command that is no pipeline. -/
def command : (fuel : Nat) → Reader Command
  -- The opening word decides what is read, and the redirections behind it belong to the whole.
  | 0 => broken
  | fuel + 1 => do
    let word ← plainWord
    if closers.contains word then broken
    let compound : Option (Reader Command) :=
      match word with
      | "if" => some do
        skip 2
        conditional fuel
      | "while" => some do
        skip 5
        looping false fuel
      | "until" => some do
        skip 5
        looping true fuel
      | "for" => some do
        skip 3
        let name ← plainWord
        if !isName name then broken
        skip name.length
        skipLines fuel
        let items ←
          if ← acceptKeyword "in" then do
            let items ← words fuel
            pure (some items)
          else pure none
        skipBlanks
        discard (accept ";")
        skipLines fuel
        keyword "do"
        let body ← list fuel
        keyword "done"
        return .each name items body
      | "case" => some do
        skip 4
        skipBlanks
        let word ← wordUntil endsWord fuel
        skipLines fuel
        keyword "in"
        return .select word (← arms fuel)
      | "\x7b" => some do
        skip 1
        let body ← list fuel
        keyword "\x7d"
        return body
      | _ => none
    match compound with
    | some reader => withRedirects (← reader) fuel
    | none =>
      if ← accept "(" then
        let body ← list fuel
        expect ")"
        withRedirects (.subshell body) fuel
      else simple fuel

/-- Reads the rest of a loop after its opening word. -/
def looping (negated : Bool) : (fuel : Nat) → Reader Command
  -- A loop differs from another one only in what its condition has to be.
  | 0 => broken
  | fuel + 1 => do
    let condition ← list fuel
    keyword "do"
    let body ← list fuel
    keyword "done"
    return .loop negated condition body

/-- Reads the redirections after a command. -/
def withRedirects (command : Command) : (fuel : Nat) → Reader Command
  | 0 => broken
  | fuel + 1 => do
    let redirects ← redirects fuel
    if redirects.isEmpty then return command else return .redirected command redirects

/-- Reads the stages of a pipeline. -/
def stages : (fuel : Nat) → Reader (List Command)
  -- A bar that is doubled does not divide stages.
  | 0 => broken
  | fuel + 1 => do
    let first ← command fuel
    skipBlanks
    if "||".toList.isPrefixOf (← rest) then return [first]
    else if ← accept "|" then
      skipLines fuel
      return first :: (← stages fuel)
    else return [first]

/-- Reads a pipeline. -/
def pipeline : (fuel : Nat) → Reader Command
  -- A single stage without a negation is that command alone.
  | 0 => broken
  | fuel + 1 => do
    let negated ← acceptKeyword "!"
    let stages ← stages fuel
    match stages with
    | [only] => return if negated then .pipeline true [only] else only
    | stages => return .pipeline negated stages

/-- Reads what follows a pipeline on its line. -/
def chain (first : Command) : (fuel : Nat) → Reader Command
  -- Both joints bind alike, and to the left.
  | 0 => broken
  | fuel + 1 => do
    skipBlanks
    if ← accept "&&" then
      skipLines fuel
      chain (.both first (← pipeline fuel)) fuel
    else if ← accept "||" then
      skipLines fuel
      chain (.either first (← pipeline fuel)) fuel
    else return first

/-- Reads commands up to a word that closes them. -/
def commands : (fuel : Nat) → Reader (List Command)
  -- The reading stops at a word that closes something, which is left for whoever has opened it.
  | 0 => broken
  | fuel + 1 => do
    skipLines fuel
    let atEnd := closers.contains (← plainWord) || (← rest).isEmpty
      || ")".toList.isPrefixOf (← rest) || ";;".toList.isPrefixOf (← rest)
    if atEnd then return []
    else
      let first ← chain (← pipeline fuel) fuel
      skipBlanks
      if ";;".toList.isPrefixOf (← rest) then return [first]
      else if ← accept ";" then return first :: (← commands fuel)
      else if ← accept "&" then return .background first :: (← commands fuel)
      else if ← accept "\n" then return first :: (← commands fuel)
      else return [first]

/-- Reads a list of commands. -/
def list : (fuel : Nat) → Reader Command
  | 0 => broken
  | fuel + 1 => do
    match ← commands fuel with
    | [only] => return only
    | commands => return .sequence commands

end

/-- A level of nesting that no text of the given length reaches. -/
def depthFor (length : Nat) : Nat := 16 * length + 64

end Reader

/-- The commands of a script. -/
def readScript? (text : List Char) : Option Command :=
  match (Reader.list (Reader.depthFor text.length)).run { text } with
  | some (command, ⟨[], _⟩) => some command
  | _ => none

end ModelServing.Shell
