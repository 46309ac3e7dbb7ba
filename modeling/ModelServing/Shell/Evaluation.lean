import ModelServing.Shell.Arithmetic
import ModelServing.Shell.Builtins
import ModelServing.Shell.Reader

/-! How scripts run. -/

namespace ModelServing.Shell

/-- A text of collected bytes, without the line ends at its end. -/
def collectedText (bytes : List UInt8) : String :=
  let cs := Text.Utf8.decodeLossy bytes
  String.ofList (cs.reverse.dropWhile (· == '\n')).reverse

/-- The variables of a new shell: those of the environment that have names. -/
def importedVariables (environment : Environment) (directory : String) : List Variable :=
  let imported := (environment.filter fun entry => isName entry.1 && entry.1 != "PWD").map
    fun entry => { name := entry.1, value := entry.2, exported := true : Variable }
  { name := "PWD", value := directory } :: imported

open Step

mutual

/-- The pieces that a part of a word expands to. -/
def expandPart (part : Part) : (fuel : Nat) → Step (List Piece)
  -- Whether a piece is quoted decides later what divides it and what is a sign of a pattern.
  | 0 => throw .unfinished
  | fuel + 1 => do
    match part with
    | .text cs quoted => return [.run (marked (if quoted then .quoted else .literal) cs)]
    | .parameter name quoted =>
      if name == "@" then return Piece.ofTexts quoted (← shell).arguments
      else if name == "*" && !quoted then return Piece.ofTexts quoted (← shell).arguments
      else
        match ← parameter? name with
        | some value => return Piece.ofText quoted value
        | none =>
          if (← shell).options.contains 'u' && name != "@" && name != "*" then
            complain (name ++ ": parameter not set")
            throw (.exit 2)
          return Piece.ofText quoted ""
    | .length name quoted =>
      return Piece.ofText quoted (toString ((← parameter? name).getD "").length)
    | .alternative name kind orEmpty word quoted =>
      let value ← parameter? name
      let present :=
        match value with
        | some text => !(orEmpty && text.isEmpty)
        | none => false
      let whole (word : Word) : Step (List Piece) := do
        if quoted then
          return [.run (marked .quoted ((flattened (← expandParts word fuel)).map (·.1)))]
        else expandParts word fuel
      match kind, present with
      | .instead, true => whole word
      | .instead, false => return []
      | _, true => return Piece.ofText quoted (value.getD "")
      | .default, false => whole word
      | .assigned, false =>
        let text := (flattened (← expandParts word fuel)).text
        assign name text
        return Piece.ofText quoted text
      | .required, false =>
        let text := (flattened (← expandParts word fuel)).text
        complain (name ++ ": " ++ (if text.isEmpty then "parameter not set" else text))
        throw (.exit 2)
    | .trimmed name atEnd longest pattern quoted =>
      let text := (← parameter? name).getD ""
      let pattern := flattened (← expandParts pattern fuel)
      return Piece.ofText quoted (String.ofList (pattern.trim atEnd longest text.toList))
    | .output script quoted =>
      let (bytes, status) ← collecting 1 (apart (perform script fuel))
      setStatus status
      return Piece.ofText quoted (collectedText bytes)
    | .arithmetic expression quoted =>
      let text := (flattened (← expandParts expression fuel)).text
      let held := (← shell).parameters.map fun entry => (entry.name, entry.value)
      let result : Except ArithmeticFault (Int × Expression.Variables) :=
        match Expression.read? text.toList with
        | some expression => expression.value held
        | none => .error .malformed
      match result with
      | .ok (n, after) =>
        for (name, value) in (after.take (after.length - held.length)).reverse do
          assign name value
        return Piece.ofText quoted (toString n)
      | .error fault =>
        complain (fault.message text)
        throw (.exit 2)

/-- The pieces that a word expands to. -/
def expandParts (word : Word) : (fuel : Nat) → Step (List Piece)
  -- All arguments between quotation marks are the one word that may become none.
  | 0 => throw .unfinished
  | fuel + 1 => do
    match word with
    | [.text [] true, .parameter "@" true] => return Piece.ofTexts true (← shell).arguments
    | word =>
      let mut pieces : List Piece := []
      for part in word do pieces := pieces ++ (← expandPart part fuel)
      return pieces

/-- The words that a word expands to. -/
def expandWord (word : Word) : (fuel : Nat) → Step (List String)
  -- A word of a pattern that fits no path stays as it is.
  | 0 => throw .unfinished
  | fuel + 1 => do
    let fields := gather (← separators) (← expandParts word fuel) {}
    let fs := (← world).fs
    return fields.flatMap fun field =>
      let paths := field.paths fs
      if paths.isEmpty then [field.text] else paths

/-- The words that several words expand to. -/
def expandWords (words : List Word) : (fuel : Nat) → Step (List String)
  | 0 => throw .unfinished
  | fuel + 1 => do
    let mut found : List String := []
    for word in words do found := found ++ (← expandWord word fuel)
    return found

/-- The text that a word expands to where it stays one word. -/
def expandText (word : Word) : (fuel : Nat) → Step String
  | 0 => throw .unfinished
  | fuel + 1 => do return (flattened (← expandParts word fuel)).text

/-- Runs a command. -/
def perform (command : Command) : (fuel : Nat) → Step Unit
  -- The words of a simple command are expanded before its redirections are opened. The status is
  -- settled behind whatever counts as one command.
  | 0 => throw .unfinished
  | fuel + 1 => do
    match command with
    | .simple line assigned words =>
      simple line assigned words fuel
      settle fuel
    | .redirected (.simple line assigned words) redirects =>
      let before ← shell
      let given ← expandWords words fuel
      if ← openAll redirects fuel then
        if given.head? == some "exec" && given.length == 1 then setStatus 0
        else
          let literal := given.map fun word => [Part.text word.toList true]
          tryCatch (simple line assigned literal fuel) fun stop => do
            modifyShell fun shell => { shell with targets := before.targets, input := before.input }
            throw stop
          modifyShell fun shell => { shell with targets := before.targets, input := before.input }
      else
        modifyShell fun shell => { shell with targets := before.targets, input := before.input }
        setStatus 2
      settle fuel
    | .redirected command redirects =>
      let before ← shell
      if ← openAll redirects fuel then
        tryCatch (perform command fuel) fun stop => do
          modifyShell fun shell => { shell with targets := before.targets, input := before.input }
          throw stop
        modifyShell fun shell => { shell with targets := before.targets, input := before.input }
      else
        modifyShell fun shell => { shell with targets := before.targets, input := before.input }
        setStatus 2
    | .pipeline negated stages =>
      if negated then
        tested (piped stages (← shell).input fuel)
        setStatus (if (← shell).status == 0 then 1 else 0)
      else
        piped stages (← shell).input fuel
        settle fuel
    | .both first second =>
      tested (perform first fuel)
      if (← shell).status == 0 then perform second fuel
    | .either first second =>
      tested (perform first fuel)
      if (← shell).status != 0 then perform second fuel
    | .sequence commands => for command in commands do perform command fuel
    | .background command =>
      match command with
      | .subshell command => inBackground false (perform command fuel)
      | .simple .. | .redirected (.simple ..) _ => inBackground true (perform command fuel)
      | command => inBackground false (perform command fuel)
    | .subshell command =>
      setStatus (← apart (perform command fuel))
      settle fuel
    | .branch condition body otherwise =>
      tested (perform condition fuel)
      if (← shell).status == 0 then perform body fuel
      else
        setStatus 0
        perform otherwise fuel
    | .loop negated condition body => repeated negated condition body fuel
    | .each name words body =>
      let items ←
        match words with
        | some words => expandWords words fuel
        | none => pure (← shell).arguments
      setStatus 0
      eachOf name items body fuel
    | .select word arms =>
      let text ← expandText word fuel
      setStatus 0
      selected text.toList arms fuel
    | .define name body =>
      modifyShell fun shell => { shell with functions := (name, body) :: shell.functions }
      setStatus 0

/-- Does what is still to be done for signals, and ends the shell where the status of the last
command asks for it. -/
def settle : (fuel : Nat) → Step Unit
  -- The actions are run in the order in which their signals came, and none of them changes the
  -- status.
  | 0 => throw .unfinished
  | fuel + 1 => do
    heed
    let before ← shell
    modifyShell fun shell => { shell with pending := [] }
    for action in before.pending do
      if let some command := readScript? action.toList then perform command fuel
      setStatus before.status
    if before.options.contains 'e' && !before.tested && before.status != 0 then
      throw (.exit before.status)

/-- Opens redirections in order, up to the first that fails. -/
def openAll (redirects : List Redirect) : (fuel : Nat) → Step Bool
  -- A redirection that fails leaves those before it open.
  | 0 => throw .unfinished
  | fuel + 1 => do
    match redirects with
    | [] => return true
    | .redirect descriptor opening target :: rest =>
      if ← openTarget descriptor opening (← expandText target fuel) then openAll rest fuel
      else return false
    | .document _ text :: rest =>
      let input := bytesOf (← expandText text fuel)
      modifyShell fun shell => { shell with input }
      openAll rest fuel

/-- Runs the stages of a pipeline, each on what the one before it wrote. -/
def piped (stages : List Command) (input : List UInt8) : (fuel : Nat) → Step Unit
  -- Each stage has what the one before it wrote as its input, and a shell of its own.
  | 0 => throw .unfinished
  | fuel + 1 => do
    let fed (command : Command) : Step Unit := do
      modifyShell fun shell => { shell with input }
      perform command fuel
    match stages with
    | [] => return ()
    | [last] => setStatus (← apart (fed last))
    | first :: rest =>
      let (bytes, _) ← collecting 1 (apart (fed first))
      piped rest bytes fuel

/-- Runs a loop. -/
def repeated (negated : Bool) (condition body : Command) : (fuel : Nat) → Step Unit
  -- A loop that goes on beyond the horizon is not followed to its end.
  | 0 => throw .unfinished
  | fuel + 1 => do
    if horizon < (← world).clock then throw .unfinished
    tested (perform condition fuel)
    if ((← shell).status == 0) != negated then
      if ← once body fuel then repeated negated condition body fuel
    else setStatus 0

/-- Runs the body of a loop once, and tells whether the loop goes on. -/
def once (body : Command) : (fuel : Nat) → Step Bool
  -- Leaving several loops takes one away at a time.
  | 0 => throw .unfinished
  | fuel + 1 => do
    tryCatch (do
      perform body fuel
      return true) fun stop =>
        match stop with
        | .leave 0 => return false
        | .again 0 => return true
        | .leave (loops + 1) => throw (.leave loops)
        | .again (loops + 1) => throw (.again loops)
        | stop => throw stop

/-- Runs the body of a loop for each item. -/
def eachOf (name : String) (items : List String) (body : Command) : (fuel : Nat) → Step Unit
  -- Each item is assigned before the body runs, so the last one stays.
  | 0 => throw .unfinished
  | fuel + 1 => do
    match items with
    | [] => return ()
    | item :: rest =>
      assign name item
      if ← once body fuel then eachOf name rest body fuel

/-- Runs the first arm that a text fits. -/
def selected (text : List Char) (arms : List (List Word × Command)) : (fuel : Nat) → Step Unit
  -- The patterns are expanded one arm at a time, so that those behind the first fit have no effect.
  | 0 => throw .unfinished
  | fuel + 1 => do
    match arms with
    | [] => return ()
    | (patterns, body) :: rest =>
      let mut found := false
      for pattern in patterns do
        if (flattened (← expandParts pattern fuel)).matches text then found := true
      if found then perform body fuel else selected text rest fuel

/-- Runs a simple command. -/
def simple (line : Nat) (assigned : List (String × Word)) (words : List Word) :
    (fuel : Nat) → Step Unit
  -- Assignments before a command hold for that command only, and otherwise for the shell.
  | 0 => throw .unfinished
  | fuel + 1 => do
    modifyShell fun shell => { shell with line }
    let keepsStatus := words.isEmpty && assigned.any fun entry => entry.2.hasOutput
    let words ← expandWords words fuel
    let before := (← shell).parameters
    let names := assigned.map (·.1)
    for (name, word) in assigned do
      assign name (← expandText word fuel)
      if !words.isEmpty then publish name
    match words with
    | [] => unless keepsStatus do setStatus 0
    | name :: arguments =>
      setStatus (← invoke name arguments fuel)
      for name in names do restore name (before.find? fun entry => entry.name == name)

/-- Runs a function, a command of the shell or a program, and returns its status. -/
def invoke (name : String) (arguments : List String) : (fuel : Nat) → Step Int
  -- Functions go before commands of the shell, which go before programs.
  | 0 => throw .unfinished
  | fuel + 1 => do
    match (← shell).functions.find? fun entry => entry.1 == name with
    | some (_, body) =>
      let outer ← shell
      modifyShell fun shell => { shell with arguments, saved := [] }
      tryCatch (perform body fuel) fun stop =>
        match stop with
        | .back status => setStatus status
        | stop => throw stop
      for (name, entry) in (← shell).saved do restore name entry
      modifyShell fun shell => { shell with arguments := outer.arguments, saved := outer.saved }
      return (← shell).status
    | none =>
      match name with
      | "exec" =>
        match arguments with
        | [] => return 0
        | name :: arguments =>
          let status ← external name arguments true fuel
          throw (.exit status)
      | "eval" =>
        match readScript? (" ".intercalate arguments).toList with
        | some command =>
          setStatus 0
          perform command fuel
          return (← shell).status
        | none => throw (.exit 2)
      | "command" =>
        match arguments with
        | [] => return 0
        | "-v" :: names => shownCommands names
        | name :: arguments => invoke name arguments fuel
      | "." =>
        match (← world).fs.read (arguments.headD "") with
        | .ok content =>
          match readScript? (Text.Utf8.decodeLossy content.bytes) with
          | some command =>
            perform command fuel
            return (← shell).status
          | none => throw (.exit 2)
        | .error _ =>
          complain (".: cannot open " ++ arguments.headD "" ++ ": No such file")
          throw (.exit 2)
      | name => (builtin? name arguments).getD (external name arguments false fuel)

/-- Runs a program, and returns its status. -/
def external (name : String) (arguments : List String) (final : Bool) : (fuel : Nat) → Step Int
  -- An absence has a status of its own, and so has any other failure.
  | 0 => throw .unfinished
  | fuel + 1 => do
    let environment ← environment
    match ← imageFor name arguments with
    | .error errno =>
      let wrong := if Run.isAbsence errno then "not found" else errno.message
      complain ((if final then "exec: " else "") ++ name ++ ": " ++ wrong)
      return if Run.isAbsence errno then 127 else 126
    | .ok image =>
      let before ← shell
      if final then
        modifyShell fun shell => { shell with traps := shell.traps.filter (·.2.isEmpty) }
        runImage image environment fuel
      else
        modifyShell fun shell => { shell with depth := shell.depth + 1 }
        let status ← tryCatch (runImage image environment fuel) fun stop => do
          match stop with
          | .killed signal =>
            if let some notice := deathNotice? signal then write 2 (bytesOf (notice ++ "\n"))
            return 128 + signal
          | stop => throw stop
        modifyShell fun shell => { shell with depth := before.depth }
        return status

/-- Runs an image with an environment, and returns its status. -/
def runImage (image : Run.Image) (environment : Environment) : (fuel : Nat) → Step Int
  -- Two programs run something else in turn, and all others are done at once.
  | 0 => throw .unfinished
  | fuel + 1 => do
    match image.program with
    | "sh" => isolated (holding (script image.arguments environment fuel))
    | "env" =>
      let settings := image.arguments.takeWhile fun argument => argument.toList.contains '='
      match image.arguments.drop settings.length with
      | [] =>
        for entry in environment do write 1 (bytesOf (entry.1 ++ "=" ++ entry.2 ++ "\n"))
        return 0
      | name :: arguments =>
        isolated do
          for setting in settings do
            let name := String.ofList (setting.toList.takeWhile (· != '='))
            assign name (setting.drop (name.length + 1)).toString
            publish name
          match ← imageFor name arguments with
          | .ok image => setStatus (← runImage image (← Step.environment) fuel)
          | .error errno =>
            write 2 (bytesOf ("env: '" ++ name ++ "': " ++ errno.message ++ "\n"))
            setStatus (if Run.isAbsence errno then 127 else 126)
    | name => program name image.arguments

/-- Runs a shell on its arguments. -/
def script (arguments : List String) (environment : Environment) : (fuel : Nat) → Step Unit
  -- A shell has parameters of its own; an action for its end is run once, however it ends.
  | 0 => throw .unfinished
  | fuel + 1 => do
    let directory := (← world).fs.currentPath
    let enter (name : String) (arguments : List String) : Step Unit := modifyShell fun shell =>
      { name, arguments, depth := shell.depth, directory
        parameters := importedVariables environment directory
        targets := shell.targets, input := shell.input
        traps := shell.traps.filter (·.2.isEmpty) }
    let follow (text : List Char) : Step Unit := do
      match readScript? text with
      | some command =>
        let finish : Step Unit := do
          match ← trap? 0 with
          | some action =>
            modifyShell fun shell => { shell with traps := [] }
            match readScript? action.toList with
            | some command =>
              let status := (← shell).status
              perform command fuel
              setStatus status
            | none => return ()
          | none => return ()
        tryCatch (perform command fuel) fun stop => do
          match stop with
          | .exit status =>
            setStatus status
            finish
            throw (.exit status)
          | stop => throw stop
        finish
      | none =>
        complain "Syntax error"
        throw (.exit 2)
    match arguments with
    | "-c" :: code :: rest =>
      enter (rest.headD "sh") rest.tail
      follow code.toList
    | path :: rest =>
      enter path rest
      match (← world).fs.read path with
      | .ok content => follow (Text.Utf8.decodeLossy content.bytes)
      | .error _ =>
        write 2 (bytesOf (path ++ ": 0: cannot open " ++ path ++ ": No such file\n"))
        throw (.exit 2)
    | [] =>
      let text := Text.Utf8.decodeLossy (← shell).input
      enter "sh" []
      follow text

end

end ModelServing.Shell
