import ModelServing.Run.Image
import ModelServing.Shell.Fields
import ModelServing.Shell.Jobs
import ModelServing.Shell.Programs
import ModelServing.Shell.Test

/-! The commands that a shell has of its own, and the programs of a plain host. -/

namespace ModelServing.Shell

/-- The letters of options: those given together, or the one of an option's name. -/
def optionLetters (letters : List Char) (names : List String) : List Char :=
  -- The options that have a name are those that the shell does something about.
  if letters != ['o'] then letters
  else
    match names with
    | ["errexit"] => ['e']
    | ["nounset"] => ['u']
    | _ => []

namespace Step

/-- Reads fields of a line into variables; the last of them takes the rest of the line. -/
def assignFields (separators : List Char) (line : List Char) : (names : List String) → Step Unit
  -- One separator that is no blank ends a field along with the blanks around it.
  | [] => return ()
  | [name] => assign name (String.ofList (Text.trimBy (lightIn separators) line))
  | name :: rest => do
    let line := line.dropWhile (lightIn separators)
    let field := line.takeWhile fun c => !separators.contains c
    assign name (String.ofList field)
    let after := (line.drop field.length).dropWhile (lightIn separators)
    let after :=
      match after with
      | c :: more => if separators.contains c then more else c :: more
      | [] => []
    assignFields separators after rest
where
  /-- Whether a character is a separator that counts only once in a row. -/
  lightIn (separators : List Char) (c : Char) : Bool := separators.contains c && Fields.isLight c

/-- The commands that need nothing but the state: their status, if the name is one of theirs. -/
def builtin? (name : String) (arguments : List String) : Option (Step Int) :=
  -- Whatever such a command writes goes through the targets of the shell.
  match name with
  | ":" | "true" => some (return 0)
  | "false" => some (return 1)
  | "echo" => some do
    write 1 (echoed arguments)
    return 0
  | "printf" => some do
    write 1 (formatted arguments)
    return 0
  | "test" => some do return testStatus (← world).fs arguments
  | "[" => some do
    match arguments.getLast? with
    | some "]" => return testStatus (← world).fs arguments.dropLast
    | _ => return 2
  | "pwd" => some do
    write 1 (bytesOf ((← shell).directory ++ "\n"))
    return 0
  | "cd" => some do
    let target := Path.join (← shell).directory (arguments.headD "/")
    match (← world).fs.enter target with
    | .ok fs =>
      modifyWorld fun world => { world with fs }
      modifyShell fun shell => { shell with directory := Path.normalize target }
      assign "PWD" (Path.normalize target)
      return 0
    | .error _ =>
      complain ("cd: can't cd to " ++ arguments.headD "/")
      return 2
  | "export" => some do
    for argument in arguments do
      let name := String.ofList (argument.toList.takeWhile (· != '='))
      if argument.toList.contains '=' then assign name (argument.drop (name.length + 1)).toString
      publish name
    return 0
  | "unset" => some do
    for argument in arguments do unset argument
    return 0
  | "shift" => some do
    let count := ((arguments.headD "1").toNat?).getD 1
    if (← shell).arguments.length < count then
      complain "shift: can't shift that many"
      throw (.exit 2)
    modifyShell fun shell => { shell with arguments := shell.arguments.drop count }
    return 0
  | "local" => some do
    for argument in arguments do
      let name := String.ofList (argument.toList.takeWhile (· != '='))
      let entry := (← shell).parameters.find? fun entry => entry.name == name
      modifyShell fun shell => { shell with saved := (name, entry) :: shell.saved }
      if argument.toList.contains '=' then assign name (argument.drop (name.length + 1)).toString
    return 0
  | "umask" => some (return 0)
  | "wait" => some do
    if arguments.isEmpty then waitForAll
    else arguments.foldlM (fun _ number => waitFor number) 0
  | "read" => some do
    let input := (← shell).input
    let line := input.takeWhile (· != 10)
    modifyShell fun shell => { shell with input := input.drop (line.length + 1) }
    let names := arguments.filter fun argument => !argument.startsWith "-"
    assignFields (← separators) (Text.Utf8.decodeLossy line) names
    return if input.length ≤ line.length then 1 else 0
  | "exit" => some do
    match arguments with
    | [] => throw (.exit (← shell).status)
    | text :: _ =>
      match text.toNat? with
      | some n => throw (.exit (n % 256 : Int))
      | none =>
        complain ("exit: Illegal number: " ++ text)
        throw (.exit 2)
  | "return" => some do
    throw (.back (((arguments.head?.bind String.toNat?).map fun n => (n % 256 : Int)).getD
      (← shell).status))
  | "break" => some (throw (.leave (((arguments.head?.bind String.toNat?).getD 1) - 1)))
  | "continue" => some (throw (.again (((arguments.head?.bind String.toNat?).getD 1) - 1)))
  | "set" => some do
    match arguments with
    | "--" :: words => modifyShell fun shell => { shell with arguments := words }
    | first :: rest =>
      match first.toList with
      | '-' :: letters =>
        let on := optionLetters letters rest
        modifyShell fun shell => { shell with options := shell.options ++ on }
      | '+' :: letters =>
        let off := optionLetters letters rest
        modifyShell fun shell =>
          { shell with options := shell.options.filter fun c => !off.contains c }
      | _ => modifyShell fun shell => { shell with arguments := first :: rest }
    | [] => return 0
    return 0
  | "trap" => some do
    match arguments with
    | action :: signals =>
      let numbers := signals.filterMap signalNumber?
      modifyShell fun shell =>
        let others := shell.traps.filter fun entry => !numbers.contains entry.1
        { shell with traps := others ++
            (if action == "-" then [] else numbers.map fun number => (number, action)) }
    | [] => return 0
    return 0
  | "kill" => some do
    let (signal, targets) :=
      match arguments with
      | "-s" :: name :: rest => ((signalNumber? name).getD 15, rest)
      | first :: rest =>
        if first.startsWith "-" then ((signalNumber? (first.drop 1).toString).getD 15, rest)
        else (15, first :: rest)
      | [] => (15, [])
    if targets.contains (toString firstNumber) || targets.contains "0" then
      match (← trap? signal).filter fun _ => signal != 9 with
      | some action =>
        modifyShell fun shell => { shell with pending := shell.pending ++ [action] }
        return 0
      | none =>
        if isHarmless signal then return 0
        else if signal == 19 then throw .unfinished
        else throw (.killed signal)
    else
      let numbers := (← world).jobs.map fun job => toString job.number
      for target in targets do
        if !isHarmless signal then killJob signal target
      return if targets.all numbers.contains then 0 else 1
  | _ => none

/-- What the programs of the system do, apart from those that run other programs. -/
def program (name : String) (arguments : List String) : Step Int := do
  -- The programs read the input of the shell where no file is named.
  match name with
  | "sleep" =>
    wait ((arguments.map milliseconds).foldr (· + ·) 0)
    return 0
  | "cat" =>
    let mut status : Int := 0
    if arguments.isEmpty then write 1 (← shell).input
    for path in arguments do
      if path == "-" then write 1 (← shell).input
      else
        match (← world).fs.read path with
        | .ok content => write 1 content.all
        | .error errno =>
          write 2 (bytesOf ("cat: " ++ path ++ ": " ++ errno.message ++ "\n"))
          status := 1
    return status
  | "wc" =>
    let (options, paths) := arguments.partition fun argument => argument.startsWith "-"
    if paths.isEmpty then write 1 (bytesOf (counted options 7 (← shell).input ++ "\n"))
    for path in paths do
      match (← world).fs.read path with
      | .ok content =>
        let width := (toString content.size).length
        write 1 (bytesOf (counted options width content.all ++ " " ++ path ++ "\n"))
      | .error errno => write 2 (bytesOf ("wc: " ++ path ++ ": " ++ errno.message ++ "\n"))
    return 0
  | "head" =>
    let (kind, count) := headPart arguments
    let paths := arguments.filter fun argument => !argument.startsWith "-" && argument.toNat?.isNone
    if paths.isEmpty then write 1 (kind.first count (← shell).input)
    for path in paths do
      match (← world).fs.read path with
      | .ok content => write 1 (kind.first count content.all)
      | .error _ => return 1
    return 0
  | "seq" =>
    let numbers := arguments.filterMap String.toInt?
    let (first, step, last) :=
      match numbers with
      | [last] => (1, 1, last)
      | [first, last] => (first, 1, last)
      | [first, step, last] => (first, step, last)
      | _ => (1, 1, 0)
    write 1 ((arithmeticRow first step last).flatMap fun n => bytesOf (toString n ++ "\n"))
    return 0
  | "touch" =>
    for path in arguments do
      match (← world).fs.write path {} true with
      | .ok fs => setFiles fs
      | .error _ => return 1
    return 0
  | "mkdir" =>
    for path in arguments.filter fun argument => !argument.startsWith "-" do
      match (← world).fs.createDirectories path with
      | .ok fs => setFiles fs
      | .error _ => return 1
    return 0
  | "rm" =>
    for path in arguments.filter fun argument => !argument.startsWith "-" do
      setFiles ((← world).fs.removeAll path)
    return 0
  | "echo" =>
    write 1 (plainEchoed arguments)
    return 0
  | "pwd" =>
    write 1 (bytesOf ((← world).fs.currentPath ++ "\n"))
    return 0
  | name => (builtin? name arguments).getD (return 127)

/-- Runs a step with a descriptor collected, and returns what it wrote. -/
def collecting {α : Type} (descriptor : Nat) (step : Step α) : Step (List UInt8 × α) := do
  -- What is written to the descriptor goes to a new list, which is taken away afterwards.
  let level := (← world).collected.length
  let before := (← shell).targets
  modifyWorld fun world => { world with collected := (level, []) :: world.collected }
  modifyShell fun shell =>
    { shell with targets := (descriptor, .collected level) :: before.filter (·.1 != descriptor) }
  let result ← step
  let bytes := (((← world).collected.find? fun entry => entry.1 == level).map (·.2)).getD []
  modifyWorld fun world =>
    { world with collected := world.collected.filter fun entry => entry.1 != level }
  modifyShell fun shell => { shell with targets := before }
  return (bytes.reverse, result)

/-- Runs a step whose status is looked at. -/
def tested (step : Step Unit) : Step Unit := do
  -- The mark is taken back however the step comes to an end.
  let before := (← shell).tested
  modifyShell fun shell => { shell with tested := true }
  tryCatch step fun stop => do
    modifyShell fun shell => { shell with tested := before }
    throw stop
  modifyShell fun shell => { shell with tested := before }

/-- Shows what commands would be run under some names, and tells whether all of them are known. -/
def shownCommands (names : List String) : Step Int := do
  -- Functions and commands of the shell go before programs.
  let mut status : Int := 0
  for name in names do
    let isFunction := (← shell).functions.any fun entry => entry.1 == name
    if isFunction || (builtin? name []).isSome then write 1 (bytesOf (name ++ "\n"))
    else
      let path := (← lookup? "PATH").getD ""
      let fs := (← world).fs
      let runnable (path : String) : Bool :=
        match fs.status path with
        | .ok entry => entry.isExecutable && !entry.isDirectory
        | .error _ => false
      match (Run.candidates ((← environment).set "PATH" path) name).find? runnable with
      | some path => write 1 (bytesOf (path ++ "\n"))
      | none => status := 127
  return status

/-- What runs under a name of a program, with arguments, in the environment of the shell. -/
def imageFor (name : String) (arguments : List String) : Step (Except Errno Run.Image) := do
  -- The search path is that of the shell, even if it is not exported.
  let environment ← environment
  let path := (← lookup? "PATH").getD ""
  let paths := Run.candidates (environment.set "PATH" path) name
  let oversized := Run.isOversized arguments environment
  return Run.loadFirst (← world).fs oversized arguments none paths

/-- Opens a redirection in the shell. -/
def openTarget (descriptor : Nat) (opening : Opening) (target : String) : Step Bool := do
  -- Files are opened by writing to them, nothing or an empty content, so that they are there
  -- afterwards.
  let put (found : Target) : Step Bool := do
    modifyShell fun shell =>
      { shell with targets := (descriptor, found) :: shell.targets.filter (·.1 != descriptor) }
    return true
  let path := target
  match opening with
  | .duplicating =>
    match (← shell).targets.find? fun entry => some entry.1 == target.toNat? with
    | some (_, found) => put found
    | none => put .nowhere
  | .reading =>
    match (← world).fs.read path with
    | .ok content =>
      modifyShell fun shell => { shell with input := content.all }
      return true
    | .error _ =>
      complain ("cannot open " ++ target ++ ": No such file")
      return false
  | .writing =>
    match (← world).fs.write path {} false with
    | .ok fs =>
      setFiles fs
      put (.file path)
    | .error _ =>
      complain ("cannot create " ++ target ++ ": Directory nonexistent")
      return false
  | .appending =>
    match (← world).fs.write path {} true with
    | .ok fs =>
      setFiles fs
      put (.file path)
    | .error _ =>
      complain ("cannot create " ++ target ++ ": Directory nonexistent")
      return false

end Step

end ModelServing.Shell
