import ModelServing.Command.Options
import ModelServing.Launch.Mode
import ModelServing.Number.Numeral

/-! What a command line asks for. -/

namespace ModelServing.Command

/-- What is asked about the arguments of a server. -/
structure LaunchOptions where
  model : String
  socket : String
  mode : Mode := .completion
  contextSize : Option Int := none
  flags : List String := []
  /-- The path of the registry, if it is not the usual one. -/
  registryPath : Option String := none
  deriving DecidableEq, Repr

/-- What a command line asks for. -/
inductive Invocation where
  /-- Check for an installation. -/
  | probe (directory : Option String)
  /-- Show the arguments of a server. -/
  | showArguments (options : LaunchOptions)
  /-- Run a server, under a second name as well if there is a reference. -/
  | serve (options : LaunchOptions) (reference directory : Option String)
  /-- Show the size of the prebuilt installation. -/
  | diskUsage (directory : Option String)
  /-- Show the version. -/
  | version
  deriving DecidableEq, Repr

namespace Invocation

/-- The socket of a server if no other one is asked for. -/
def usualSocket : String := "127.0.0.1"

/-- The options of a server's arguments. -/
def launchOptionNames : List OptionName := [.socket, .mode, .contextSize, .flag, .registry]

/-- An integer that may be absent, but has to be readable. -/
def optionalNumber? : Option String → Option (Option Int)
  -- The two layers are the option that may be absent, and the number that may be unreadable.
  | none => some none
  | some text =>
    match Number.Numeral.read 10 text with
    | .ok n => some (some n)
    | .error _ => none

/-- A mode that may be absent, but has to be known. -/
def modeOr? (otherwise : Mode) : Option String → Option Mode
  | none => some otherwise
  | some text => Mode.ofValue? (.text text)

/-- What the words of a command line ask about a server's arguments. -/
def launchOptions? (socket : Option String) (words : Words) : Option LaunchOptions := do
  -- There has to be one word that is no option, the model; the address may have a usual value.
  let [model] := words.positional | none
  let socket ← words.value? .socket <|> socket
  let mode ← modeOr? .completion (words.value? .mode)
  let contextSize ← optionalNumber? (words.value? .contextSize)
  return { model, socket, mode, contextSize, flags := words.values .flag
           registryPath := words.value? .registry }

/-- The words of a command that takes options alone. -/
def optionsOnly? (known : List OptionName) (arguments : List String) : Option Words :=
  (Words.read? known arguments).filter fun words => words.positional.isEmpty

/-- What the words after a command's name ask for. -/
def ofCommand? (command : String) (arguments : List String) : Option Invocation :=
  -- Each command knows its own options, and any other option makes the line unreadable.
  if command == "probe" then
    (optionsOnly? [.installDirectory] arguments).map fun words =>
      .probe (words.value? .installDirectory)
  else if command == "args" then do
    let words ← Words.read? launchOptionNames arguments
    return .showArguments (← launchOptions? (some usualSocket) words)
  else if command == "serve" then do
    let words ← Words.read? (launchOptionNames ++ [.reference, .installDirectory]) arguments
    return .serve (← launchOptions? none words) (words.value? .reference)
      (words.value? .installDirectory)
  else if command == "disk-usage" then
    (optionsOnly? [.installDirectory] arguments).map fun words =>
      .diskUsage (words.value? .installDirectory)
  else if command == "version" then (optionsOnly? [] arguments).map fun _ => .version
  else none

/-- What a command line asks for, if it is well formed. Two dashes may stand before the name of the
command. -/
def read? : List String → Option Invocation
  | "--" :: command :: arguments => ofCommand? command arguments
  | command :: arguments => ofCommand? command arguments
  | [] => none

end Invocation

end ModelServing.Command
