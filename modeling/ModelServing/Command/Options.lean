/-! The options of the commands, and how the words of a command line are told apart. -/

namespace ModelServing.Command

/-- The options; each of them takes a value. -/
inductive OptionName where
  | installDirectory
  | socket
  | mode
  | contextSize
  | flag
  | registry
  | reference
  deriving DecidableEq, Repr

namespace OptionName

/-- The long spelling of an option, without its dashes. -/
def long : OptionName → String
  | .installDirectory => "sglang-dir"
  | .socket => "socket"
  | .mode => "mode"
  | .contextSize => "context-size"
  | .flag => "flag"
  | .registry => "models-config"
  | .reference => "model-ref"

/-- The letter that stands for an option after a single dash, if there is one. -/
def letter? : OptionName → Option Char
  | .socket => some 's'
  | .mode => some 'm'
  | .contextSize => some 'c'
  | .flag => some 'f'
  | _ => none

end OptionName

/-- The words of a command line, told apart. -/
structure Words where
  /-- The options with their values, in order. -/
  options : List (OptionName × String) := []
  /-- The words that are no options, in order. -/
  positional : List String := []
  deriving DecidableEq, Repr

namespace Words

/-- An option with its value in front of other words. -/
def withOption (name : OptionName) (value : String) (words : Words) : Words :=
  { words with options := (name, value) :: words.options }

/-- A word that is no option in front of other words. -/
def withPositional (word : String) (words : Words) : Words :=
  { words with positional := word :: words.positional }

/-- The values of an option, in order. -/
def values (words : Words) (name : OptionName) : List String :=
  words.options.filterMap fun entry => if entry.1 == name then some entry.2 else none

/-- The last value of an option. -/
def value? (words : Words) (name : OptionName) : Option String := (words.values name).getLast?

end Words

/-- Whether a word is written like an option: a dash and something after it. -/
def isOption (word : String) : Bool := word.toList.head? == some '-' && 1 < word.length

/-- The option of a word, and its value if the word holds it: after an equals sign where the option
is spelt in full, and at once after the letter that stands for the option. -/
def option? (known : List OptionName) (word : String) : Option (OptionName × Option String) :=
  -- A single dash is followed by one letter, whatever comes behind that is its value.
  match word.toList with
  | '-' :: '-' :: spelling =>
    let name := String.ofList (spelling.takeWhile (· != '='))
    let value := ((spelling.dropWhile (· != '=')).tail?).map String.ofList
    (known.find? fun option => option.long == name).map fun option => (option, value)
  | '-' :: letter :: value =>
    (known.find? fun option => option.letter? == some letter).map fun option =>
      (option, if value.isEmpty then none else some (String.ofList value))
  | _ => none

/-- Tells the words of a command line apart. It cannot be done if an option is unknown or lacks its
value. After two dashes there are no more options. -/
def Words.read? (known : List OptionName) : List String → Option Words
  -- An option without its value takes the next word, whatever that looks like.
  | [] => some {}
  | word :: rest =>
    if word == "--" then some { positional := rest }
    else if isOption word then
      match option? known word, rest with
      | some (name, some value), rest => (Words.read? known rest).map (withOption name value)
      | some (name, none), value :: rest => (Words.read? known rest).map (withOption name value)
      | some (_, none), [] => none
      | none, _ => none
    else (Words.read? known rest).map (withPositional word)

end ModelServing.Command
