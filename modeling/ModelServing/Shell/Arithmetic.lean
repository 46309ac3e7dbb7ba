import ModelServing.Shell.Format
import ModelServing.Shell.Syntax

/-! Arithmetic expressions of scripts. -/

namespace ModelServing.Shell

/-- A token of an expression. -/
inductive Token where
  | number (n : Int)
  | name (name : String)
  | symbol (text : String)
  deriving DecidableEq, Repr

/-- An arithmetic expression. -/
inductive Expression where
  | literal (n : Int)
  | parameter (name : String)
  | unary (operator : String) (inner : Expression)
  | binary (operator : String) (left right : Expression)
  | choice (condition left right : Expression)
  /-- Sets a variable, combined with what it held if there is an operator. -/
  | assign (name : String) (operator : Option String) (value : Expression)
  deriving DecidableEq, Repr

/-- Why an expression has no value. -/
inductive ArithmeticFault where
  | malformed
  | divisionByZero
  | notNumber (text : String)
  deriving DecidableEq, Repr

namespace Expression

/-- The binary operators, those that bind least first. -/
def levels : List (List String) :=
  [["||"], ["&&"], ["|"], ["^"], ["&"], ["==", "!="], ["<=", ">=", "<", ">"], ["<<", ">>"],
    ["+", "-"], ["*", "/", "%"]]

/-- The operators that a variable may be combined with when it is set. -/
def combining : List String := ["<<", ">>", "+", "-", "*", "/", "%", "&", "^", "|"]

/-- The symbols, longer ones before those that they begin with. -/
def symbols : List String :=
  combining.map (· ++ "=") ++ ["||", "&&", "==", "!=", "<=", ">=", "<<", ">>"]
    ++ ["=", "|", "^", "&", "<", ">", "+", "-", "*", "/", "%", "!", "~", "?", ":", "(", ")"]

/-- The tokens of an expression. -/
def tokens? : (fuel : Nat) → List Char → Option (List Token)
  -- Names and numbers are taken as far as they go, and of the symbols the longest one that fits.
  | 0, _ => none
  | _ + 1, [] => some []
  | fuel + 1, c :: rest =>
    if c == ' ' || c == '\t' || c == '\n' then tokens? fuel rest
    else
      let word := (c :: rest).takeWhile isNameChar
      if startsName c then
        (tokens? fuel ((c :: rest).drop word.length)).map (.name (String.ofList word) :: ·)
      else if c.isDigit then
        (tokens? fuel ((c :: rest).drop word.length)).map
          (.number (argumentNumber (String.ofList word)) :: ·)
      else
        match symbols.find? fun symbol => symbol.toList.isPrefixOf (c :: rest) with
        | some symbol => (tokens? fuel ((c :: rest).drop symbol.length)).map (.symbol symbol :: ·)
        | none => none

mutual

/-- Reads an expression that sets a variable, chooses, or computes. -/
def full? : (fuel : Nat) → List Token → Option (Expression × List Token)
  -- Setting a variable needs a name in front of the sign, which is looked for before anything else.
  | 0, _ => none
  | fuel + 1, tokens =>
    match tokens with
    | .name word :: .symbol symbol :: rest =>
      let operator := combining.find? fun operator => operator ++ "=" == symbol
      if symbol == "=" || operator.isSome then
        (full? fuel rest).map fun (value, rest) => (.assign word operator value, rest)
      else choice? fuel tokens
    | tokens => choice? fuel tokens

/-- Reads an expression that chooses or computes. -/
def choice? : (fuel : Nat) → List Token → Option (Expression × List Token)
  -- What is chosen may set variables, and what follows the colon may not.
  | 0, _ => none
  | fuel + 1, tokens => do
    let (condition, rest) ← level? levels fuel tokens
    match rest with
    | .symbol "?" :: rest => do
      let (left, rest) ← full? fuel rest
      let .symbol ":" :: rest := rest | none
      let (right, rest) ← choice? fuel rest
      return (.choice condition left right, rest)
    | rest => return (condition, rest)

/-- Reads an expression of operators that bind at least as the first of some levels do. -/
def level? (operators : List (List String)) :
    (fuel : Nat) → List Token → Option (Expression × List Token)
  -- The last level is that of expressions without such operators.
  | 0, _ => none
  | fuel + 1, tokens =>
    match operators with
    | [] => single? fuel tokens
    | level :: more => do
      let (left, rest) ← level? more fuel tokens
      extended? level more left fuel rest

/-- Reads on after the left side of operators that bind alike. -/
def extended? (level : List String) (more : List (List String)) (left : Expression) :
    (fuel : Nat) → List Token → Option (Expression × List Token)
  -- Operators of one level bind to the left.
  | 0, _ => none
  | fuel + 1, tokens =>
    match tokens with
    | .symbol symbol :: rest =>
      if level.contains symbol then do
        let (right, rest) ← level? more fuel rest
        extended? level more (.binary symbol left right) fuel rest
      else some (left, tokens)
    | tokens => some (left, tokens)

/-- Reads an expression without binary operators. -/
def single? : (fuel : Nat) → List Token → Option (Expression × List Token)
  -- A sign stands before an expression that has no binary operator outside brackets.
  | 0, _ => none
  | fuel + 1, tokens =>
    match tokens with
    | .number n :: rest => some (.literal n, rest)
    | .name word :: rest => some (.parameter word, rest)
    | .symbol "(" :: rest => do
      let (inner, rest) ← full? fuel rest
      let .symbol ")" :: rest := rest | none
      return (inner, rest)
    | .symbol symbol :: rest =>
      if ["!", "~", "-", "+"].contains symbol then
        (single? fuel rest).map fun (inner, rest) => (.unary symbol inner, rest)
      else none
    | [] => none

end

/-- Reads a whole expression; an empty one is zero. -/
def read? (cs : List Char) : Option Expression := do
  -- The fuel is enough for every level of every token.
  let tokens ← tokens? (cs.length + 1) cs
  if tokens.isEmpty then return .literal 0
  match full? (20 * tokens.length + 20) tokens with
  | some (expression, []) => return expression
  | _ => none

/-- A truth value as a number. -/
def ofTruth (b : Bool) : Int := if b then 1 else 0

/-- The bits of two numbers combined. A negative number has infinitely many ones in front. -/
def combineBits (f : Bool → Bool → Bool) (a b : Int) : Int :=
  (List.range 64).foldl (fun sum place =>
    let bit (n : Int) : Bool := Int.emod (Int.shiftRight n place) 2 != 0
    let weight : Int := Nat.pow 2 place
    if f (bit a) (bit b) then (if place == 63 then sum - weight else sum + weight) else sum) 0

/-- The value of a binary operator that needs both sides. -/
def apply (operator : String) (a b : Int) : Except ArithmeticFault Int :=
  -- Division rounds towards zero, and truth is a number.
  match operator with
  | "|" => .ok (combineBits (· || ·) a b)
  | "^" => .ok (combineBits (· != ·) a b)
  | "&" => .ok (combineBits (· && ·) a b)
  | "==" => .ok (ofTruth (a == b))
  | "!=" => .ok (ofTruth (a != b))
  | "<=" => .ok (ofTruth (a ≤ b))
  | ">=" => .ok (ofTruth (b ≤ a))
  | "<" => .ok (ofTruth (a < b))
  | ">" => .ok (ofTruth (b < a))
  | "<<" => .ok (a * Nat.pow 2 b.toNat)
  | ">>" => .ok (Int.shiftRight a b.toNat)
  | "+" => .ok (a + b)
  | "-" => .ok (a - b)
  | "*" => .ok (a * b)
  | "/" => if b == 0 then .error .divisionByZero else .ok (a.tdiv b)
  | _ => if b == 0 then .error .divisionByZero else .ok (a.tmod b)

/-- The variables that an expression reads and sets. -/
abbrev Variables := List (String × String)

/-- The number that a variable holds. -/
def number (held : Variables) (name : String) : Except ArithmeticFault Int :=
  -- An unset variable counts as zero, and a text that is no number is a fault.
  let text := ((held.find? fun entry => entry.1 == name).map (·.2)).getD ""
  let digits := if text.startsWith "-" || text.startsWith "+" then text.drop 1 else text
  if digits.isEmpty && text.isEmpty then .ok 0
  else if digits.any fun c => !c.isAlphanum then .error (.notNumber text)
  else if (digits.toString.toList.head?.map Char.isDigit).getD false then .ok (argumentNumber text)
  else .error (.notNumber text)

/-- The value of an expression, and the variables as it leaves them, the latest setting first. -/
def value : Expression → Variables → Except ArithmeticFault (Int × Variables)
  -- The right side of a joint is looked at only where the left one does not decide.
  | .literal n, held => .ok (n, held)
  | .parameter name, held => do return (← number held name, held)
  | .unary operator inner, held => do
    let (n, held) ← value inner held
    match operator with
    | "!" => return (ofTruth (n == 0), held)
    | "~" => return (-n - 1, held)
    | "-" => return (-n, held)
    | _ => return (n, held)
  | .binary operator left right, held => do
    let (a, held) ← value left held
    if operator == "&&" && a == 0 then return (0, held)
    if operator == "||" && a != 0 then return (1, held)
    let (b, held) ← value right held
    if operator == "&&" || operator == "||" then return (ofTruth (b != 0), held)
    return (← apply operator a b, held)
  | .choice condition left right, held => do
    let (n, held) ← value condition held
    if n != 0 then value left held else value right held
  | .assign name operator inner, held => do
    let (n, held) ← value inner held
    let n ←
      match operator with
      | some operator => apply operator (← number held name) n
      | none => pure n
    return (n, (name, toString n) :: held)

end Expression

/-- What is told about an expression without a value. -/
def ArithmeticFault.message (expression : String) : ArithmeticFault → String
  | .malformed => "arithmetic expression: expecting primary: \"" ++ expression ++ "\""
  | .divisionByZero => "arithmetic expression: division by zero: \"" ++ expression ++ "\""
  | .notNumber text => "Illegal number: " ++ text

end ModelServing.Shell
