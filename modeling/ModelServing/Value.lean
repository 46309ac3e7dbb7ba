import ModelServing.Number.Notation
import ModelServing.Text.Quoted

/-! Document values: what configuration files and requests are made of. -/

namespace ModelServing

/-- A calendar date. -/
structure Date where
  year : Nat
  month : Nat
  day : Nat
  deriving DecidableEq, Repr

/-- A time of day, with its distance from universal time in seconds when that is known. -/
structure TimeOfDay where
  hour : Nat
  minute : Nat
  second : Nat
  microsecond : Nat
  offset : Option Int
  deriving DecidableEq, Repr

/-- A document value. Entries of a mapping keep the order in which their keys first appeared. -/
inductive Value where
  | null
  | bool (b : Bool)
  | int (n : Int)
  | float (x : Number.Binary64)
  | text (s : String)
  | bytes (content : List UInt8)
  | date (day : Date)
  | instant (day : Date) (time : TimeOfDay)
  | list (items : List Value)
  /-- An entry of a list that keeps the order of keys with their values. -/
  | pair (first second : Value)
  | map (entries : List (Value × Value))
  | set (items : List Value)
  deriving Inhabited, Repr

namespace Value

/-- The integer that a truth value or an integer counts as. -/
def asInt? : Value → Option Int
  | .bool b => some (if b then 1 else 0)
  | .int n => some n
  | _ => none

/-- Whether two scalar values are the same mapping key. Truth values count as the integers 1 and 0,
and numbers of both kinds are the same key when they are equal. -/
def sameKey (a b : Value) : Bool :=
  -- Truth values, integers and floating-point numbers are compared as numbers, and anything else
  -- within its own kind.
  match a, b with
  | .null, .null => true
  | .text s, .text t => s == t
  | .bytes s, .bytes t => s == t
  | .date d, .date e => d == e
  | .instant d t, .instant e u => d == e && t == u
  | .float x, .float y => x.sameValue y
  | .float x, b => (b.asInt?.map fun n => x.toInt? == some n).getD false
  | a, .float y => (a.asInt?.map fun n => y.toInt? == some n).getD false
  | a, b =>
    match a.asInt?, b.asInt? with
    | some m, some n => m == n
    | _, _ => false

/-- Puts a value under a key: at the key's place if it is there, at the end otherwise. -/
def putEntry (key value : Value) : List (Value × Value) → List (Value × Value)
  | [] => [(key, value)]
  | (other, old) :: rest =>
    if other.sameKey key then (other, value) :: rest else (other, old) :: putEntry key value rest

/-- The value under a text key. -/
def lookup? (name : String) (entries : List (Value × Value)) : Option Value :=
  (entries.find? fun entry => entry.1.sameKey (.text name)).map (·.2)

/-- Whether a value counts as true: anything but null, false, zero and the empty values. -/
def isTruthy : Value → Bool
  -- A date counts as true, since there is no empty one.
  | .null => false
  | .bool b => b
  | .int n => n != 0
  | .float x => !x.isZero
  | .text s => !s.isEmpty
  | .bytes content => !content.isEmpty
  | .date _ => true
  | .instant .. => true
  | .list items => !items.isEmpty
  | .pair .. => true
  | .map entries => !entries.isEmpty
  | .set items => !items.isEmpty

/-- A number in decimal, padded with zeros on the left. -/
def padded (width n : Nat) : String :=
  let digits := toString n
  String.ofList (List.replicate (width - digits.length) '0') ++ digits

end Value

/-- A date as year, month and day. -/
def Date.text (day : Date) : String :=
  Value.padded 4 day.year ++ "-" ++ Value.padded 2 day.month ++ "-" ++ Value.padded 2 day.day

/-- A distance from universal time, in hours and minutes, and in seconds where those differ. -/
def TimeOfDay.offsetText (offset : Int) : String :=
  -- The sign stands for the whole distance, so the parts are those of its size.
  let size := offset.natAbs
  let seconds := size % 60
  (if offset < 0 then "-" else "+") ++ Value.padded 2 (size / 3600) ++ ":"
    ++ Value.padded 2 (size / 60 % 60)
    ++ (if seconds == 0 then "" else ":" ++ Value.padded 2 seconds)

/-- A time of day, with its microseconds unless there are none. -/
def TimeOfDay.text (time : TimeOfDay) : String :=
  Value.padded 2 time.hour ++ ":" ++ Value.padded 2 time.minute ++ ":" ++ Value.padded 2 time.second
    ++ (if time.microsecond == 0 then "" else "." ++ Value.padded 6 time.microsecond)
    ++ ((time.offset.map TimeOfDay.offsetText).getD "")

/-- A date as it is shown inside another value. -/
def Date.shown (day : Date) : String :=
  "datetime.date(" ++ toString day.year ++ ", " ++ toString day.month ++ ", " ++ toString day.day
    ++ ")"

/-- A distance from universal time as it is shown inside another value: in whole days, which may
be before it, and the seconds after those. -/
def TimeOfDay.shownZone (offset : Int) : String :=
  -- Days are rounded down, so that the seconds behind them are never negative.
  let days := offset / 86400
  let seconds := offset % 86400
  if offset == 0 then "datetime.timezone.utc"
  else
    "datetime.timezone(datetime.timedelta("
      ++ (if days == 0 then "" else "days=" ++ toString days ++ ", ")
      ++ "seconds=" ++ toString seconds ++ "))"

/-- A date with a time of day as it is shown inside another value. -/
def TimeOfDay.shownOn (day : Date) (time : TimeOfDay) : String :=
  -- Seconds are left out only if the microseconds are as well.
  let numbers := [day.year, day.month, day.day, time.hour, time.minute]
    ++ (if time.second == 0 && time.microsecond == 0 then [] else [time.second])
    ++ (if time.microsecond == 0 then [] else [time.microsecond])
  "datetime.datetime(" ++ ", ".intercalate (numbers.map toString)
    ++ ((time.offset.map fun offset => ", tzinfo=" ++ shownZone offset).getD "") ++ ")"

namespace Value

/-- The name of a value's type. -/
def typeName : Value → String
  | .null => "NoneType"
  | .bool _ => "bool"
  | .int _ => "int"
  | .float _ => "float"
  | .text _ => "str"
  | .bytes _ => "bytes"
  | .date _ => "date"
  | .instant .. => "datetime"
  | .list _ => "list"
  | .pair .. => "tuple"
  | .map _ => "dict"
  | .set _ => "set"

/-- The number of digits of an integer from which on it is not shown. -/
def digitLimit : Nat := 4300

mutual

/-- Whether a value can be shown: it holds no integer of too many digits. -/
def isShowable : Value → Bool
  -- Only numbers have digits to count, so containers are asked for what they hold.
  | .int n => n.natAbs < 10 ^ digitLimit
  | .list items => areShowable items
  | .pair first second => first.isShowable && second.isShowable
  | .map entries => entriesShowable entries
  | .set items => areShowable items
  | _ => true

/-- Whether all values can be shown. -/
def areShowable : List Value → Bool
  | [] => true
  | item :: rest => item.isShowable && areShowable rest

/-- Whether all keys and their values can be shown. -/
def entriesShowable : List (Value × Value) → Bool
  | [] => true
  | (key, value) :: rest => key.isShowable && value.isShowable && entriesShowable rest

end

mutual

/-- A value as it is shown inside another one: text is quoted. -/
def shown : Value → String
  -- An empty set would be read as an empty mapping, so it is spelled in another way.
  | .null => "None"
  | .bool b => if b then "True" else "False"
  | .int n => toString n
  | .float x => x.text
  | .text s => Text.quoted s
  | .bytes content => "b" ++ Text.quotedBytes content
  | .date day => day.shown
  | .instant day time => time.shownOn day
  | .list items => "[" ++ shownItems items ++ "]"
  | .pair first second => "(" ++ first.shown ++ ", " ++ second.shown ++ ")"
  | .map entries => "\x7b" ++ shownEntries entries ++ "\x7d"
  | .set [] => "set()"
  | .set items => "\x7b" ++ shownItems items ++ "\x7d"

/-- Values separated by commas. -/
def shownItems : List Value → String
  | [] => ""
  | [item] => item.shown
  | item :: rest => item.shown ++ ", " ++ shownItems rest

/-- Keys with their values, separated by commas. -/
def shownEntries : List (Value × Value) → String
  | [] => ""
  | [(key, value)] => key.shown ++ ": " ++ value.shown
  | (key, value) :: rest => key.shown ++ ": " ++ value.shown ++ ", " ++ shownEntries rest

end

/-- A value as it is shown on its own: text stands for itself, and so do dates. -/
def display : Value → String
  | .text s => s
  | .date day => day.text
  | .instant day time => day.text ++ " " ++ time.text
  | value => value.shown

end Value

end ModelServing
