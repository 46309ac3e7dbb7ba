import ModelServing.Value
import ModelServing.Yaml.Fault

/-! Dates and times in YAML texts. -/

namespace ModelServing.Yaml

/-- The distance from universal time that a timestamp names: sign, hours and minutes. -/
structure ZoneSpelling where
  negative : Bool
  hours : Nat
  minutes : Nat
  deriving DecidableEq, Repr

/-- The time of day that a timestamp names. -/
structure TimeSpelling where
  hour : Nat
  minute : Nat
  second : Nat
  fraction : List Char
  zone : Option ZoneSpelling
  deriving DecidableEq, Repr

/-- A timestamp as it is spelt, before its numbers are checked. -/
structure Timestamp where
  year : Nat
  month : Nat
  day : Nat
  /-- Whether month and day have two digits each. -/
  padded : Bool
  time : Option TimeSpelling
  deriving DecidableEq, Repr

namespace Timestamp

/-- The value of ASCII digits. -/
def number (digits : List Char) : Nat := digits.foldl (fun n d => n * 10 + (d.toNat - 48)) 0

/-- Reads at least `least` and at most `most` digits. -/
def digits? (least most : Nat) (cs : List Char) : Option (List Char × List Char) :=
  let run := (cs.take most).takeWhile Char.isDigit
  if least ≤ run.length then some (run, cs.drop run.length) else none

/-- Reads one given character. -/
def char? (c : Char) (cs : List Char) : Option (List Char) :=
  match cs with
  | head :: rest => if head == c then some rest else none
  | [] => none

/-- Reads what separates a date from a time: a letter T, or blanks. -/
def separator? (cs : List Char) : Option (List Char) :=
  -- There is a letter or any number of blanks, but not both.
  match cs with
  | c :: rest =>
    if c == 'T' || c == 't' then some rest
    else if c == ' ' || c == '\t' then some (rest.dropWhile fun c => c == ' ' || c == '\t')
    else none
  | [] => none

/-- Reads a zone up to the end of the text: nothing, universal time, or a signed distance. -/
def zone? (cs : List Char) : Option (Option ZoneSpelling) :=
  -- Minutes may be left out, and universal time has a letter of its own.
  if cs.isEmpty then some none
  else
    match cs.dropWhile fun c => c == ' ' || c == '\t' with
    | ['Z'] => some (some ⟨false, 0, 0⟩)
    | sign :: rest =>
      if sign != '-' && sign != '+' then none
      else
        match digits? 1 2 rest with
        | some (hours, []) => some (some ⟨sign == '-', number hours, 0⟩)
        | some (hours, ':' :: rest) =>
          match digits? 2 2 rest with
          | some (minutes, []) => some (some ⟨sign == '-', number hours, number minutes⟩)
          | _ => none
        | _ => none
    | [] => none

/-- Reads a time of day up to the end of the text. -/
def time? (cs : List Char) : Option TimeSpelling := do
  -- The parts have to be separated by colons, and a fraction may follow the seconds.
  let (hour, cs) ← digits? 1 2 cs
  let (minute, cs) ← digits? 2 2 (← char? ':' cs)
  let (second, cs) ← digits? 2 2 (← char? ':' cs)
  let (fraction, cs) := match cs with
    | '.' :: rest => (rest.takeWhile Char.isDigit, rest.dropWhile Char.isDigit)
    | rest => ([], rest)
  let zone ← zone? cs
  return ⟨number hour, number minute, number second, fraction, zone⟩

/-- Reads a timestamp. -/
def parse? (cs : List Char) : Option Timestamp := do
  -- A date alone counts as one only if month and day have two digits, which is noted here.
  let (year, cs) ← digits? 4 4 cs
  let (month, cs) ← digits? 1 2 (← char? '-' cs)
  let (day, cs) ← digits? 1 2 (← char? '-' cs)
  let padded := month.length == 2 && day.length == 2
  if cs.isEmpty then return ⟨number year, number month, number day, padded, none⟩
  else
    let time ← time? (← separator? cs)
    return ⟨number year, number month, number day, padded, some time⟩

/-- Whether a plain scalar of this spelling is a timestamp: a date alone has to be padded. -/
def isCanonical (stamp : Timestamp) : Bool := stamp.padded || stamp.time.isSome

/-- Whether a year has a 29th of February. -/
def isLeap (year : Nat) : Bool := year % 4 == 0 && (year % 100 != 0 || year % 400 == 0)

/-- The number of days of a month. -/
def daysOf (year month : Nat) : Nat :=
  if month == 2 then (if isLeap year then 29 else 28)
  else if [4, 6, 9, 11].contains month then 30 else 31

/-- The date of a timestamp. -/
def checkDate (stamp : Timestamp) : Except Fault Date :=
  -- The parts are checked in the order of their size, so the first one out of range is told.
  if stamp.year == 0 then .error (.misspelt "year 0 is out of range")
  else if stamp.month == 0 || 12 < stamp.month then .error (.misspelt "month must be in 1..12")
  else if stamp.day == 0 || daysOf stamp.year stamp.month < stamp.day then
    .error (.misspelt "day is out of range for month")
  else .ok ⟨stamp.year, stamp.month, stamp.day⟩

/-- The distance from universal time in seconds, which has to be less than a day. -/
def checkZone (zone : ZoneSpelling) : Except Fault Int :=
  -- The distance is told in days, rounded down, and seconds.
  let size := zone.hours * 3600 + zone.minutes * 60
  if size < 86400 then .ok (if zone.negative then -(size : Int) else size)
  else
    let total : Int := if zone.negative then -(size : Int) else size
    let days := total / 86400
    let seconds := total % 86400
    let shown := "datetime.timedelta(days=" ++ toString days
      ++ (if seconds == 0 then ")" else ", seconds=" ++ toString seconds ++ ")")
    .error (.misspelt ("offset must be a timedelta strictly between -timedelta(hours=24) and "
      ++ "timedelta(hours=24), not " ++ shown ++ "."))

/-- The time of day of a timestamp; a fraction counts up to the sixth place. -/
def checkTime (time : TimeSpelling) (offset : Option Int) : Except Fault TimeOfDay :=
  -- Further places of a fraction are cut off.
  if 23 < time.hour then .error (.misspelt "hour must be in 0..23")
  else if 59 < time.minute then .error (.misspelt "minute must be in 0..59")
  else if 59 < time.second then .error (.misspelt "second must be in 0..59")
  else
    let places := time.fraction.take 6
    let microsecond := number (places ++ List.replicate (6 - places.length) '0')
    .ok ⟨time.hour, time.minute, time.second, microsecond, offset⟩

/-- The value of a timestamp: a date, or a date with a time of day. -/
def value (stamp : Timestamp) : Except Fault Value :=
  -- The zone is checked before the date, and the date before the time.
  match stamp.time with
  | none => stamp.checkDate.map .date
  | some time => do
    let offset ← match time.zone with
      | some zone => (checkZone zone).map some
      | none => pure none
    let day ← stamp.checkDate
    let time ← checkTime time offset
    return .instant day time

end Timestamp

end ModelServing.Yaml
