import ModelServing.Number.Numeral

/-! Why text with console markup cannot be shown, and the texts that name a colour. -/

namespace ModelServing.Console

open ModelServing.Number

/-- Why text with console markup cannot be shown. -/
inductive MarkupFault where
  /-- A closing tag closes nothing. -/
  | unmatchedTag
  /-- The arguments of an event handler are no literal values. -/
  | handlerArguments
  /-- A component of a colour is no number. -/
  | colorComponent
  deriving DecidableEq, Repr

/-- What is wrong with the text. -/
def MarkupFault.message : MarkupFault → String
  | .unmatchedTag => "closing tag doesn't match any open tag"
  | .handlerArguments => "error parsing handler arguments"
  | .colorComponent => "color component is not a number"

/-- The colours that have a name of their own. -/
def colorNames : List String :=
  ["black", "red", "green", "yellow", "blue", "magenta", "cyan", "white", "bright_black",
    "bright_red", "bright_green", "bright_yellow", "bright_blue", "bright_magenta", "bright_cyan",
    "bright_white", "navy_blue", "dark_blue", "blue3", "blue1", "dark_green", "deep_sky_blue4",
    "dodger_blue3", "dodger_blue2", "green4", "spring_green4", "turquoise4", "deep_sky_blue3",
    "dodger_blue1", "green3", "spring_green3", "dark_cyan", "light_sea_green", "deep_sky_blue2",
    "deep_sky_blue1", "spring_green2", "cyan3", "dark_turquoise", "turquoise2", "green1",
    "spring_green1", "medium_spring_green", "cyan2", "cyan1", "dark_red", "deep_pink4", "purple4",
    "purple3", "blue_violet", "orange4", "medium_purple4", "slate_blue3", "royal_blue1",
    "chartreuse4", "dark_sea_green4", "pale_turquoise4", "steel_blue", "steel_blue3",
    "cornflower_blue", "chartreuse3", "cadet_blue", "sky_blue3", "steel_blue1", "pale_green3",
    "sea_green3", "aquamarine3", "medium_turquoise", "chartreuse2", "sea_green2", "sea_green1",
    "aquamarine1", "dark_slate_gray2", "dark_magenta", "dark_violet", "purple", "light_pink4",
    "plum4", "medium_purple3", "slate_blue1", "yellow4", "wheat4", "light_slate_grey",
    "light_slate_gray", "medium_purple", "light_slate_blue", "dark_olive_green3", "dark_sea_green",
    "light_sky_blue3", "sky_blue2", "dark_sea_green3", "dark_slate_gray3", "sky_blue1",
    "chartreuse1", "light_green", "pale_green1", "dark_slate_gray1", "red3", "medium_violet_red",
    "magenta3", "dark_orange3", "indian_red", "hot_pink3", "medium_orchid3", "medium_orchid",
    "medium_purple2", "dark_goldenrod", "light_salmon3", "rosy_brown", "medium_purple1", "gold3",
    "dark_khaki", "navajo_white3", "light_steel_blue3", "light_steel_blue", "yellow3",
    "dark_sea_green2", "light_cyan3", "light_sky_blue1", "green_yellow", "dark_olive_green2",
    "dark_sea_green1", "pale_turquoise1", "deep_pink3", "magenta2", "hot_pink2", "orchid",
    "medium_orchid1", "orange3", "light_pink3", "pink3", "plum3", "violet", "light_goldenrod3",
    "tan", "misty_rose3", "thistle3", "plum2", "khaki3", "light_goldenrod2", "light_yellow3",
    "light_steel_blue1", "yellow2", "dark_olive_green1", "honeydew2", "light_cyan1", "red1",
    "deep_pink2", "deep_pink1", "magenta1", "orange_red1", "indian_red1", "hot_pink",
    "dark_orange", "salmon1", "light_coral", "pale_violet_red1", "orchid2", "orchid1", "orange1",
    "sandy_brown", "light_salmon1", "light_pink1", "pink1", "plum1", "gold1", "navajo_white1",
    "misty_rose1", "thistle1", "yellow1", "light_goldenrod1", "khaki1", "wheat1", "cornsilk1"]

/-- The shades between black and white, in percent. -/
def grayShades : List Nat :=
  [0, 37, 53, 63, 69, 84, 100, 3, 7, 11, 15, 19, 23, 27, 30, 35, 39, 42, 46, 50, 54, 58, 62, 66,
    70, 74, 78, 82, 85, 89, 93]

/-- Whether a lower-case text is a name of a colour. -/
def isColorName (name : String) : Bool :=
  name == "default" || colorNames.contains name ||
    grayShades.any fun shade =>
      name == "gray" ++ toString shade || name == "grey" ++ toString shade

/-- Whether characters are six hexadecimal digits after a number sign. -/
def isHexColor : List Char → Bool
  | '#' :: digits => digits.length == 6 &&
      digits.all fun c => c.isDigit || ('a' ≤ c && c ≤ 'f')
  | _ => false

/-- What stands in parentheses after a name, if that is all there is. -/
def inParentheses? (name : String) (cs : List Char) : Option (List Char) :=
  let opening := name.toList ++ ['(']
  if opening.isPrefixOf cs && cs.getLast? == some ')' then some (cs.drop opening.length).dropLast
  else none

/-- Whether a text is the number of a colour in the palette. -/
def isPaletteNumber (digits : List Char) : Bool :=
  Numeral.isDigits digits && digits.length ≤ 3 && Numeral.digitsValue digits ≤ 255

/-- Reads three numbers of at most 255 between commas. An empty component is a fault of its own. -/
def readComponents (cs : List Char) : Except MarkupFault Bool :=
  -- A text of digits and commas that does not have three parts is no colour, and one with an empty
  -- part is a fault.
  if cs.isEmpty || !cs.all (fun c => c == ',' || (Text.decimalDigit? c).isSome) then .ok false
  else
    match (cs.splitOn ',').map fun part => Numeral.read 10 (String.ofList part) with
    | [.ok red, .ok green, .ok blue] => .ok (red ≤ 255 && green ≤ 255 && blue ≤ 255)
    | [_, _, _] => .error .colorComponent
    | _ => .ok false

/-- Whether a lower-case text names a colour. -/
def isColor (name : String) : Except MarkupFault Bool :=
  -- Names and hexadecimal numbers are tried before the spellings with brackets.
  if isColorName name || isHexColor name.toList then .ok true
  else
    match inParentheses? "color" name.toList, inParentheses? "rgb" name.toList with
    | some digits, _ => .ok (isPaletteNumber digits)
    | none, some components => readComponents components
    | none, none => .ok false

end ModelServing.Console
