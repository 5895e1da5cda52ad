import ContractAudit.Number.Read
import ContractAudit.Text.Blank
import ContractAudit.Text.LetterCase

/-!
# Styles

A style is described by words: effects such as bold, each possibly after "not", a colour, a background colour after
"on" and a target after "link". Two descriptions of the same style have the same normal form, in which the words come in
a fixed order. A description that is none of a style is its own normal form, in lower case and without blanks around it.
-/

namespace ContractAudit.Console

inductive StyleError where
  /-- A word is unknown or missing. -/
  | notStyle
  /-- A part of a colour is no number. -/
  | notNumber
deriving DecidableEq, Repr

/-- The effects in the order of the normal form. -/
def effects : List String :=
  ["bold", "dim", "italic", "underline", "blink", "blink2", "reverse", "conceal", "strike", "underline2", "frame",
   "encircle", "overline"]

def shortEffects : List (String × String) :=
  [("d", "dim"), ("b", "bold"), ("i", "italic"), ("u", "underline"), ("r", "reverse"), ("c", "conceal"),
   ("s", "strike"), ("uu", "underline2"), ("o", "overline")]

def effect? (word : String) : Option String :=
  if effects.contains word then some word else shortEffects.lookup word

def colorNames : List String :=
  ["black", "red", "green", "yellow", "blue", "magenta", "cyan", "white", "bright_black", "bright_red",
   "bright_green", "bright_yellow", "bright_blue", "bright_magenta", "bright_cyan", "bright_white", "grey0", "gray0",
   "navy_blue", "dark_blue", "blue3", "blue1", "dark_green", "deep_sky_blue4", "dodger_blue3", "dodger_blue2",
   "green4", "spring_green4", "turquoise4", "deep_sky_blue3", "dodger_blue1", "green3", "spring_green3", "dark_cyan",
   "light_sea_green", "deep_sky_blue2", "deep_sky_blue1", "spring_green2", "cyan3", "dark_turquoise", "turquoise2",
   "green1", "spring_green1", "medium_spring_green", "cyan2", "cyan1", "dark_red", "deep_pink4", "purple4",
   "purple3", "blue_violet", "orange4", "grey37", "gray37", "medium_purple4", "slate_blue3", "royal_blue1",
   "chartreuse4", "dark_sea_green4", "pale_turquoise4", "steel_blue", "steel_blue3", "cornflower_blue",
   "chartreuse3", "cadet_blue", "sky_blue3", "steel_blue1", "pale_green3", "sea_green3", "aquamarine3",
   "medium_turquoise", "chartreuse2", "sea_green2", "sea_green1", "aquamarine1", "dark_slate_gray2", "dark_magenta",
   "dark_violet", "purple", "light_pink4", "plum4", "medium_purple3", "slate_blue1", "yellow4", "wheat4", "grey53",
   "gray53", "light_slate_grey", "light_slate_gray", "medium_purple", "light_slate_blue", "dark_olive_green3",
   "dark_sea_green", "light_sky_blue3", "sky_blue2", "dark_sea_green3", "dark_slate_gray3", "sky_blue1",
   "chartreuse1", "light_green", "pale_green1", "dark_slate_gray1", "red3", "medium_violet_red", "magenta3",
   "dark_orange3", "indian_red", "hot_pink3", "medium_orchid3", "medium_orchid", "medium_purple2", "dark_goldenrod",
   "light_salmon3", "rosy_brown", "grey63", "gray63", "medium_purple1", "gold3", "dark_khaki", "navajo_white3",
   "grey69", "gray69", "light_steel_blue3", "light_steel_blue", "yellow3", "dark_sea_green2", "light_cyan3",
   "light_sky_blue1", "green_yellow", "dark_olive_green2", "dark_sea_green1", "pale_turquoise1", "deep_pink3",
   "magenta2", "hot_pink2", "orchid", "medium_orchid1", "orange3", "light_pink3", "pink3", "plum3", "violet",
   "light_goldenrod3", "tan", "misty_rose3", "thistle3", "plum2", "khaki3", "light_goldenrod2", "light_yellow3",
   "grey84", "gray84", "light_steel_blue1", "yellow2", "dark_olive_green1", "honeydew2", "light_cyan1", "red1",
   "deep_pink2", "deep_pink1", "magenta1", "orange_red1", "indian_red1", "hot_pink", "dark_orange", "salmon1",
   "light_coral", "pale_violet_red1", "orchid2", "orchid1", "orange1", "sandy_brown", "light_salmon1", "light_pink1",
   "pink1", "plum1", "gold1", "navajo_white1", "misty_rose1", "thistle1", "yellow1", "light_goldenrod1", "khaki1",
   "wheat1", "cornsilk1", "grey100", "gray100", "grey3", "gray3", "grey7", "gray7", "grey11", "gray11", "grey15",
   "gray15", "grey19", "gray19", "grey23", "gray23", "grey27", "gray27", "grey30", "gray30", "grey35", "gray35",
   "grey39", "gray39", "grey42", "gray42", "grey46", "gray46", "grey50", "gray50", "grey54", "gray54", "grey58",
   "gray58", "grey62", "gray62", "grey66", "gray66", "grey70", "gray70", "grey74", "gray74", "grey78", "gray78",
   "grey82", "gray82", "grey85", "gray85", "grey89", "gray89", "grey93", "gray93"]

def betweenCommas (text : List Char) : List (List Char) := text.splitOn ','

/-- The text between an opening and the closing parenthesis that ends it. -/
def inParentheses? (opening : String) (text : List Char) : Option (List Char) :=
  let start := opening.toList ++ ['(']
  if start.isPrefixOf text && text.getLast? = some ')' && start.length < text.length then
    some ((text.drop start.length).dropLast)
  else none

def colorPart (text : List Char) : Except StyleError Int :=
  match Number.readInt? 10 text with
  | some n => .ok n
  | none => .error .notNumber

/-- Checks a colour in lower case: a name, six hexadecimal digits, a number or three numbers up to 255. -/
def checkColor (word : String) : Except StyleError Unit := do
  let text := word.toList
  let isHex (c : Char) : Bool := c.isDigit || ('a' ≤ c && c ≤ 'f')
  if word = "default" || colorNames.contains word then return
  if text.head? = some '#' && text.length = 7 && (text.drop 1).all isHex then return
  if let some digits := inParentheses? "color" text then
    if !digits.isEmpty && digits.length ≤ 3 && digits.all Char.isDigit && Text.numeral digits ≤ 255 then return
    throw .notStyle
  if let some inside := inParentheses? "rgb" text then
    if inside.isEmpty || !inside.all fun c ↦ Text.isDecimalDigit c || c = ',' then throw .notStyle
    let parts := betweenCommas inside
    if parts.length != 3 then throw .notStyle
    let numbers ← parts.mapM colorPart
    if numbers.all (· ≤ 255) then return
  throw .notStyle

structure Style where
  /-- Attributes that are on or off, by their names. -/
  settings : List (String × Bool) := []
  color : Option String := none
  background : Option String := none
  target : Option String := none

namespace Style

/-- The style with one more effect; the last word on an effect counts. -/
def withEffect (style : Style) (effect : String) (on : Bool) : Style :=
  { style with settings := (effect, on) :: style.settings }

def readWords : Style → List String → Except StyleError Style
  | style, [] => .ok style
  | style, word :: rest =>
    match Text.lower word, rest with
    | "on", [] => .error .notStyle
    | "on", next :: rest => do
      let color := Text.lower next
      checkColor color
      readWords { style with background := some color } rest
    | "not", [] => .error .notStyle
    | "not", next :: rest =>
      match effect? next with
      | some effect => readWords (style.withEffect effect false) rest
      | none => .error .notStyle
    | "link", [] => .error .notStyle
    | "link", next :: rest => readWords { style with target := some next } rest
    | word, rest =>
      match effect? word with
      | some effect => readWords (style.withEffect effect true) rest
      | none => do
        checkColor word
        readWords { style with color := some word } rest

def words (style : Style) : List String :=
  effects.filterMap (fun effect ↦
    (style.settings.lookup effect).map fun on ↦ if on then effect else "not " ++ effect)
  ++ style.color.toList
  ++ (style.background.map ("on " ++ ·)).toList
  ++ (style.target.map ("link " ++ ·)).toList

def toString (style : Style) : String :=
  if style.words.isEmpty then "none" else " ".intercalate style.words

def ofDescription (text : String) : Except StyleError Style :=
  if Text.strip text = "none" then .ok {} else readWords {} (Text.words text)

def normalize (text : String) : Except StyleError String :=
  match ofDescription text with
  | .ok style => .ok style.toString
  | .error .notStyle => .ok (Text.lower (Text.strip text))
  | .error .notNumber => .error .notNumber

end Style

end ContractAudit.Console
