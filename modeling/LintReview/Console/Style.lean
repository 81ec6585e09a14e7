import LintReview.Text.Blank
import LintReview.Text.Casing
import LintReview.Text.Digit
import LintReview.Text.Lead
import LintReview.Text.Lines
import LintReview.Text.OneOf

/-!
# The names of styles

A style is named by words: traits that are on or, after `not`, off, a colour of the
letters, after `on` a colour of the ground, and after `link` an address. Two names mean the
same style exactly if their plain forms are equal. A name that names no style is its own
plain form, in lower case.
-/

namespace LintReview.Console

/-- The traits of a style, in the order in which the plain form gives them. -/
def traits : List String :=
  ["bold", "dim", "italic", "underline", "blink", "blink2", "reverse", "conceal", "strike",
    "underline2", "frame", "encircle", "overline"]

/-- The traits that have a short name, each after that name. -/
def shortTraits : List (String × String) :=
  [("b", "bold"), ("d", "dim"), ("i", "italic"), ("u", "underline"), ("r", "reverse"),
    ("c", "conceal"), ("s", "strike"), ("uu", "underline2"), ("o", "overline")]

/-- The trait with a long or a short name. -/
def trait? (name : String) : Option String :=
  match shortTraits.lookup name with
  | some trait => some trait
  | none => if name ∈ traits then some name else none

/-- The colours that have names, with blanks between them. -/
def colourRows : List String :=
  [
    "default",
    "black red green yellow blue magenta cyan white bright_black bright_red bright_green",
    "bright_yellow bright_blue bright_magenta bright_cyan bright_white grey0 gray0 navy_blue",
    "dark_blue blue3 blue1 dark_green deep_sky_blue4 dodger_blue3 dodger_blue2 green4",
    "spring_green4 turquoise4 deep_sky_blue3 dodger_blue1 green3 spring_green3 dark_cyan",
    "light_sea_green deep_sky_blue2 deep_sky_blue1 spring_green2 cyan3 dark_turquoise",
    "turquoise2 green1 spring_green1 medium_spring_green cyan2 cyan1 dark_red deep_pink4",
    "purple4 purple3 blue_violet orange4 grey37 gray37 medium_purple4 slate_blue3 royal_blue1",
    "chartreuse4 dark_sea_green4 pale_turquoise4 steel_blue steel_blue3 cornflower_blue",
    "chartreuse3 cadet_blue sky_blue3 steel_blue1 pale_green3 sea_green3 aquamarine3",
    "medium_turquoise chartreuse2 sea_green2 sea_green1 aquamarine1 dark_slate_gray2",
    "dark_magenta dark_violet purple light_pink4 plum4 medium_purple3 slate_blue1 yellow4",
    "wheat4 grey53 gray53 light_slate_grey light_slate_gray medium_purple light_slate_blue",
    "dark_olive_green3 dark_sea_green light_sky_blue3 sky_blue2 dark_sea_green3",
    "dark_slate_gray3 sky_blue1 chartreuse1 light_green pale_green1 dark_slate_gray1 red3",
    "medium_violet_red magenta3 dark_orange3 indian_red hot_pink3 medium_orchid3",
    "medium_orchid medium_purple2 dark_goldenrod light_salmon3 rosy_brown grey63 gray63",
    "medium_purple1 gold3 dark_khaki navajo_white3 grey69 gray69 light_steel_blue3",
    "light_steel_blue yellow3 dark_sea_green2 light_cyan3 light_sky_blue1 green_yellow",
    "dark_olive_green2 dark_sea_green1 pale_turquoise1 deep_pink3 magenta2 hot_pink2 orchid",
    "medium_orchid1 orange3 light_pink3 pink3 plum3 violet light_goldenrod3 tan misty_rose3",
    "thistle3 plum2 khaki3 light_goldenrod2 light_yellow3 grey84 gray84 light_steel_blue1",
    "yellow2 dark_olive_green1 honeydew2 light_cyan1 red1 deep_pink2 deep_pink1 magenta1",
    "orange_red1 indian_red1 hot_pink dark_orange salmon1 light_coral pale_violet_red1",
    "orchid2 orchid1 orange1 sandy_brown light_salmon1 light_pink1 pink1 plum1 gold1",
    "navajo_white1 misty_rose1 thistle1 yellow1 light_goldenrod1 khaki1 wheat1 cornsilk1",
    "grey100 gray100 grey3 gray3 grey7 gray7 grey11 gray11 grey15 gray15 grey19 gray19 grey23",
    "gray23 grey27 gray27 grey30 gray30 grey35 gray35 grey39 gray39 grey42 gray42 grey46",
    "gray46 grey50 gray50 grey54 gray54 grey58 gray58 grey62 gray62 grey66 gray66 grey70",
    "gray70 grey74 gray74 grey78 gray78 grey82 gray82 grey85 gray85 grey89 gray89 grey93",
    "gray93"
  ]

/-- The words of a text, which blanks separate. -/
def wordsOf (text : List Char) : List (List Char) :=
  let spaced := text.map fun character => if Text.isBlank character then ' ' else character
  (Text.split ' ' spaced).filter fun word => !word.isEmpty

/-- The word is the name of a colour. -/
def isColourName (word : List Char) : Bool :=
  colourRows.any fun row => Text.isOneOf (wordsOf row.toList) word

/-- A part of a colour that is given by numbers: at most 255. -/
def isColourPart (digits : List Char) : Bool :=
  !digits.isEmpty && digits.all Text.isDigit && Text.digitsValue digits ≤ 255

/-- What stands in parentheses after a word. -/
def inParentheses? (word : String) (text : List Char) : Option (List Char) :=
  match Text.after? (word ++ "(").toList text with
  | some rest => if rest.getLast? = some ')' then some rest.dropLast else none
  | none => none

/-- A digit to base sixteen, in lower case. -/
def isHexDigit (character : Char) : Bool :=
  Text.isAsciiDigit character || ('a' ≤ character && character ≤ 'f')

/-- The word is six digits to base sixteen after a number sign. -/
def isHexColour : List Char → Bool
  | '#' :: digits => digits.length = 6 && digits.all isHexDigit
  | _ => false

/-- The word is the number of a colour. -/
def isNumberedColour (word : List Char) : Bool :=
  match inParentheses? "color" word with
  | some digits => digits.length ≤ 3 && digits.all Text.isAsciiDigit && isColourPart digits
  | none => false

/-- The word gives the shares of red, green and blue. -/
def isMixedColour (word : List Char) : Bool :=
  match inParentheses? "rgb" word with
  | some parts =>
    let shares := Text.split ',' parts
    shares.length = 3 && shares.all isColourPart
  | none => false

/-- The word, in lower case, is a colour. -/
def isColour (word : List Char) : Bool :=
  isColourName word || isHexColour word || isNumberedColour word || isMixedColour word

/-- What the words for a style say. -/
structure Style where
  /-- The traits that are mentioned, each with whether it is on. -/
  switches : List (String × Bool) := []
  colour : Option (List Char) := none
  ground : Option (List Char) := none
  link : Option (List Char) := none
  deriving Repr, DecidableEq

namespace Style

/-- The style with a trait on or off. -/
def switch (style : Style) (trait : String) (isOn : Bool) : Style :=
  { style with switches := (trait, isOn) :: style.switches }

/-- The words that say something of the word after them. -/
def leads : List String := ["on", "not", "link"]

/-- A word in lower case. -/
def plainWord (word : List Char) : String := String.ofList (Text.lowerText word)

/-- The style with what a word says alone. -/
def withWord? (style : Style) (word : List Char) : Option Style :=
  match trait? (plainWord word) with
  | some trait => some (style.switch trait true)
  | none =>
    let colour := Text.lowerText word
    if isColour colour then some { style with colour := some colour } else none

/-- The style with what a word says after its lead. -/
def withLead? (style : Style) (lead : String) (word : List Char) : Option Style :=
  match lead with
  | "on" =>
    let colour := Text.lowerText word
    if isColour colour then some { style with ground := some colour } else none
  | "not" => (trait? (String.ofList word)).map fun trait => style.switch trait false
  | _ => some { style with link := some word }

/-- The style that words describe. -/
def ofWords? (style : Style) : List (List Char) → Option Style
  | [] => some style
  | [word] => style.withWord? word
  | first :: word :: rest =>
    if plainWord first ∈ leads then
      match style.withLead? (plainWord first) word with
      | some next => ofWords? next rest
      | none => none
    else
      match style.withWord? first with
      | some next => ofWords? next (word :: rest)
      | none => none

/-- The words for a trait. The last mention of it counts. -/
def traitWords (style : Style) (trait : String) : List (List Char) :=
  match style.switches.lookup trait with
  | none => []
  | some true => [trait.toList]
  | some false => ["not".toList, trait.toList]

/-- The words for a style, in their order. -/
def words (style : Style) : List (List Char) :=
  traits.flatMap style.traitWords ++ style.colour.toList
    ++ (style.ground.toList.flatMap fun ground => ["on".toList, ground])
    ++ style.link.toList.flatMap fun address => ["link".toList, address]

/-- The plain form of the name of a style. -/
def plainName (name : List Char) : List Char :=
  match ofWords? {} (wordsOf name) with
  | some style => Text.join [' '] style.words
  | none => Text.lowerText (Text.trim name)

end Style

end LintReview.Console
