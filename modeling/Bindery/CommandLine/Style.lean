import Bindery.Text.Blank
import Bindery.Text.Digit
import Bindery.Text.LetterCase

/-!
# Styles

A style is described in words: attributes and colours, in any order. Two descriptions of one style
have the same normal form, and what describes no style stands for itself.
-/
namespace Bindery.CommandLine

/-- Attributes with their short names, if they have some, in the order of normal forms. -/
def traits : List (String × List String) := [
  ("bold", ["b"]), ("dim", ["d"]), ("italic", ["i"]), ("underline", ["u"]), ("blink", []),
  ("blink2", []), ("reverse", ["r"]), ("conceal", ["c"]), ("strike", ["s"]), ("underline2", ["uu"]),
  ("frame", []), ("encircle", []), ("overline", ["o"])]

def trait? (word : String) : Option String :=
  (traits.find? fun entry => entry.1 = word || entry.2.contains word).map Prod.fst

def colorNames : List String := (Text.words "
default black red green yellow blue magenta cyan white bright_black bright_red bright_green
bright_yellow bright_blue bright_magenta bright_cyan bright_white grey0 gray0 navy_blue dark_blue
blue3 blue1 dark_green deep_sky_blue4 dodger_blue3 dodger_blue2 green4 spring_green4 turquoise4
deep_sky_blue3 dodger_blue1 green3 spring_green3 dark_cyan light_sea_green deep_sky_blue2
deep_sky_blue1 spring_green2 cyan3 dark_turquoise turquoise2 green1 spring_green1
medium_spring_green cyan2 cyan1 dark_red deep_pink4 purple4 purple3 blue_violet orange4 grey37
gray37 medium_purple4 slate_blue3 royal_blue1 chartreuse4 dark_sea_green4 pale_turquoise4
steel_blue steel_blue3 cornflower_blue chartreuse3 cadet_blue sky_blue3 steel_blue1 pale_green3
sea_green3 aquamarine3 medium_turquoise chartreuse2 sea_green2 sea_green1 aquamarine1
dark_slate_gray2 dark_magenta dark_violet purple light_pink4 plum4 medium_purple3 slate_blue1
yellow4 wheat4 grey53 gray53 light_slate_grey light_slate_gray medium_purple light_slate_blue
dark_olive_green3 dark_sea_green light_sky_blue3 sky_blue2 dark_sea_green3 dark_slate_gray3
sky_blue1 chartreuse1 light_green pale_green1 dark_slate_gray1 red3 medium_violet_red magenta3
dark_orange3 indian_red hot_pink3 medium_orchid3 medium_orchid medium_purple2 dark_goldenrod
light_salmon3 rosy_brown grey63 gray63 medium_purple1 gold3 dark_khaki navajo_white3 grey69 gray69
light_steel_blue3 light_steel_blue yellow3 dark_sea_green2 light_cyan3 light_sky_blue1
green_yellow dark_olive_green2 dark_sea_green1 pale_turquoise1 deep_pink3 magenta2 hot_pink2
orchid medium_orchid1 orange3 light_pink3 pink3 plum3 violet light_goldenrod3 tan misty_rose3
thistle3 plum2 khaki3 light_goldenrod2 light_yellow3 grey84 gray84 light_steel_blue1 yellow2
dark_olive_green1 honeydew2 light_cyan1 red1 deep_pink2 deep_pink1 magenta1 orange_red1
indian_red1 hot_pink dark_orange salmon1 light_coral pale_violet_red1 orchid2 orchid1 orange1
sandy_brown light_salmon1 light_pink1 pink1 plum1 gold1 navajo_white1 misty_rose1 thistle1 yellow1
light_goldenrod1 khaki1 wheat1 cornsilk1 grey100 gray100 grey3 gray3 grey7 gray7 grey11 gray11
grey15 gray15 grey19 gray19 grey23 gray23 grey27 gray27 grey30 gray30 grey35 gray35 grey39 gray39
grey42 gray42 grey46 gray46 grey50 gray50 grey54 gray54 grey58 gray58 grey62 gray62 grey66 gray66
grey70 gray70 grey74 gray74 grey78 gray78 grey82 gray82 grey85 gray85 grey89 gray89 grey93 gray93
".toList).map String.ofList

/-- Is a number that of a colour or of a part of one? -/
def isColorNumber (digits : List Char) : Bool :=
  (digits.foldl (fun n c => 10 * n + (Text.digitValue? c).getD 0) 0) ≤ 255

/-- What is between the parentheses after a name. -/
def parenthesised? (name : String) (word : String) : Option (List Char) :=
  let opening := (name ++ "(").toList
  if opening.isPrefixOf word.toList && word.toList.getLast? = some ')' then
    some (word.toList.drop opening.length).dropLast
  else none

/-- Is a word a colour: a name, a number, or an amount of red, green and blue? -/
def isColor (word : String) : Bool :=
  let isHex (c : Char) : Bool := c.isDigit || ('a' ≤ c && c ≤ 'f')
  colorNames.contains word ||
    (word.length = 7 && word.startsWith "#" && (word.toList.drop 1).all isHex) ||
    ((parenthesised? "color" word).any fun digits =>
      !digits.isEmpty && digits.length ≤ 3 && digits.all Char.isDigit && isColorNumber digits) ||
    (parenthesised? "rgb" word).any fun parts =>
      let amounts := Text.splitAt ',' parts
      amounts.length = 3 && amounts.all fun digits =>
        !digits.isEmpty && digits.all Text.isDecimalDigit && isColorNumber digits

/-- A style: attributes that are switched on or off, colours, and an address to go to. -/
structure Style where
  switches : List (String × Bool) := []
  color : Option String := none
  background : Option String := none
  link : Option String := none
  deriving DecidableEq, Repr, Inhabited

namespace Style

def switch (style : Style) (trait : String) (on : Bool) : Style :=
  { style with switches := (trait, on) :: style.switches }

def ofWords? (style : Style) : List String → Option Style
  | [] => some style
  | written :: rest =>
    let word := Text.lower written
    if word = "on" then
      match rest with
      | color :: rest =>
        -- only a colour can follow, no attribute
        let color := Text.lower color
        if isColor color then ofWords? { style with background := some color } rest else none
      | [] => none
    else if word = "not" then
      match rest with
      | named :: rest => do ofWords? (style.switch (← trait? named) false) rest
      | [] => none
    else if word = "link" then
      match rest with
      | address :: rest => ofWords? { style with link := some address } rest
      | [] => none
    else match trait? word with
      | some trait => ofWords? (style.switch trait true) rest
      | none => if isColor word then ofWords? { style with color := some word } rest else none

/-- The normal form of a style. -/
def text (style : Style) : String :=
  let switched := traits.filterMap fun (trait, _) =>
    (style.switches.lookup trait).map fun on => if on then trait else "not " ++ trait
  let background := style.background.map fun color => "on " ++ color
  let link := style.link.map fun address => "link " ++ address
  let parts := switched ++ style.color.toList ++ background.toList ++ link.toList
  if parts.isEmpty then "none" else String.intercalate " " parts

def normalForm (description : String) : String :=
  match ofWords? {} ((Text.words description.toList).map String.ofList) with
  | some style => style.text
  | none => String.ofList (Text.trimBlanks (Text.lower description).toList)

end Style

end Bindery.CommandLine
