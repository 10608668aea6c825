import QueryLinker.Number.Integer
import QueryLinker.Text.LetterCase
import QueryLinker.Text.Lines

/-!
This module contains styles as they are written: attributes, colours and links, as words in any
order. Every style has one normal form, in which styles are compared.
-/

namespace QueryLinker.Console

open Number

inductive StyleFlaw where
  | noStyle
  | noNumber (flaw : IntegerFlaw)
deriving DecidableEq, Repr

def colorNames : List String :=
  let names :=
    "black red green yellow blue magenta cyan white bright_black bright_red bright_green
     bright_yellow bright_blue bright_magenta bright_cyan bright_white grey0 gray0 navy_blue
     dark_blue blue3 blue1 dark_green deep_sky_blue4 dodger_blue3 dodger_blue2 green4 spring_green4
     turquoise4 deep_sky_blue3 dodger_blue1 green3 spring_green3 dark_cyan light_sea_green
     deep_sky_blue2 deep_sky_blue1 spring_green2 cyan3 dark_turquoise turquoise2 green1
     spring_green1 medium_spring_green cyan2 cyan1 dark_red deep_pink4 purple4 purple3 blue_violet
     orange4 grey37 gray37 medium_purple4 slate_blue3 royal_blue1 chartreuse4 dark_sea_green4
     pale_turquoise4 steel_blue steel_blue3 cornflower_blue chartreuse3 cadet_blue sky_blue3
     steel_blue1 pale_green3 sea_green3 aquamarine3 medium_turquoise chartreuse2 sea_green2
     sea_green1 aquamarine1 dark_slate_gray2 dark_magenta dark_violet purple light_pink4 plum4
     medium_purple3 slate_blue1 yellow4 wheat4 grey53 gray53 light_slate_grey light_slate_gray
     medium_purple light_slate_blue dark_olive_green3 dark_sea_green light_sky_blue3 sky_blue2
     dark_sea_green3 dark_slate_gray3 sky_blue1 chartreuse1 light_green pale_green1
     dark_slate_gray1 red3 medium_violet_red magenta3 dark_orange3 indian_red hot_pink3
     medium_orchid3 medium_orchid medium_purple2 dark_goldenrod light_salmon3 rosy_brown grey63
     gray63 medium_purple1 gold3 dark_khaki navajo_white3 grey69 gray69 light_steel_blue3
     light_steel_blue yellow3 dark_sea_green2 light_cyan3 light_sky_blue1 green_yellow
     dark_olive_green2 dark_sea_green1 pale_turquoise1 deep_pink3 magenta2 hot_pink2 orchid
     medium_orchid1 orange3 light_pink3 pink3 plum3 violet light_goldenrod3 tan misty_rose3
     thistle3 plum2 khaki3 light_goldenrod2 light_yellow3 grey84 gray84 light_steel_blue1 yellow2
     dark_olive_green1 honeydew2 light_cyan1 red1 deep_pink2 deep_pink1 magenta1 orange_red1
     indian_red1 hot_pink dark_orange salmon1 light_coral pale_violet_red1 orchid2 orchid1 orange1
     sandy_brown light_salmon1 light_pink1 pink1 plum1 gold1 navajo_white1 misty_rose1 thistle1
     yellow1 light_goldenrod1 khaki1 wheat1 cornsilk1 grey100 gray100 grey3 gray3 grey7 gray7
     grey11 gray11 grey15 gray15 grey19 gray19 grey23 gray23 grey27 gray27 grey30 gray30 grey35
     gray35 grey39 gray39 grey42 gray42 grey46 gray46 grey50 gray50 grey54 gray54 grey58 gray58
     grey62 gray62 grey66 gray66 grey70 gray70 grey74 gray74 grey78 gray78 grey82 gray82 grey85
     gray85 grey89 gray89 grey93 gray93"
  ((names.split Char.isWhitespace).toList.map (·.toString)).filter fun name => !name.isEmpty

def inBrackets? (beginning : String) (cs : List Char) : Option (List Char) :=
  let start := beginning.toList ++ ['(']
  if start.isPrefixOf cs && cs.getLast? == some ')' then
    some ((cs.drop start.length).dropLast)
  else none

def isHexDigit (c : Char) : Bool :=
  c.isDigit || ('a' ≤ c && c ≤ 'f')

def maxColor : Nat := 255

def checkComponents (parts : List (List Char)) : Except StyleFlaw Unit := do
  if parts.length != 3 then throw .noStyle
  let numbers ← parts.mapM fun part => (integer 10 (String.ofList part)).mapError .noNumber
  if numbers.any fun n => (maxColor : Int) < n then throw .noStyle

def checkColor (word : String) : Except StyleFlaw Unit :=
  let color := (Text.lower word).toList
  if color == "default".toList || colorNames.contains (String.ofList color) then .ok ()
  else
    match color, inBrackets? "color" color, inBrackets? "rgb" color with
    | '#' :: digits, _, _ =>
      if digits.length = 6 && digits.all isHexDigit then .ok () else .error .noStyle
    | _, some digits, _ =>
      let number := (String.ofList digits).toNat?.getD (maxColor + 1)
      if digits.all Char.isDigit && digits.length ≤ 3 && number ≤ maxColor then .ok ()
      else .error .noStyle
    | _, _, some parts =>
      if !parts.isEmpty && parts.all fun c => Text.isDigit c || Text.isBlank c || c == ',' then
        checkComponents (Text.splitAt ',' parts)
      else .error .noStyle
    | _, _, _ => .error .noStyle

def attributeNames : List String :=
  ["bold", "dim", "italic", "underline", "blink", "blink2", "reverse", "conceal", "strike",
   "underline2", "frame", "encircle", "overline"]

def shortNames : List (String × String) :=
  [("d", "dim"), ("b", "bold"), ("i", "italic"), ("u", "underline"), ("r", "reverse"),
   ("c", "conceal"), ("s", "strike"), ("uu", "underline2"), ("o", "overline")]

def attribute? (name : String) : Option String :=
  if attributeNames.contains name then some name else shortNames.lookup name

structure Style where
  attributes : List (String × Bool) := []
  color? : Option String := none
  background? : Option String := none
  link? : Option String := none
deriving DecidableEq, Repr

namespace Style

def ofWords (s : Style) : List String → Except StyleFlaw Style
  | [] => .ok s
  | word :: words =>
    let name := Text.lower word
    if name == "on" then
      match words with
      | [] => .error .noStyle
      | color :: words => do
        checkColor color
        ofWords { s with background? := some (Text.lower color) } words
    else if name == "not" then
      match words with
      | [] => .error .noStyle
      | word :: words =>
        match attribute? word with
        | some effect => ofWords { s with attributes := (effect, false) :: s.attributes } words
        | none => .error .noStyle
    else if name == "link" then
      match words with
      | [] => .error .noStyle
      | link :: words => ofWords { s with link? := some link } words
    else
      match attribute? name with
      | some effect => ofWords { s with attributes := (effect, true) :: s.attributes } words
      | none => do
        checkColor name
        ofWords { s with color? := some name } words

def words (text : String) : List String :=
  ((text.split Text.isBlank).toList.map (·.toString)).filter fun word => !word.isEmpty

def ofText (text : String) : Except StyleFlaw Style :=
  if words text == ["none"] then .ok {} else ofWords {} (words text)

def text (s : Style) : String :=
  let attributes := attributeNames.filterMap fun name =>
    (s.attributes.lookup name).map fun set => if set then name else "not " ++ name
  let background := s.background?.toList.flatMap fun color => ["on", color]
  let link := s.link?.toList.flatMap fun link => ["link", link]
  let parts := attributes ++ s.color?.toList ++ background ++ link
  if parts.isEmpty then "none" else " ".intercalate parts

end Style

def trim (cs : List Char) : List Char :=
  ((cs.dropWhile Text.isBlank).reverse.dropWhile Text.isBlank).reverse

def styleName (text : String) : Except IntegerFlaw String :=
  match Style.ofText text with
  | .ok style => .ok style.text
  | .error .noStyle => .ok (Text.lower (String.ofList (trim text.toList)))
  | .error (.noNumber flaw) => .error flaw

end QueryLinker.Console
