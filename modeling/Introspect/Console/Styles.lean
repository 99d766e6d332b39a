import Introspect.Source.Literals
import Introspect.Text.Blank
import Introspect.Text.Identifier
import Introspect.Text.Parts

/-!
# Styles

The tags of markup are styles and handlers.  What they mean is no matter of what is shown, except that
a closing tag has to name the style of an open one, and that some tags cannot be read.

* `Style`          attributes that are on or off, colours, and a link;
* `styleName`      the name of a style in its usual wording;
* `readsHandler`   whether the call of a handler is one with literals;
* `Dialect`        how names and calls in tags are read, and `Dialect.console` the usual way.
-/

namespace Introspect.Markup

/-- the attributes of a style, with their short forms, in the order of writing -/
def attributeWords : List (String × List String) := [
  ("bold", ["bold", "b"]), ("dim", ["dim", "d"]), ("italic", ["italic", "i"]),
  ("underline", ["underline", "u"]), ("blink", ["blink"]), ("blink2", ["blink2"]),
  ("reverse", ["reverse", "r"]), ("conceal", ["conceal", "c"]), ("strike", ["strike", "s"]),
  ("underline2", ["underline2", "uu"]), ("frame", ["frame"]), ("encircle", ["encircle"]),
  ("overline", ["overline", "o"])]

def attributeOfWord (w : String) : Option String :=
  (attributeWords.find? fun e => e.2.contains w).map Prod.fst

def colourWords : List String := [
  "aquamarine1", "aquamarine3", "black", "blue", "blue1", "blue3", "blue_violet", "bright_black",
  "bright_blue", "bright_cyan", "bright_green", "bright_magenta", "bright_red", "bright_white",
  "bright_yellow", "cadet_blue", "chartreuse1", "chartreuse2", "chartreuse3", "chartreuse4",
  "cornflower_blue", "cornsilk1", "cyan", "cyan1", "cyan2", "cyan3", "dark_blue", "dark_cyan",
  "dark_goldenrod", "dark_green", "dark_khaki", "dark_magenta", "dark_olive_green1",
  "dark_olive_green2", "dark_olive_green3", "dark_orange", "dark_orange3", "dark_red",
  "dark_sea_green", "dark_sea_green1", "dark_sea_green2", "dark_sea_green3", "dark_sea_green4",
  "dark_slate_gray1", "dark_slate_gray2", "dark_slate_gray3", "dark_turquoise", "dark_violet",
  "deep_pink1", "deep_pink2", "deep_pink3", "deep_pink4", "deep_sky_blue1", "deep_sky_blue2",
  "deep_sky_blue3", "deep_sky_blue4", "dodger_blue1", "dodger_blue2", "dodger_blue3", "gold1",
  "gold3", "gray0", "gray100", "gray11", "gray15", "gray19", "gray23", "gray27", "gray3",
  "gray30", "gray35", "gray37", "gray39", "gray42", "gray46", "gray50", "gray53", "gray54",
  "gray58", "gray62", "gray63", "gray66", "gray69", "gray7", "gray70", "gray74", "gray78",
  "gray82", "gray84", "gray85", "gray89", "gray93", "green", "green1", "green3", "green4",
  "green_yellow", "grey0", "grey100", "grey11", "grey15", "grey19", "grey23", "grey27", "grey3",
  "grey30", "grey35", "grey37", "grey39", "grey42", "grey46", "grey50", "grey53", "grey54",
  "grey58", "grey62", "grey63", "grey66", "grey69", "grey7", "grey70", "grey74", "grey78",
  "grey82", "grey84", "grey85", "grey89", "grey93", "honeydew2", "hot_pink", "hot_pink2",
  "hot_pink3", "indian_red", "indian_red1", "khaki1", "khaki3", "light_coral", "light_cyan1",
  "light_cyan3", "light_goldenrod1", "light_goldenrod2", "light_goldenrod3", "light_green",
  "light_pink1", "light_pink3", "light_pink4", "light_salmon1", "light_salmon3",
  "light_sea_green", "light_sky_blue1", "light_sky_blue3", "light_slate_blue",
  "light_slate_gray", "light_slate_grey", "light_steel_blue", "light_steel_blue1",
  "light_steel_blue3", "light_yellow3", "magenta", "magenta1", "magenta2", "magenta3",
  "medium_orchid", "medium_orchid1", "medium_orchid3", "medium_purple", "medium_purple1",
  "medium_purple2", "medium_purple3", "medium_purple4", "medium_spring_green",
  "medium_turquoise", "medium_violet_red", "misty_rose1", "misty_rose3", "navajo_white1",
  "navajo_white3", "navy_blue", "orange1", "orange3", "orange4", "orange_red1", "orchid",
  "orchid1", "orchid2", "pale_green1", "pale_green3", "pale_turquoise1", "pale_turquoise4",
  "pale_violet_red1", "pink1", "pink3", "plum1", "plum2", "plum3", "plum4", "purple", "purple3",
  "purple4", "red", "red1", "red3", "rosy_brown", "royal_blue1", "salmon1", "sandy_brown",
  "sea_green1", "sea_green2", "sea_green3", "sky_blue1", "sky_blue2", "sky_blue3", "slate_blue1",
  "slate_blue3", "spring_green1", "spring_green2", "spring_green3", "spring_green4",
  "steel_blue", "steel_blue1", "steel_blue3", "tan", "thistle1", "thistle3", "turquoise2",
  "turquoise4", "violet", "wheat1", "wheat4", "white", "yellow", "yellow1", "yellow2", "yellow3",
  "yellow4"]

/-- why the name of a style is none -/
inductive StyleFault where
  | unknown
  /-- a part of a colour that should be a number is none -/
  | noNumber
  deriving DecidableEq, Repr

/-- what stands in parentheses behind a name -/
def callOf (name : String) (cs : List Char) : Option (List Char) :=
  let start := name.toList ++ ['(']
  if start.isPrefixOf cs && cs.getLast? == some ')' then some (cs.drop start.length).dropLast
  else none

/-- a part of a colour; the largest one is 255 -/
def checkPart (part : String) : Except StyleFault Unit :=
  match part.toNat? with
  | some n => if n ≤ 255 then .ok () else .error .unknown
  | none => .error .noNumber

/-- a colour is a word, six hexadecimal digits, a number, or three of them -/
def checkColour (w : String) : Except StyleFault Unit :=
  let isHex (c : Char) : Bool := c.isDigit || ('a' ≤ c && c ≤ 'f')
  if w == "default" || colourWords.contains w then .ok ()
  else
    match w.toList, callOf "color" w.toList, callOf "rgb" w.toList with
    | '#' :: ds, _, _ => if ds.length == 6 && ds.all isHex then .ok () else .error .unknown
    | _, some ds, _ =>
      if ds.all Char.isDigit && 1 ≤ ds.length && ds.length ≤ 3 then checkPart (String.ofList ds)
      else .error .unknown
    | _, _, some ds =>
      if ds.isEmpty || !ds.all fun c => c.isDigit || c = ',' then .error .unknown
      else
        match Text.parts ',' (String.ofList ds) with
        | [r, g, b] =>
          -- all three are read before any of them is compared with the largest
          if [r, g, b].any fun part => part.toNat?.isNone then .error .noNumber
          else do checkPart r; checkPart g; checkPart b
        | _ => .error .unknown
    | _, _, _ => .error .unknown

/-- a style: attributes that are on or off, colours, and a link -/
structure Style where
  attributes : List (String × Bool) := []
  colour : Option String := none
  ground : Option String := none
  link : Option String := none

def inSmallLetters (w : String) : String := String.ofList (w.toList.map Char.toLower)

/-- a style with one more word, which needs no other one behind it -/
def Style.addWord (s : Style) (w : String) : Except StyleFault Style :=
  match attributeOfWord w with
  | some a => .ok { s with attributes := (a, true) :: s.attributes }
  | none =>
    if ["on", "not", "link"].contains w then .error .unknown
    else do
      checkColour w
      return { s with colour := some w }

/-- the style of several words -/
def Style.ofWords : Style → List String → Except StyleFault Style
  | s, [] => .ok s
  | s, [w] => s.addWord (inSmallLetters w)
  | s, w :: v :: ws =>
    match inSmallLetters w with
    | "on" => do
      checkColour (inSmallLetters v)
      ofWords { s with ground := some (inSmallLetters v) } ws
    | "not" =>
      match attributeOfWord v with
      | some a => ofWords { s with attributes := (a, false) :: s.attributes } ws
      | none => .error .unknown
    | "link" => ofWords { s with link := some v } ws
    | w => do ofWords (← s.addWord w) (v :: ws)

/-- a style in its usual wording -/
def Style.text (s : Style) : String :=
  let attributes := attributeWords.filterMap fun e =>
    (s.attributes.lookup e.1).map fun isOn => if isOn then e.1 else "not " ++ e.1
  let words := attributes ++ s.colour.toList ++ (s.ground.map ("on " ++ ·)).toList
    ++ (s.link.map ("link " ++ ·)).toList
  if words.isEmpty then "none" else " ".intercalate words

/-- the name of a style in its usual wording, or in small letters when it is unknown -/
def styleName (cs : List Char) : Option String :=
  match Style.ofWords {} (Text.wordsOf cs) with
  | .ok s => some s.text
  | .error .unknown => some (inSmallLetters (String.ofList (Text.trimChars cs)))
  | .error .noNumber => none

/-- whether the call of a handler can be read: a name and what it is called with, either of which may
be missing, or else a literal -/
def readsHandler (cs : List Char) : Bool :=
  let cs := Text.trimChars cs
  let arguments := cs.dropWhile fun c => Text.isNamePart c || c = '.'
  let call := match arguments, arguments.getLast? with
    | [], _ => "()"
    | '(' :: _ :: _, some ')' =>
      String.ofList (if arguments.contains '\n' then cs else arguments)
    | _, _ => String.ofList cs
  Source.isLiteralText Source.latinCharacterNames call

/-- how tags are read -/
structure Dialect where
  /-- the usual name of a style, nothing when it cannot be read -/
  styleName : List Char → Option String
  /-- whether the call of a handler can be read -/
  readsHandler : List Char → Bool

def Dialect.console : Dialect := ⟨Markup.styleName, Markup.readsHandler⟩

end Introspect.Markup
