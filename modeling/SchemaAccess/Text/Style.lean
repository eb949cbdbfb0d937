import SchemaAccess.Entries
import SchemaAccess.Text.DecimalDigit
import SchemaAccess.Text.Hex
import SchemaAccess.Text.Line
import SchemaAccess.Text.LowerCase

namespace SchemaAccess.Text

/-- A style: which traits are switched on or off, colours by their names, and a link. -/
structure Style where
  traits : Entries Bool
  color : Option String
  background : Option String
  link : Option String

/-- A part of a colour is no number that can be read. -/
inductive ColorFault where
  | noDigits
  | tooManyDigits (count : Nat)
deriving Repr, DecidableEq

def ColorFault.message : ColorFault → String
  | .noDigits => "invalid literal for int() with base 10: \x27\x27"
  | .tooManyDigits count =>
    s!"Exceeds the limit ({Numeral.digitLimit} digits) for integer string conversion: value has {count} digits; " ++
      "use sys.set_int_max_str_digits() to increase the limit"

inductive StyleFault where
  | unknownWord
  | badColor (fault : ColorFault)
deriving Repr, DecidableEq

namespace Style

/-- The traits in the order in which they are told, with the words for each of them. -/
def traitWords : List (String × List String) := [
  ("bold", ["bold", "b"]), ("dim", ["dim", "d"]), ("italic", ["italic", "i"]),
  ("underline", ["underline", "u"]), ("blink", ["blink"]), ("blink2", ["blink2"]),
  ("reverse", ["reverse", "r"]), ("conceal", ["conceal", "c"]), ("strike", ["strike", "s"]),
  ("underline2", ["underline2", "uu"]), ("frame", ["frame"]), ("encircle", ["encircle"]),
  ("overline", ["overline", "o"])]

def trait? (word : String) : Option String := (traitWords.find? (word ∈ ·.2)).map Prod.fst

def colorNames : List String := (wordsOf "
    default
    black red green yellow blue magenta cyan white bright_black bright_red bright_green
    bright_yellow bright_blue bright_magenta bright_cyan bright_white grey0 gray0 navy_blue
    dark_blue blue3 blue1 dark_green deep_sky_blue4 dodger_blue3 dodger_blue2 green4 spring_green4
    turquoise4 deep_sky_blue3 dodger_blue1 green3 spring_green3 dark_cyan light_sea_green
    deep_sky_blue2 deep_sky_blue1 spring_green2 cyan3 dark_turquoise turquoise2 green1 spring_green1
    medium_spring_green cyan2 cyan1 dark_red deep_pink4 purple4 purple3 blue_violet orange4 grey37
    gray37 medium_purple4 slate_blue3 royal_blue1 chartreuse4 dark_sea_green4 pale_turquoise4
    steel_blue steel_blue3 cornflower_blue chartreuse3 cadet_blue sky_blue3 steel_blue1 pale_green3
    sea_green3 aquamarine3 medium_turquoise chartreuse2 sea_green2 sea_green1 aquamarine1
    dark_slate_gray2 dark_magenta dark_violet purple light_pink4 plum4 medium_purple3 slate_blue1
    yellow4 wheat4 grey53 gray53 light_slate_grey light_slate_gray medium_purple light_slate_blue
    dark_olive_green3 dark_sea_green light_sky_blue3 sky_blue2 dark_sea_green3 dark_slate_gray3
    sky_blue1 chartreuse1 light_green pale_green1 dark_slate_gray1 red3 medium_violet_red magenta3
    dark_orange3 indian_red hot_pink3 medium_orchid3 medium_orchid medium_purple2 dark_goldenrod
    light_salmon3 rosy_brown grey63 gray63 medium_purple1 gold3 dark_khaki navajo_white3 grey69
    gray69 light_steel_blue3 light_steel_blue yellow3 dark_sea_green2 light_cyan3 light_sky_blue1
    green_yellow dark_olive_green2 dark_sea_green1 pale_turquoise1 deep_pink3 magenta2 hot_pink2
    orchid medium_orchid1 orange3 light_pink3 pink3 plum3 violet light_goldenrod3 tan misty_rose3
    thistle3 plum2 khaki3 light_goldenrod2 light_yellow3 grey84 gray84 light_steel_blue1 yellow2
    dark_olive_green1 honeydew2 light_cyan1 red1 deep_pink2 deep_pink1 magenta1 orange_red1
    indian_red1 hot_pink dark_orange salmon1 light_coral pale_violet_red1 orchid2 orchid1 orange1
    sandy_brown light_salmon1 light_pink1 pink1 plum1 gold1 navajo_white1 misty_rose1 thistle1
    yellow1 light_goldenrod1 khaki1 wheat1 cornsilk1 grey100 gray100 grey3 gray3 grey7 gray7 grey11
    gray11 grey15 gray15 grey19 gray19 grey23 gray23 grey27 gray27 grey30 gray30 grey35 gray35
    grey39 gray39 grey42 gray42 grey46 gray46 grey50 gray50 grey54 gray54 grey58 gray58 grey62
    gray62 grey66 gray66 grey70 gray70 grey74 gray74 grey78 gray78 grey82 gray82 grey85 gray85
    grey89 gray89 grey93 gray93".toList).map String.ofList

def isHexColor (word : List Char) : Bool :=
  match word with
  | '#' :: digits => digits.length == 6 && (hexNumber? digits).isSome
  | _ => false

/-- What stands between a name with an opening bracket and a closing bracket. -/
def argument? (name : String) (word : List Char) : Option (List Char) :=
  if name.toList.isPrefixOf word && word.getLast? == some ')' && name.length < word.length then
    some ((word.drop name.length).dropLast)
  else none

def colorLimit : Nat := 255

def isNumberedColor (word : List Char) : Bool :=
  match argument? "color(" word with
  | some digits => !digits.isEmpty && digits.length ≤ 3 && digits.all Char.isDigit &&
      Numeral.decimalValue digits ≤ colorLimit
  | none => false

def colorPart (digits : List Char) : Except StyleFault Nat :=
  if digits.isEmpty then .error (.badColor .noDigits)
  else if Numeral.digitLimit < digits.length then .error (.badColor (.tooManyDigits digits.length))
  else .ok (digits.foldl (fun n c => 10 * n + (digit? c).getD 0) 0)

/-- Three numbers between brackets. They are read before it is asked how great they are. -/
def checkMixedColor (word : List Char) : Except StyleFault Unit :=
  match argument? "rgb(" word with
  | none => .error .unknownWord
  | some inner =>
    if inner.isEmpty || !inner.all fun c => c == ',' || (digit? c).isSome then .error .unknownWord
    else match partsAt ',' inner with
      | [red, green, blue] => do
        let parts ← [red, green, blue].mapM colorPart
        if parts.all (· ≤ colorLimit) then return () else .error .unknownWord
      | _ => .error .unknownWord

def readColor (word : String) : Except StyleFault String := do
  let name := lowerCase word
  if name ∈ colorNames || isHexColor name.toList || isNumberedColor name.toList then return name
  else
    checkMixedColor name.toList
    return name

def plain : Style := ⟨[], none, none, none⟩

def withTrait (s : Style) (word : String) (value : Bool) : Except StyleFault Style :=
  match trait? word with
  | some trait => .ok { s with traits := s.traits.put trait value }
  | none => .error .unknownWord

/-- Read words in turn: of repeated traits, colours and links the last counts. -/
def read (s : Style) : List String → Except StyleFault Style
  | [] => .ok s
  | word :: rest =>
    match lowerCase word, rest with
    | "on", [] | "not", [] | "link", [] => .error .unknownWord
    | "on", next :: rest => do read { s with background := some (← readColor next) } rest
    | "not", next :: rest => do read (← s.withTrait next false) rest
    | "link", next :: rest => read { s with link := some next } rest
    | word, rest =>
      match trait? word with
      | some trait => read { s with traits := s.traits.put trait true } rest
      | none => do read { s with color := some (← readColor word) } rest

def ofText (text : List Char) : Except StyleFault Style :=
  if trimBlank text = "none".toList then .ok plain else plain.read ((wordsOf text).map String.ofList)

def traitTexts (s : Style) : List String :=
  traitWords.filterMap fun (trait, _) =>
    (s.traits.find? trait).map fun on => if on then trait else "not " ++ trait

def shown (s : Style) : String :=
  let parts := s.traitTexts ++ s.color.toList ++ (s.background.map ("on " ++ ·)).toList ++
    (s.link.map ("link " ++ ·)).toList
  if parts.isEmpty then "none" else " ".intercalate parts

/-- The words for a style, which are the same for all descriptions of it; a description of no style in
lower case. -/
def normalForm (text : List Char) : Except ColorFault String :=
  match ofText text with
  | .ok s => .ok s.shown
  | .error .unknownWord => .ok (lowerCase (String.ofList (trimBlank text)))
  | .error (.badColor fault) => .error fault

end Style

end SchemaAccess.Text
