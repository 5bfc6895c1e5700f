import SecScan.Text.Blank
import SecScan.Text.Case
import SecScan.Text.Digit
import SecScan.Json.Literal

/-!
Style definitions, the words inside a markup tag such as `bold red on white`. A definition is
read word by word: an attribute name or its short form switches the attribute on, `not` before
one switches it off, `on` before a color sets the background, `link` before a word sets a link,
and any other word must be a color, which becomes the foreground. A later word overrides an
earlier one for the same attribute or color.

Two definitions with the same effect have the same normal form: the attributes in a fixed order,
then the color, the background and the link. A definition that cannot be read is its own normal
form, stripped and in lower case. Closing tags are matched with opening ones by normal form, so
`[b red]` is closed by `[/red bold]`.

A color is a color name, `default`, `#` and six hexadecimal digits, `color(n)` for `n` at most
255, or `rgb(r,g,b)` with three decimal components at most 255 each. An empty component is not
a number at all, and that is an error rather than a definition that cannot be read.
-/

namespace SecScan.Terminal

/-- The attributes in the order a normal form lists them. -/
def styleAttributes : List String :=
  ["bold", "dim", "italic", "underline", "blink", "blink2", "reverse", "conceal", "strike",
    "underline2", "frame", "encircle", "overline"]

/-- The attribute a word names, by its full name or its short form. -/
def attributeNamed? (word : String) : Option String :=
  match word with
  | "b" => some "bold"
  | "d" => some "dim"
  | "i" => some "italic"
  | "u" => some "underline"
  | "r" => some "reverse"
  | "c" => some "conceal"
  | "s" => some "strike"
  | "uu" => some "underline2"
  | "o" => some "overline"
  | w => if styleAttributes.contains w then some w else none

/-- The named colors. -/
def colorNames : List String :=
  ["black", "red", "green", "yellow", "blue", "magenta", "cyan", "white", "bright_black",
    "bright_red", "bright_green", "bright_yellow", "bright_blue", "bright_magenta", "bright_cyan",
    "bright_white", "grey0", "gray0", "navy_blue", "dark_blue", "blue3", "blue1", "dark_green",
    "deep_sky_blue4", "dodger_blue3", "dodger_blue2", "green4", "spring_green4", "turquoise4",
    "deep_sky_blue3", "dodger_blue1", "green3", "spring_green3", "dark_cyan", "light_sea_green",
    "deep_sky_blue2", "deep_sky_blue1", "spring_green2", "cyan3", "dark_turquoise", "turquoise2",
    "green1", "spring_green1", "medium_spring_green", "cyan2", "cyan1", "dark_red", "deep_pink4",
    "purple4", "purple3", "blue_violet", "orange4", "grey37", "gray37", "medium_purple4",
    "slate_blue3", "royal_blue1", "chartreuse4", "dark_sea_green4", "pale_turquoise4",
    "steel_blue", "steel_blue3", "cornflower_blue", "chartreuse3", "cadet_blue", "sky_blue3",
    "steel_blue1", "pale_green3", "sea_green3", "aquamarine3", "medium_turquoise", "chartreuse2",
    "sea_green2", "sea_green1", "aquamarine1", "dark_slate_gray2", "dark_magenta", "dark_violet",
    "purple", "light_pink4", "plum4", "medium_purple3", "slate_blue1", "yellow4", "wheat4",
    "grey53", "gray53", "light_slate_grey", "light_slate_gray", "medium_purple",
    "light_slate_blue", "dark_olive_green3", "dark_sea_green", "light_sky_blue3", "sky_blue2",
    "dark_sea_green3", "dark_slate_gray3", "sky_blue1", "chartreuse1", "light_green",
    "pale_green1", "dark_slate_gray1", "red3", "medium_violet_red", "magenta3", "dark_orange3",
    "indian_red", "hot_pink3", "medium_orchid3", "medium_orchid", "medium_purple2",
    "dark_goldenrod", "light_salmon3", "rosy_brown", "grey63", "gray63", "medium_purple1",
    "gold3", "dark_khaki", "navajo_white3", "grey69", "gray69", "light_steel_blue3",
    "light_steel_blue", "yellow3", "dark_sea_green2", "light_cyan3", "light_sky_blue1",
    "green_yellow", "dark_olive_green2", "dark_sea_green1", "pale_turquoise1", "deep_pink3",
    "magenta2", "hot_pink2", "orchid", "medium_orchid1", "orange3", "light_pink3", "pink3",
    "plum3", "violet", "light_goldenrod3", "tan", "misty_rose3", "thistle3", "plum2", "khaki3",
    "light_goldenrod2", "light_yellow3", "grey84", "gray84", "light_steel_blue1", "yellow2",
    "dark_olive_green1", "honeydew2", "light_cyan1", "red1", "deep_pink2", "deep_pink1",
    "magenta1", "orange_red1", "indian_red1", "hot_pink", "dark_orange", "salmon1", "light_coral",
    "pale_violet_red1", "orchid2", "orchid1", "orange1", "sandy_brown", "light_salmon1",
    "light_pink1", "pink1", "plum1", "gold1", "navajo_white1", "misty_rose1", "thistle1",
    "yellow1", "light_goldenrod1", "khaki1", "wheat1", "cornsilk1", "grey100", "gray100", "grey3",
    "gray3", "grey7", "gray7", "grey11", "gray11", "grey15", "gray15", "grey19", "gray19",
    "grey23", "gray23", "grey27", "gray27", "grey30", "gray30", "grey35", "gray35", "grey39",
    "gray39", "grey42", "gray42", "grey46", "gray46", "grey50", "gray50", "grey54", "gray54",
    "grey58", "gray58", "grey62", "gray62", "grey66", "gray66", "grey70", "gray70", "grey74",
    "gray74", "grey78", "gray78", "grey82", "gray82", "grey85", "gray85", "grey89", "gray89",
    "grey93", "gray93"]

/-- Why a word is not a color: it is not written as one, or a component of an `rgb` color is
empty, which is an error with this message. -/
inductive ColorProblem where
  | invalid
  | notANumber (message : String)
  deriving Repr, Inhabited, BEq

/-- The value of a text of one or more decimal digits of any script. -/
def decimalValue? (cs : List Char) : Option Nat :=
  if cs.isEmpty then none else cs.foldlM (fun n c => (Text.digitValue? c).map (10 * n + ·)) 0

/-- Whether a text is `#` followed by six lower-case hexadecimal digits. -/
def isHexColor : List Char → Bool
  | '#' :: ds => ds.length == 6 && ds.all fun c => ('0' ≤ c && c ≤ '9') || ('a' ≤ c && c ≤ 'f')
  | _ => false

/-- Whether a text is `color(n)` with one to three ASCII digits making at most 255; none when it
is not of that shape at all. -/
def numberedColor? (cs : List Char) : Option Bool :=
  if cs.take 6 == "color(".toList && cs.getLast? == some ')' then
    let ds := (cs.drop 6).dropLast
    if 1 ≤ ds.length && ds.length ≤ 3 && ds.all Char.isDigit then
      some (ds.foldl (fun n c => 10 * n + (c.toNat - 48)) 0 ≤ 255)
    else none
  else none

/-- Reads the components of `rgb(...)`: each must be a number at most 255. -/
def rgbComponents (cs : List Char) : Except ColorProblem Unit := do
  let parts := cs.splitOn ','
  if parts.length != 3 then throw .invalid
  for part in parts do
    let digits := (part.dropWhile Text.isBlank).reverse.dropWhile Text.isBlank |>.reverse
    match decimalValue? digits with
    | some n => if n > 255 then throw .invalid
    | none =>
      throw (.notANumber ("invalid literal for int() with base 10: " ++
        Json.quoteLiteral (String.ofList part)))

/-- The name of the color a word writes, in lower case, or why it writes none. -/
def colorName (word : String) : Except ColorProblem String := do
  let name := Text.toLower (Text.strip word)
  let cs := name.toList
  if name == "default" || colorNames.contains name || isHexColor cs then return name
  match numberedColor? cs with
  | some true => return name
  | some false => throw .invalid
  | none =>
    if cs.take 4 == "rgb(".toList && cs.getLast? == some ')' then
      let inner := (cs.drop 4).dropLast
      if !inner.isEmpty && inner.all (fun c => (Text.digitValue? c).isSome || Text.isBlank c || c == ',')
      then
        rgbComponents inner
        return name
    throw .invalid

/-- A style as read from a definition. -/
structure Style where
  /-- The attributes set, each on or off; a later setting of one replaces an earlier one. -/
  attributes : List (String × Bool) := []
  color : Option String := none
  background : Option String := none
  link : Option String := none
  deriving Repr, Inhabited

/-- Sets an attribute on or off. -/
def Style.set (s : Style) (name : String) (on : Bool) : Style :=
  { s with attributes := (s.attributes.filter (·.1 != name)) ++ [(name, on)] }

/-- Why a definition cannot be read as a style: it is malformed, or it holds a color component
that is not a number, with the error's message. -/
inductive StyleProblem where
  | malformed
  | notANumber (message : String)
  deriving Repr, Inhabited, BEq

/-- The color a word writes, with a problem of the word read as a problem of the definition. -/
def colorOf (word : String) : Except StyleProblem String :=
  match colorName word with
  | .ok name => .ok name
  | .error .invalid => .error .malformed
  | .error (.notANumber m) => .error (.notANumber m)

/-- Reads the words of a definition onto a style. Each step reads at least one word. -/
def readWords (s : Style) : List String → Except StyleProblem Style
  | [] => .ok s
  | word :: rest =>
    let lower := Text.toLower word
    if lower == "on" then
      match rest with
      | next :: rest => do
        let name ← colorOf next
        readWords { s with background := some name } rest
      | [] => .error .malformed
    else if lower == "not" then
      match rest with
      | next :: rest =>
        match attributeNamed? next with
        | some a => readWords (s.set a false) rest
        | none => .error .malformed
      | [] => .error .malformed
    else if lower == "link" then
      match rest with
      | next :: rest => readWords { s with link := some next } rest
      | [] => .error .malformed
    else
      match attributeNamed? lower with
      | some a => readWords (s.set a true) rest
      | none => do
        let name ← colorOf lower
        readWords { s with color := some name } rest

/-- The normal text of a style. -/
def Style.text (s : Style) : String :=
  let words := styleAttributes.filterMap fun a =>
    (s.attributes.lookup a).map fun on => if on then a else "not " ++ a
  let words := words ++ s.color.toList ++ (s.background.map ("on " ++ ·)).toList ++
    (s.link.map ("link " ++ ·)).toList
  if words.isEmpty then "none" else " ".intercalate words

/-- The normal form of a style definition, or the message of the error reading it raises. -/
def normalStyle (definition : String) : Except String String :=
  if Text.strip definition == "none" || definition.isEmpty then .ok "none"
  else
    match readWords {} ((Text.blankWords definition.toList).map String.ofList) with
    | .ok s => .ok s.text
    | .error .malformed => .ok (Text.toLower (Text.strip definition))
    | .error (.notANumber m) => .error m

end SecScan.Terminal
