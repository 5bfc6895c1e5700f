import SecScan.Http.IdnaTable
import SecScan.Http.Punycode
import SecScan.Text.Normal
import SecScan.Text.BidiTable
import SecScan.Text.MarkTable
import SecScan.Json.Literal

/-!
Internationalized host names (IDNA 2008). A host is split into labels at full stops (the ASCII
one and its ideographic, full-width and half-width forms). A label of ASCII is kept as it is,
and one starting with `xn--` is the Punycode of the label it stands for; any other label is
written as `xn--` and its Punycode. Every label, as it reads, must be valid:

* not empty, in canonical composition, without hyphens at its ends or in both its third and
  fourth places, and not starting with a combining mark;
* made of code points a label may hold freely, or of joiners and a few other code points in
  the contexts that allow them (a joiner after a virama or between joining letters, a middle dot
  between two `l`, a Greek numeral sign before Greek, Hebrew punctuation after Hebrew, a
  Katakana middle dot among Japanese script, and Arabic-Indic digits of one kind only);
* under the bidi rule when it holds right-to-left characters.

An encoded label is at most 63 characters, and the whole name at most 253 (254 with a final
full stop). Each failure is an error of a kind with its message.
-/

namespace SecScan.Http.Idna

open SecScan.Text

/-- A failure: the kind of error and its message. -/
structure Failure where
  kind : String
  message : String
  deriving Repr, BEq, Inhabited

/-- A general failure. -/
def general (message : String) : Failure := ⟨"IDNAError", message⟩

/-- The directions of characters the bidi rule tells apart. -/
inductive Direction where
  | unknown
  | leftToRight
  | rightToLeft
  | arabicLetter
  | europeanNumber
  | europeanSeparator
  | europeanTerminator
  | arabicNumber
  | commonSeparator
  | nonspacingMark
  | boundaryNeutral
  | otherNeutral
  | other
  deriving Repr, BEq, Inhabited

/-- The direction of a character. -/
def direction (c : Char) : Direction :=
  match Ranges.lastAtMost Prod.fst bidiRuns c.toNat with
  | some (_, 1) => .leftToRight
  | some (_, 2) => .rightToLeft
  | some (_, 3) => .arabicLetter
  | some (_, 4) => .europeanNumber
  | some (_, 5) => .europeanSeparator
  | some (_, 6) => .europeanTerminator
  | some (_, 7) => .arabicNumber
  | some (_, 8) => .commonSeparator
  | some (_, 9) => .nonspacingMark
  | some (_, 10) => .boundaryNeutral
  | some (_, 11) => .otherNeutral
  | some (_, 0) | none => .unknown
  | some _ => .other

/-- Whether a direction is right to left. -/
def Direction.isRightToLeft (d : Direction) : Bool :=
  d == .rightToLeft || d == .arabicLetter

/-- Whether a direction makes a label one the bidi rule applies to. -/
def Direction.isBidi (d : Direction) : Bool := d.isRightToLeft || d == .arabicNumber

/-- Whether a direction is a number's. -/
def Direction.isNumber (d : Direction) : Bool := d == .arabicNumber || d == .europeanNumber

/-- The directions a right-to-left label may hold. -/
def Direction.allowedRightToLeft (d : Direction) : Bool :=
  d.isRightToLeft || d.isNumber || d == .europeanSeparator || d == .commonSeparator ||
    d == .europeanTerminator || d == .otherNeutral || d == .boundaryNeutral || d == .nonspacingMark

/-- The directions a left-to-right label may hold. -/
def Direction.allowedLeftToRight (d : Direction) : Bool :=
  d == .leftToRight || d == .europeanNumber || d == .europeanSeparator ||
    d == .commonSeparator || d == .europeanTerminator || d == .otherNeutral ||
    d == .boundaryNeutral || d == .nonspacingMark

/-- A code point as `U+` and at least four upper-case hexadecimal digits. -/
def codeName (c : Char) : String :=
  let n := (Text.surrogateCode? c).getD c.toNat
  let digits := (Nat.toDigits 16 n).map Char.toUpper
  "U+" ++ String.ofList (List.replicate (4 - digits.length) '0' ++ digits)

/-- A label as the language writes it back as a literal. -/
def shown (label : List Char) : String := Json.quoteLiteral (String.ofList label)

/-- The bidi rule for a label: one holding a right-to-left character or an Arabic number must
start with a strong direction, hold only the directions its own direction allows, end with a
strong direction or a number (non-spacing marks aside), and, when right to left, not mix the two
kinds of number. A character whose direction is not known fails any label. -/
def checkBidi (label : List Char) : Except Failure Unit := do
  let dirs := label.map direction
  let bidiError (m : String) : Failure := ⟨"IDNABidiError", m⟩
  if let some i := dirs.findIdx? (· == .unknown) then
    throw (bidiError ("Unknown directionality in label " ++ shown label ++ " at position " ++
      toString (i + 1)))
  if !dirs.any Direction.isBidi then return
  let first := dirs.headD .unknown
  let rtl := first.isRightToLeft
  if !rtl && first != .leftToRight then
    throw (bidiError ("First codepoint in label " ++ shown label ++
      " must be directionality L, R or AL"))
  let mut validEnding := false
  let mut numberKind : Option Direction := none
  for (d, i) in dirs.zipIdx 1 do
    if rtl then
      if !d.allowedRightToLeft then
        throw (bidiError ("Invalid direction for codepoint at position " ++ toString i ++
          " in a right-to-left label"))
      if d.isRightToLeft || d.isNumber then validEnding := true
      else if d != .nonspacingMark then validEnding := false
      if d.isNumber then
        match numberKind with
        | none => numberKind := some d
        | some k =>
          if k != d then throw (bidiError "Can not mix numeral types in a right-to-left label")
    else
      if !d.allowedLeftToRight then
        throw (bidiError ("Invalid direction for codepoint at position " ++ toString i ++
          " in a left-to-right label"))
      if d == .leftToRight || d == .europeanNumber then validEnding := true
      else if d != .nonspacingMark then validEnding := false
  if !validEnding then throw (bidiError "Label ends with illegal codepoint directionality")

/-- The joining type of a character, as its letter. -/
def joiningType (c : Char) : Option Char :=
  match Ranges.lastAtMost Prod.fst joiningRuns c.toNat with
  | some (_, last, t) => if c.toNat ≤ last then some t else none
  | none => none

/-- The combining class of a character, or none when the class is zero and the character has no
name, which the class lookup refuses. -/
def namedClass? (c : Char) : Option Nat :=
  let cls := combiningClass c
  if cls == 0 && direction c == .unknown then none else some cls

/-- Whether, passing over transparent characters, the first character met has a joining type
among `types`. -/
def joinsWith (types : List Char) : List Char → Bool
  | [] => false
  | c :: rest =>
    match joiningType c with
    | some 'T' => joinsWith types rest
    | some t => types.contains t
    | none => false

/-- Whether the joiner at `pos` stands where it may: after a virama, or, for the non-joiner,
between a letter that joins to the left and one that joins to the right; none when the
character before it has no combining class to look up. Either failure is reported alike, as a
joiner next to an unknown code point. -/
def joinerAllowed (label : List Char) (pos : Nat) : Option Bool :=
  let c := label.getD pos ' '
  let afterVirama : Option Bool :=
    if pos == 0 then some false
    else (namedClass? (label.getD (pos - 1) ' ')).map (· == 9)
  if c.toNat == 0x200C then
    afterVirama.map fun virama =>
      virama || (joinsWith ['L', 'D'] (label.take pos).reverse &&
        joinsWith ['R', 'D'] (label.drop (pos + 1)))
  else if c.toNat == 0x200D then afterVirama
  else some false

/-- Whether a code point allowed only in context stands where it may. -/
def contextAllowed (label : List Char) (pos : Nat) : Bool :=
  let c := label.getD pos ' '
  let n := c.toNat
  let before := if pos == 0 then none else label[pos - 1]?
  let after := label[pos + 1]?
  if n == 0xB7 then before == some 'l' && after == some 'l'
  else if n == 0x375 then (after.map fun a => Ranges.contains greekRanges a.toNat).getD false
  else if n == 0x5F3 || n == 0x5F4 then (before.map fun b => Ranges.contains hebrewRanges b.toNat).getD false
  else if n == 0x30FB then
    label.any fun d => d.toNat != 0x30FB && (Ranges.contains hiraganaRanges d.toNat ||
      Ranges.contains katakanaRanges d.toNat || Ranges.contains hanRanges d.toNat)
  else if 0x660 ≤ n && n ≤ 0x669 then !label.any fun d => 0x6F0 ≤ d.toNat && d.toNat ≤ 0x6F9
  else if 0x6F0 ≤ n && n ≤ 0x6F9 then !label.any fun d => 0x660 ≤ d.toNat && d.toNat ≤ 0x669
  else false

/-- Checks every code point of a label, in order. -/
def checkCodePoints (label : List Char) : Except Failure Unit := do
  for (c, pos) in label.zipIdx do
    let n := c.toNat
    if Ranges.contains pvalidRanges n then continue
    if Ranges.contains joinerRanges n then
      if joinerAllowed label pos != some true then
        throw (general ("Unknown codepoint adjacent to joiner " ++ codeName c ++ " at position " ++
          toString (pos + 1) ++ " in " ++ shown label))
    else if Ranges.contains contextualRanges n then
      if !contextAllowed label pos then
        throw ⟨"InvalidCodepointContext", "Codepoint " ++ codeName c ++ " not allowed at position " ++
          toString (pos + 1) ++ " in " ++ shown label⟩
    else
      throw ⟨"InvalidCodepoint", "Codepoint " ++ codeName c ++ " at position " ++
        toString (pos + 1) ++ " of " ++ shown label ++ " not allowed"⟩

/-- Checks a label as it reads. -/
def checkLabel (label : List Char) : Except Failure Unit := do
  if label.isEmpty then throw (general "Empty Label")
  if label.length > 254 then throw (general "Label too long")
  if !isNfc label then throw (general "Label must be in Normalization Form C")
  if (label.drop 2).take 2 == ['-', '-'] then
    throw (general "Label has disallowed hyphens in 3rd and 4th position")
  if label.head? == some '-' || label.getLast? == some '-' then
    throw (general "Label must not start or end with a hyphen")
  if label.head?.any fun c => Ranges.contains markRanges c.toNat then
    throw (general "Label begins with an illegal combining character")
  checkCodePoints label
  checkBidi label

/-- Whether a text is all ASCII. -/
def isAscii (cs : List Char) : Bool := cs.all (·.toNat < 128)

/-- ASCII letters in lower case. -/
def lowerAscii (cs : List Char) : List Char :=
  cs.map fun c => if 'A' ≤ c && c ≤ 'Z' then Char.ofNat (c.toNat + 32) else c

/-- The label an ASCII label stands for, checked: the decoded Punycode of one starting with
`xn--`, any other as it is, in lower case. -/
def asciiLabel (label : List Char) : Except Failure (List Char) := do
  let lower := lowerAscii label
  match lower with
  | 'x' :: 'n' :: '-' :: '-' :: rest =>
    if rest.isEmpty then throw (general "Malformed A-label, no Punycode eligible content found")
    if rest.getLast? == some '-' then throw (general "A-label must not end with a hyphen")
    match Punycode.decode rest with
    | .error _ => throw (general "Invalid A-label")
    | .ok decoded =>
      checkLabel decoded
      pure decoded
  | _ =>
    checkLabel lower
    pure lower

/-- The label a label stands for: an ASCII one read as `asciiLabel` does, any other checked as
it is. -/
def unicodeLabel (label : List Char) : Except Failure (List Char) :=
  if isAscii label then asciiLabel label
  else do
    checkLabel label
    pure label

/-- The ASCII form of a label: an ASCII one as it is once it reads as a valid label, any other
`xn--` and its Punycode; at most 63 characters. -/
def asciiForm (label : List Char) : Except Failure (List Char) := do
  let encoded ← if isAscii label then do
      let _ ← asciiLabel label
      pure label
    else do
      checkLabel label
      pure ("xn--".toList ++ Punycode.encode label)
  if encoded.length > 63 then throw (general "Label too long")
  pure encoded

/-- Whether a character separates labels. -/
def isLabelDot (c : Char) : Bool :=
  c == '.' || c.toNat == 0x3002 || c.toNat == 0xFF0E || c.toNat == 0xFF61

/-- The labels of a name, and whether it ends in a full stop. -/
def labels (name : List Char) : Except Failure (List (List Char) × Bool) := do
  if name.length > 254 then throw (general "Domain too long")
  let parts := name.splitOnP isLabelDot
  if parts == [[]] then throw (general "Empty domain")
  if parts.getLast? == some [] then pure (parts.dropLast, true) else pure (parts, false)

/-- The ASCII form of a host name. -/
def encode (name : String) : Except Failure String := do
  let (parts, trailingDot) ← labels name.toList
  let encoded ← parts.mapM fun part => do
    let e ← asciiForm part
    if e.isEmpty then throw (general "Empty label")
    pure e
  let encoded := if trailingDot then encoded ++ [[]] else encoded
  let result := String.ofList (List.intercalate ['.'] encoded)
  if result.length > (if trailingDot then 254 else 253) then throw (general "Domain too long")
  pure result

/-- The name a host name in ASCII form stands for. -/
def decode (name : String) : Except Failure String := do
  let (parts, trailingDot) ← labels name.toList
  let decoded ← parts.mapM fun part => do
    let d ← unicodeLabel part
    if d.isEmpty then throw (general "Empty label")
    pure d
  let decoded := if trailingDot then decoded ++ [[]] else decoded
  pure (String.ofList (List.intercalate ['.'] decoded))

end SecScan.Http.Idna
