import SecScan.Text.Surrogate

/-!
JSON documents given as bytes. The encoding is told from the first bytes, as JSON text is
always ASCII at its start: a byte order mark names UTF-32, UTF-16 or UTF-8; otherwise zero bytes
among the first four mark UTF-32 or UTF-16 of the order they show, and anything else is UTF-8.
The bytes are decoded with a surrogate that pairs with nothing kept as it is. Bytes that do not decode, as UTF-16 of an odd length or UTF-32 naming a code point
beyond the last one, are no text at all.
-/

namespace SecScan.Json

/-- The encodings a document may come in. -/
inductive Encoding where
  | utf8
  /-- UTF-8 after a byte order mark, which is dropped. -/
  | utf8Marked
  /-- UTF-16 whose byte order a mark at its start gives. -/
  | utf16Marked
  /-- UTF-32 whose byte order a mark at its start gives. -/
  | utf32Marked
  | utf16 (bigEndian : Bool)
  | utf32 (bigEndian : Bool)
  deriving Repr, BEq, Inhabited

/-- The encoding the first bytes of a document show. -/
def detectEncoding (bytes : List UInt8) : Encoding :=
  let b := bytes.map UInt8.toNat
  if b.take 4 == [0xFF, 0xFE, 0, 0] || b.take 4 == [0, 0, 0xFE, 0xFF] then .utf32Marked
  else if b.take 2 == [0xFF, 0xFE] || b.take 2 == [0xFE, 0xFF] then .utf16Marked
  else if b.take 3 == [0xEF, 0xBB, 0xBF] then .utf8Marked
  else
    match b with
    | b0 :: b1 :: b2 :: b3 :: _ =>
      if b0 == 0 then (if b1 != 0 then .utf16 true else .utf32 true)
      else if b1 == 0 then (if b2 != 0 || b3 != 0 then .utf16 false else .utf32 false)
      else .utf8
    | [b0, b1] =>
      if b0 == 0 then .utf16 true else if b1 == 0 then .utf16 false else .utf8
    | _ => .utf8

/-- The character of a code point, a lone surrogate as its stand-in. -/
def unitChar (code : Nat) : Char :=
  if Text.firstSurrogate ≤ code && code < Text.firstSurrogate + Text.surrogateCount then
    Text.surrogateChar code
  else Char.ofNat code

/-- The 16-bit units of bytes in a byte order; none for an odd number of bytes. -/
def units16 (bigEndian : Bool) : List UInt8 → Option (List Nat)
  | [] => some []
  | [_] => none
  | a :: b :: rest =>
    let unit := if bigEndian then a.toNat * 256 + b.toNat else b.toNat * 256 + a.toNat
    (units16 bigEndian rest).map (unit :: ·)

/-- The characters of UTF-16 units: a high surrogate and a low one make one character, and any
other surrogate stands alone. -/
def chars16 : List Nat → List Char
  | hi :: lo :: rest =>
    if 0xD800 ≤ hi && hi < 0xDC00 && 0xDC00 ≤ lo && lo < 0xE000 then
      Char.ofNat (0x10000 + (hi - 0xD800) * 0x400 + (lo - 0xDC00)) :: chars16 rest
    else unitChar hi :: chars16 (lo :: rest)
  | [u] => [unitChar u]
  | [] => []

/-- The characters of UTF-32 bytes in a byte order; none for a length that is not a multiple of
four or a code point beyond the last one. -/
def chars32 (bigEndian : Bool) : List UInt8 → Option (List Char)
  | [] => some []
  | a :: b :: c :: d :: rest =>
    let code := if bigEndian then ((a.toNat * 256 + b.toNat) * 256 + c.toNat) * 256 + d.toNat
      else ((d.toNat * 256 + c.toNat) * 256 + b.toNat) * 256 + a.toNat
    if code > 0x10FFFF then none else (chars32 bigEndian rest).map (unitChar code :: ·)
  | _ => none

/-- The text of a document sent as the UTF-8 bytes of `raw`, read back by the encoding its
first bytes show; none when they do not decode. Bytes that decode as UTF-8 are `raw` again. -/
def documentText (raw : String) : Option String :=
  let bytes := raw.toUTF8.toList
  match detectEncoding bytes with
  | .utf8 => some raw
  | .utf8Marked => some (String.ofList raw.toList.tail)
  | .utf16Marked =>
    (units16 (bytes.head? == some 0xFE) (bytes.drop 2)).map fun us => String.ofList (chars16 us)
  | .utf32Marked => (chars32 (bytes.head? == some 0) (bytes.drop 4)).map String.ofList
  | .utf16 bigEndian => (units16 bigEndian bytes).map fun us => String.ofList (chars16 us)
  | .utf32 bigEndian => (chars32 bigEndian bytes).map String.ofList

end SecScan.Json
