/-!
Reading bytes as UTF-8 text. A byte sequence is read one character at a time; a sequence that
is not UTF-8 is an error that spans the bytes read before it went wrong: a byte that cannot
start a character (`invalid start byte`), a lead byte whose next bytes do not continue it
(`invalid continuation byte`, spanning the lead and the good bytes after it), or a character
cut off by the end (`unexpected end of data`, spanning the rest). Encoded surrogates and
overlong forms do not continue their lead. Strict reading stops at the first error; lenient
reading drops the bytes of each error and goes on, and replacing reading puts one replacement
character for them. Text read from a file also has its line ends
unified: a carriage return, alone or before a line feed, becomes a line feed.
-/

namespace SecScan.Text

/-- Why a byte sequence is not UTF-8, with the byte span it covers. -/
structure DecodeError where
  reason : String
  start : Nat
  stop : Nat
  deriving Repr, Inhabited, BEq

/-- Two hexadecimal digits of a byte. -/
def hexByte (b : UInt8) : String :=
  let digit (n : Nat) : Char := if n < 10 then Char.ofNat (48 + n) else Char.ofNat (87 + n)
  String.ofList [digit (b.toNat / 16), digit (b.toNat % 16)]

/-- The message of a decoding error in `bytes`. -/
def DecodeError.message (e : DecodeError) (bytes : ByteArray) : String :=
  if e.stop == e.start + 1 then
    "'utf-8' codec can't decode byte 0x" ++ hexByte (bytes.get! e.start) ++ " in position " ++
      toString e.start ++ ": " ++ e.reason
  else
    "'utf-8' codec can't decode bytes in position " ++ toString e.start ++ "-" ++
      toString (e.stop - 1) ++ ": " ++ e.reason

/-- Whether a byte continues a character. -/
def isContinuation (b : UInt8) : Bool := 0x80 ≤ b.toNat && b.toNat ≤ 0xBF

/-- The range the second byte of a character must lie in, given its lead. -/
def secondRange (lead : Nat) : Nat × Nat :=
  if lead == 0xE0 then (0xA0, 0xBF)
  else if lead == 0xED then (0x80, 0x9F)
  else if lead == 0xF0 then (0x90, 0xBF)
  else if lead == 0xF4 then (0x80, 0x8F)
  else (0x80, 0xBF)

/-- One step of reading at `pos`: the character and the next position, or the error there. -/
def readChar (bytes : ByteArray) (pos : Nat) : Except DecodeError (Char × Nat) :=
  let n := bytes.size
  let at_ (i : Nat) : Nat := (bytes.get! i).toNat
  let b0 := at_ pos
  let need : Nat := if b0 < 0x80 then 1 else if b0 < 0xC2 then 0 else if b0 < 0xE0 then 2
    else if b0 < 0xF0 then 3 else if b0 < 0xF5 then 4 else 0
  if need == 1 then .ok (Char.ofNat b0, pos + 1)
  else if need == 0 then .error ⟨"invalid start byte", pos, pos + 1⟩
  else
    let (lo, hi) := secondRange b0
    let goodAt (k : Nat) : Bool :=
      if k == 1 then lo ≤ at_ (pos + 1) && at_ (pos + 1) ≤ hi else isContinuation (bytes.get! (pos + k))
    -- the first continuation byte that is present and wrong, if any
    let present := min (need - 1) (n - pos - 1)
    match (List.range present).find? (fun k => !goodAt (k + 1)) with
    | some k => .error ⟨"invalid continuation byte", pos, pos + k + 1⟩
    | none =>
      if present < need - 1 then .error ⟨"unexpected end of data", pos, n⟩
      else
        let tail := (List.range (need - 1)).foldl (fun acc k => acc * 64 + (at_ (pos + k + 1) - 0x80)) 0
        let leadBits := if need == 2 then b0 - 0xC0 else if need == 3 then b0 - 0xE0 else b0 - 0xF0
        .ok (Char.ofNat (leadBits <<< (6 * (need - 1)) + tail), pos + need)

/-- Reads bytes from `pos`; `fuel` bounds the steps, each of which reads at least one byte. -/
def decodeFrom (bytes : ByteArray) (lenient : Bool) : Nat → Nat → List Char → Except DecodeError (List Char)
  | 0, _, acc => .ok acc.reverse
  | fuel + 1, pos, acc =>
    if pos ≥ bytes.size then .ok acc.reverse
    else
      match readChar bytes pos with
      | .ok (c, next) => decodeFrom bytes lenient fuel next (c :: acc)
      | .error e => if lenient then decodeFrom bytes lenient fuel e.stop acc else .error e

/-- The text of UTF-8 bytes, or the first error. -/
def decodeUtf8 (bytes : ByteArray) : Except DecodeError String :=
  (decodeFrom bytes false (bytes.size + 1) 0 []).map String.ofList

/-- The text of bytes read as UTF-8, the bytes of every error dropped. -/
def decodeUtf8Lenient (bytes : ByteArray) : String :=
  match decodeFrom bytes true (bytes.size + 1) 0 [] with
  | .ok cs => String.ofList cs
  | .error _ => ""

/-- Reads bytes from `pos`, each error's bytes replaced by one replacement character; `fuel`
bounds the steps. -/
def decodeReplacingFrom (bytes : ByteArray) : Nat → Nat → List Char → List Char
  | 0, _, acc => acc.reverse
  | fuel + 1, pos, acc =>
    if pos ≥ bytes.size then acc.reverse
    else
      match readChar bytes pos with
      | .ok (c, next) => decodeReplacingFrom bytes fuel next (c :: acc)
      | .error e => decodeReplacingFrom bytes fuel e.stop (Char.ofNat 0xFFFD :: acc)

/-- The text of bytes read as UTF-8, the bytes of every error replaced by one replacement
character. -/
def decodeUtf8Replacing (bytes : ByteArray) : String :=
  String.ofList (decodeReplacingFrom bytes (bytes.size + 1) 0 [])

/-- Line ends unified: `\r\n` and a lone `\r` become `\n`. -/
def unifyLineEnds : List Char → List Char
  | '\r' :: '\n' :: rest => '\n' :: unifyLineEnds rest
  | '\r' :: rest => '\n' :: unifyLineEnds rest
  | c :: rest => c :: unifyLineEnds rest
  | [] => []

end SecScan.Text
