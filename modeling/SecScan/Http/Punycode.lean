import SecScan.Text.Surrogate

/-!
Punycode (RFC 3492), the encoding of a label of any characters in ASCII letters, digits and
hyphens. The ASCII characters of the label come first, then a hyphen when there were any, then
the other characters as a sequence of deltas: each says how far to move, over positions and
code points together, from the last insertion to the next. A delta is written as a
variable-length integer in base 36, least significant digit first, whose digit thresholds
follow a bias that adapts to the deltas seen so far.

Decoding reads the deltas back: an input that ends in the middle of one, a digit that is not a
letter or a digit, or a code point beyond the last one is an error. A decoded code point may be
a surrogate; it comes out as the stand-in the rest of the project uses.
-/

namespace SecScan.Http.Punycode

/-- The base of the digits. -/
def base : Nat := 36

/-- The threshold of the `j`-th digit of a delta under a bias: between 1 and 26. -/
def threshold (j bias : Nat) : Nat :=
  let t := base * (j + 1)
  if t ≤ bias + 1 then 1 else if t ≥ bias + 26 then 26 else t - bias

theorem threshold_pos (j bias : Nat) : 1 ≤ threshold j bias := by
  unfold threshold
  dsimp only
  split
  · omega
  · split <;> omega

theorem threshold_le (j bias : Nat) : threshold j bias ≤ 26 := by
  unfold threshold
  dsimp only
  split
  · omega
  · split <;> omega

/-- Divides a delta by 35 until it is at most 455, counting 36 for each division. -/
def shrink (delta divisions : Nat) : Nat × Nat :=
  if 455 < delta then shrink (delta / 35) (divisions + 36) else (delta, divisions)
termination_by delta
decreasing_by exact Nat.div_lt_self (by omega) (by omega)

/-- The bias after a delta, the first one damped by 700 and the others halved. -/
def adapt (delta : Nat) (first : Bool) (count : Nat) : Nat :=
  let delta := if first then delta / 700 else delta / 2
  let delta := delta + delta / count
  let (delta, divisions) := shrink delta 0
  divisions + 36 * delta / (delta + 38)

/-- The character of a digit value: `a` to `z` for 0 to 25, `0` to `9` for 26 to 35. -/
def digitChar (d : Nat) : Char :=
  if d < 26 then Char.ofNat (97 + d) else Char.ofNat (22 + d)

/-- The digits of a delta under a bias, from the `j`-th on. -/
def deltaDigits (bias j n : Nat) : List Char :=
  let t := threshold j bias
  if n < t then [digitChar n]
  else digitChar (t + (n - t) % (base - t)) :: deltaDigits bias (j + 1) ((n - t) / (base - t))
termination_by n
decreasing_by
  have h1 := threshold_pos j bias
  have h2 := threshold_le j bias
  have h3 : (n - threshold j bias) / (base - threshold j bias) ≤ n - threshold j bias :=
    Nat.div_le_self _ _
  omega

/-- The deltas of the characters that are not ASCII, taken in order of code point and, for
each, in order of position: the distance from the last insertion, counting for every code point
passed the positions of the characters below it, and for every position passed the characters
below the one inserted. -/
def deltas (cs : List Char) : List Nat :=
  let extended := ((cs.filter (·.toNat ≥ 128)).map Char.toNat).mergeSort (· ≤ ·) |>.eraseDups
  let step (acc : List Nat × Nat × Int) (code : Nat) : List Nat × Nat × Int :=
    let (out, oldCode, oldIndex) := acc
    let below := (cs.filter (·.toNat < code)).length
    let start : Int := ((below + 1) * (code - oldCode) : Nat)
    let (out, _, oldIndex, _) := cs.foldl (fun (st : List Nat × Int × Int × Int) c =>
      let (out, delta, oldIndex, index) := st
      if c.toNat == code then
        let delta := delta + (index + 1 - oldIndex)
        (out ++ [(delta - 1).toNat], 0, index + 1, index + 1)
      else if c.toNat < code then (out, delta, oldIndex, index + 1)
      else (out, delta, oldIndex, index)) (out, start, oldIndex, -1)
    (out, code, oldIndex)
  (extended.foldl step ([], 128, -1)).1

/-- The digits of all deltas, the bias adapting after each. -/
def encodeDeltas (basicCount : Nat) (ds : List Nat) : List Char :=
  let (out, _, _) := ds.foldl (fun (acc : List Char × Nat × Nat) delta =>
    let (out, bias, points) := acc
    (out ++ deltaDigits bias 0 delta, adapt delta (points == 0) (basicCount + points + 1),
      points + 1)) ([], 72, 0)
  out

/-- The Punycode of a label. -/
def encode (cs : List Char) : List Char :=
  let basic := cs.filter (·.toNat < 128)
  let extended := encodeDeltas basic.length (deltas cs)
  if basic.isEmpty then extended else basic ++ '-' :: extended

/-- Why a label does not decode. -/
inductive DecodeError where
  /-- The input ends in the middle of a delta. -/
  | incomplete
  /-- A character that is no digit, upper-cased. -/
  | badDigit (c : Char)
  /-- A code point beyond the last one. -/
  | badCode (code : Nat)
  deriving Repr, BEq, Inhabited

/-- The value of an upper-cased digit character. -/
def digitValue? (c : Char) : Option Nat :=
  if 'A' ≤ c && c ≤ 'Z' then some (c.toNat - 65)
  else if '0' ≤ c && c ≤ '9' then some (c.toNat - 22)
  else none

/-- Reads one delta from its `j`-th digit on, with the weight of that digit and the value so
far: the delta and the rest of the input. -/
def readDelta (bias : Nat) : Nat → Nat → Nat → List Char → Except DecodeError (Nat × List Char)
  | _, _, _, [] => .error .incomplete
  | j, w, acc, c :: rest =>
    match digitValue? c with
    | none => .error (.badDigit c)
    | some d =>
      let t := threshold j bias
      let acc := acc + d * w
      if d < t then .ok (acc, rest) else readDelta bias (j + 1) (w * (base - t)) acc rest

theorem readDelta_shorter (bias : Nat) :
    ∀ (j w acc : Nat) (cs : List Char) (r : Nat × List Char),
      readDelta bias j w acc cs = .ok r → r.2.length < cs.length
  | _, _, _, [], _, h => by simp [readDelta] at h
  | j, w, acc, c :: rest, r, h => by
    simp only [readDelta] at h
    split at h
    · simp at h
    · split at h
      · simp only [Except.ok.injEq] at h
        subst h
        simp
      · have := readDelta_shorter bias _ _ _ rest r h
        simp only [List.length_cons]
        omega

/-- The character of a decoded code point, a surrogate as its stand-in. -/
def codeChar (code : Nat) : Char :=
  if Text.firstSurrogate ≤ code && code < Text.firstSurrogate + Text.surrogateCount then
    Text.surrogateChar code
  else Char.ofNat code

/-- Inserts the characters the deltas name into the text so far; `next` is the position after
the last insertion, `code` the last code point inserted. -/
def insertAll (out : List Char) (code next bias : Nat) (first : Bool) (cs : List Char) :
    Except DecodeError (List Char) :=
  if cs.isEmpty then .ok out
  else
    match hr : readDelta bias 0 1 0 cs with
    | .error e => .error e
    | .ok (delta, rest) =>
      let steps := next + delta
      let code := code + steps / (out.length + 1)
      if code > 0x10FFFF then .error (.badCode code)
      else
        let pos := steps % (out.length + 1)
        let out := out.take pos ++ codeChar code :: out.drop pos
        have : rest.length < cs.length := readDelta_shorter bias 0 1 0 cs (delta, rest) hr
        insertAll out code (pos + 1) (adapt delta first out.length) false rest
termination_by cs.length

/-- Decodes a label: the characters before its last hyphen are basic, the rest are deltas. -/
def decode (cs : List Char) : Except DecodeError (List Char) :=
  let upper (c : Char) : Char := if 'a' ≤ c && c ≤ 'z' then Char.ofNat (c.toNat - 32) else c
  match cs.reverse.idxOf? '-' with
  | some i => insertAll (cs.take (cs.length - i - 1)) 128 0 72 true ((cs.drop (cs.length - i)).map upper)
  | none => insertAll [] 128 0 72 true (cs.map upper)

end SecScan.Http.Punycode
