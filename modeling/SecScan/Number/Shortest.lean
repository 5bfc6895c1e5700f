import SecScan.Number.Binary64

/-!
Decimal text of double-precision numbers. The shortest form is the decimal with the fewest
significant digits that reads back as the same number, the one nearest the exact value when
several qualify. It is written positionally when the decimal point falls within sixteen places
before or four places after the first digit, and otherwise with an exponent of at least two
digits (`1e-05`, `1.5e+300`); a whole number keeps `.0`. The general form rounds to a number of
significant digits and drops trailing zeros, switching to an exponent outside the same kind of
window.
-/

namespace SecScan

namespace Decimal

/-- `10^q` as a ratio with a positive denominator. -/
def tenPower (q : Int) : Nat × Nat :=
  if q ≥ 0 then (natPow 10 q.toNat, 1) else (1, natPow 10 (-q).toNat)

/-- `2^q` as a ratio. -/
def twoPower (q : Int) : Nat × Nat :=
  if q ≥ 0 then (natPow 2 q.toNat, 1) else (1, natPow 2 (-q).toNat)

/-- The product of two ratios. -/
def mulRatio (a b : Nat × Nat) : Nat × Nat := (a.1 * b.1, a.2 * b.2)

/-- The sum of two ratios. -/
def addRatio (a b : Nat × Nat) : Nat × Nat := (a.1 * b.2 + b.1 * a.2, a.2 * b.2)

/-- The difference of two ratios, stopping at zero. -/
def subRatio (a b : Nat × Nat) : Nat × Nat := (a.1 * b.2 - b.1 * a.2, a.2 * b.2)

/-- Compares two ratios. -/
def cmpRatio (a b : Nat × Nat) : Ordering := compare (a.1 * b.2) (b.1 * a.2)

/-- The number of decimal digits of a positive number. -/
def digitCount (n : Nat) : Nat := (Nat.toDigits 10 n).length

/-- The exponent `k` with `10^k ≤ num/den < 10^(k+1)`, for a positive ratio. -/
def floorLog10 (num den : Nat) : Int :=
  let guess : Int := (digitCount num : Int) - (digitCount den : Int)
  if cmpRatio (num, den) (tenPower guess) == .lt then guess - 1 else guess

/-- Drops the trailing zeros of a digit count, raising the exponent to match. -/
def trimZeros (digits : Nat) (exp10 : Int) (fuel : Nat) : Nat × Int :=
  match fuel with
  | 0 => (digits, exp10)
  | fuel + 1 =>
    if digits ≠ 0 ∧ digits % 10 = 0 then trimZeros (digits / 10) (exp10 + 1) fuel
    else (digits, exp10)

/-- The digits and exponent of the shortest decimal `d * 10^q` that lies within the interval of
numbers reading back as `m * 2^e`; `m` is positive. -/
def shortest (m : Nat) (e : Int) : Nat × Int :=
  let x := mulRatio (m, 1) (twoPower e)
  let above := twoPower (e - 1)
  let below := if m = natPow 2 52 ∧ e > Binary64.minExponent then twoPower (e - 2) else above
  let lo := subRatio x below
  let hi := addRatio x above
  let inclusive := m % 2 = 0
  let inside (c : Nat × Nat) : Bool :=
    match cmpRatio lo c, cmpRatio c hi with
    | .lt, .lt => true
    | .eq, .lt => inclusive
    | .lt, .eq => inclusive
    | .eq, .eq => inclusive
    | _, _ => false
  let k := floorLog10 x.1 x.2
  let attempt (n : Nat) : Option (Nat × Int) :=
    let q : Int := k - n + 1
    let scale := tenPower q
    let dLow := (x.1 * scale.2) / (x.2 * scale.1)
    let low := mulRatio (dLow, 1) scale
    let high := mulRatio (dLow + 1, 1) scale
    match inside low, inside high with
    | true, true =>
      match cmpRatio (subRatio x low) (subRatio high x) with
      | .lt => some (dLow, q)
      | .gt => some (dLow + 1, q)
      | .eq => some (if dLow % 2 = 0 then dLow else dLow + 1, q)
    | true, false => some (dLow, q)
    | false, true => some (dLow + 1, q)
    | false, false => none
  match (List.range 17).findSome? (fun i => attempt (i + 1)) with
  | some (d, q) => trimZeros d q 20
  | none => (dLowAt17 x k, k - 16)
where
  /-- The seventeen-digit truncation, which the search never needs in practice. -/
  dLowAt17 (x : Nat × Nat) (k : Int) : Nat :=
    let scale := tenPower (k - 16)
    (x.1 * scale.2) / (x.2 * scale.1)

/-- The digits of a natural number as text. -/
def digitsText (n : Nat) : String := String.ofList (Nat.toDigits 10 n)

/-- An exponent as written after `e`: a sign and at least two digits. -/
def exponentText (n : Int) : String :=
  let body := digitsText n.natAbs
  (if n < 0 then "-" else "+") ++ (if body.length < 2 then "0" ++ body else body)

/-- Writes digits `ds` (no trailing zeros) whose decimal point sits `point` places after the
first digit: positionally when `low < point ≤ high`, otherwise with an exponent. `pointZero` adds
`.0` to positional whole numbers. -/
def layout (ds : String) (point : Int) (low high : Int) (pointZero : Bool) : String :=
  let cs := ds.toList
  if low < point ∧ point ≤ high then
    if point ≤ 0 then
      "0." ++ String.ofList (List.replicate (-point).toNat '0') ++ ds
    else if point.toNat ≥ cs.length then
      ds ++ String.ofList (List.replicate (point.toNat - cs.length) '0') ++
        (if pointZero then ".0" else "")
    else
      String.ofList (cs.take point.toNat) ++ "." ++ String.ofList (cs.drop point.toNat)
  else
    let rest := cs.drop 1
    String.ofList (cs.take 1) ++ (if rest.isEmpty then "" else "." ++ String.ofList rest) ++
      "e" ++ exponentText (point - 1)

end Decimal

namespace Binary64

open Decimal

/-- The shortest text that reads back as the number: `1.5`, `20.0`, `1e-05`, `inf`, `nan`. -/
def toText : Binary64 → String
  | .nan => "nan"
  | .infinity negative => if negative then "-inf" else "inf"
  | .finite negative m e =>
    let sign := if negative then "-" else ""
    if m = 0 then sign ++ "0.0"
    else
      let (d, q) := shortest m e
      let ds := digitsText d
      sign ++ layout ds (ds.length + q) (-4) 16 true

/-- The number rounded to `precision` significant digits, trailing zeros dropped, with an
exponent when the point falls more than four places before or `precision` places after the
first digit (`20`, `0.05`, `1.23457e+06`). -/
def toGeneral (x : Binary64) (precision : Nat := 6) : String :=
  match x with
  | .nan => "nan"
  | .infinity negative => if negative then "-inf" else "inf"
  | .finite negative m e =>
    let sign := if negative then "-" else ""
    if m = 0 then sign ++ "0"
    else
      let p := max precision 1
      let x := mulRatio (m, 1) (twoPower e)
      let k := floorLog10 x.1 x.2
      let q : Int := k - p + 1
      let scale := tenPower q
      let d := Binary64.roundHalfEven (x.1 * scale.2) (x.2 * scale.1)
      let (d, q) := if d = natPow 10 p then (natPow 10 (p - 1), q + 1) else (d, q)
      let (d, q) := trimZeros d q 20
      let ds := digitsText d
      sign ++ layout ds (ds.length + q) (-4) p false

end Binary64

end SecScan
