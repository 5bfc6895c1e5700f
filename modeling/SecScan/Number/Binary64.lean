/-!
Double-precision binary floating point numbers as exact values. A finite number is a sign, a
significand below 2^53 and a power of two no smaller than 2^-1074; the significand is at least
2^52 unless the power is the smallest, so each value has one form. Every operation computes its
exact result and rounds it to the nearest number, a tie going to the even significand, and
results beyond the largest finite number become infinite, as IEEE 754 prescribes.
-/

namespace SecScan

/-- `b ^ e` on natural numbers, with the core library's power instance given by name, so that the
term is the same whatever other power instances are in scope. -/
def natPow (b e : Nat) : Nat :=
  @HPow.hPow Nat Nat Nat (@instHPow Nat Nat (@instPowNat Nat instNatPowNat)) b e

/-- A double-precision number. -/
inductive Binary64 where
  /-- `(-1)^negative * significand * 2^exponent`. -/
  | finite (negative : Bool) (significand : Nat) (exponent : Int)
  | infinity (negative : Bool)
  | nan
  deriving DecidableEq, Repr, Inhabited

namespace Binary64

/-- The smallest exponent. -/
def minExponent : Int := -1074

/-- Positive or negative zero. -/
def zero (negative : Bool := false) : Binary64 := .finite negative 0 minExponent

/-- Rounds a ratio to the nearest integer, a tie going to the even one. -/
def roundHalfEven (num den : Nat) : Nat :=
  let q := num / den
  let r := num % den
  if 2 * r > den then q + 1
  else if 2 * r < den then q
  else if q % 2 = 0 then q else q + 1

/-- `num / den` scaled by `2^-e`, as a numerator and denominator. -/
def scaled (num den : Nat) (e : Int) : Nat × Nat :=
  if e ≥ 0 then (num, den * natPow 2 e.toNat) else (num * natPow 2 (-e).toNat, den)

/-- The number nearest to `num / den`, with the given sign. -/
def ofRatio (negative : Bool) (num den : Nat) : Binary64 :=
  if num = 0 ∨ den = 0 then zero negative
  else
    let guess : Int := (Nat.log2 num : Int) - (Nat.log2 den : Int) - 53
    let fine := if (scaled num den guess).1 / (scaled num den guess).2 ≥ natPow 2 53 then guess + 1
      else guess
    let e := max fine minExponent
    let m := roundHalfEven (scaled num den e).1 (scaled num den e).2
    let (m, e) := if m = natPow 2 53 then (natPow 2 52, e + 1) else (m, e)
    if e > 971 then .infinity negative else .finite negative m e

/-- The nearest number to an integer. -/
def ofInt (n : Int) : Binary64 := ofRatio (n < 0) n.natAbs 1

/-- The nearest number to `digits * 10^exp10`; far outside the finite range the result is an
infinity or a zero without computing the power. -/
def ofDecimal (negative : Bool) (digits : Nat) (exp10 : Int) : Binary64 :=
  if digits = 0 then zero negative
  else
    let magnitude : Int := ((Nat.toDigits 10 digits).length : Int) + exp10
    if magnitude > 311 then .infinity negative
    else if magnitude < -330 then zero negative
    else if exp10 ≥ 0 then ofRatio negative (digits * natPow 10 exp10.toNat) 1
    else ofRatio negative digits (natPow 10 (-exp10).toNat)

/-- The exact value of a finite number: sign, numerator and a positive denominator. -/
def ratio? : Binary64 → Option (Bool × Nat × Nat)
  | .finite negative m e => some (negative, (scaled m 1 (-e)).1, (scaled m 1 (-e)).2)
  | _ => none

/-- Whether a number is neither infinite nor NaN. -/
def isFinite : Binary64 → Bool
  | .finite .. => true
  | _ => false

/-- Whether a number is NaN. -/
def isNaN : Binary64 → Bool
  | .nan => true
  | _ => false

/-- Whether a finite number is zero. -/
def isZero : Binary64 → Bool
  | .finite _ 0 _ => true
  | _ => false

/-- The number with its sign changed. -/
def neg : Binary64 → Binary64
  | .finite negative m e => .finite (!negative) m e
  | .infinity negative => .infinity (!negative)
  | .nan => .nan

/-- A signed exact value as an integer numerator over a positive denominator. -/
def signedRatio (negative : Bool) (num den : Nat) : Int × Nat :=
  (if negative then -(num : Int) else num, den)

/-- Compares two exact values given as numerator and positive denominator. -/
def compareRatio (a b : Int × Nat) : Ordering :=
  compare (a.1 * b.2) (b.1 * a.2)

/-- Compares two numbers by value, or `none` when one is NaN. Zeros of either sign are equal. -/
def compareValue : Binary64 → Binary64 → Option Ordering
  | .nan, _ => none
  | _, .nan => none
  | .infinity a, .infinity b =>
    some (if a == b then .eq else if a then .lt else .gt)
  | .infinity a, _ => some (if a then .lt else .gt)
  | _, .infinity b => some (if b then .gt else .lt)
  | .finite na ma ea, .finite nb mb eb =>
    let a := signedRatio na (scaled ma 1 (-ea)).1 (scaled ma 1 (-ea)).2
    let b := signedRatio nb (scaled mb 1 (-eb)).1 (scaled mb 1 (-eb)).2
    some (compareRatio a b)

/-- Compares a number with an integer, or `none` for NaN. -/
def compareInt (x : Binary64) (n : Int) : Option Ordering :=
  match x with
  | .nan => none
  | .infinity negative => some (if negative then .lt else .gt)
  | .finite negative m e =>
    some (compareRatio (signedRatio negative (scaled m 1 (-e)).1 (scaled m 1 (-e)).2) (n, 1))

/-- `x < y` by value; false when either is NaN. -/
def lt (x y : Binary64) : Bool := compareValue x y == some .lt

/-- `x ≤ y` by value; false when either is NaN. -/
def le (x y : Binary64) : Bool := compareValue x y == some .lt || compareValue x y == some .eq

/-- The rounded product. -/
def mul : Binary64 → Binary64 → Binary64
  | .nan, _ => .nan
  | _, .nan => .nan
  | .infinity a, .infinity b => .infinity (a != b)
  | .infinity a, .finite b m _ => if m = 0 then .nan else .infinity (a != b)
  | .finite a m _, .infinity b => if m = 0 then .nan else .infinity (a != b)
  | .finite a ma ea, .finite b mb eb =>
    let (num, den) := scaled (ma * mb) 1 (-(ea + eb))
    ofRatio (a != b) num den

/-- The rounded quotient; a finite number divided by zero is an infinity. -/
def div : Binary64 → Binary64 → Binary64
  | .nan, _ => .nan
  | _, .nan => .nan
  | .infinity _, .infinity _ => .nan
  | .infinity a, .finite b _ _ => .infinity (a != b)
  | .finite a _ _, .infinity b => zero (a != b)
  | .finite a ma ea, .finite b mb eb =>
    if mb = 0 then (if ma = 0 then .nan else .infinity (a != b))
    else
      let (num, den) := scaled ma mb (eb - ea)
      ofRatio (a != b) num den

/-- The rounded sum. -/
def add : Binary64 → Binary64 → Binary64
  | .nan, _ => .nan
  | _, .nan => .nan
  | .infinity a, .infinity b => if a == b then .infinity a else .nan
  | .infinity a, _ => .infinity a
  | _, .infinity b => .infinity b
  | .finite a ma ea, .finite b mb eb =>
    let e := min ea eb
    let x : Int := (if a then -1 else 1) * ((ma * natPow 2 (ea - e).toNat : Nat) : Int)
    let y : Int := (if b then -1 else 1) * ((mb * natPow 2 (eb - e).toNat : Nat) : Int)
    let s := x + y
    -- an exact zero sum is positive unless both terms are negative
    let negative := if s = 0 then a && b else s < 0
    let (num, den) := scaled s.natAbs 1 (-e)
    ofRatio negative num den

/-- The number nearest to the decimal rounding of `x` to `places` places after the point, a tie
of the exact value going to the even digit. -/
def roundPlaces (x : Binary64) (places : Nat) : Binary64 :=
  match x with
  | .finite negative m e =>
    let (num, den) := scaled m 1 (-e)
    ofRatio negative (roundHalfEven (num * natPow 10 places) den) (natPow 10 places)
  | other => other

/-- The integer part of a finite number, toward zero. -/
def truncate? : Binary64 → Option Int
  | .finite negative m e =>
    let (num, den) := scaled m 1 (-e)
    some (if negative then -((num / den : Nat) : Int) else ((num / den : Nat) : Int))
  | _ => none

/-- Whether a finite number is a whole number. -/
def isWhole : Binary64 → Bool
  | .finite _ m e => let (num, den) := scaled m 1 (-e); num % den = 0
  | _ => false

end Binary64

end SecScan
