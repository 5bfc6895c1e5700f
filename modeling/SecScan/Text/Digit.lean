import SecScan.Text.DigitTable

/-!
The value of a decimal digit of any script: digits run from zero to nine in blocks of ten.
-/

namespace SecScan.Text

/-- The value of a decimal digit, or `none` for any other character. -/
def digitValue? (c : Char) : Option Nat :=
  if '0' ≤ c ∧ c ≤ '9' then some (c.toNat - '0'.toNat)
  else if c.toNat < 128 then none
  else
    match Ranges.lastAtMost Prod.fst decimalRanges c.toNat with
    | some (first, last) => if c.toNat ≤ last then some ((c.toNat - first) % 10) else none
    | none => none

end SecScan.Text
