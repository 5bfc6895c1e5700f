import SecScan.Data.Value

/-!
The order a set's items come out in. A set keeps its items in an open-addressing table whose
size is a power of two; iterating it walks the slots in order, so the order is fixed by the
items' hashes and the sequence of insertions, not by the order the items were given in.

Numbers hash to their value modulo the Mersenne prime `2^61 - 1`, carrying their sign, so equal
numbers of different types hash alike: an integer to its residue, a float `N * 2^E` to
`N * 2^(E mod 61)`, and the infinities to `±314159`; a hash of `-1` becomes `-2`. Booleans hash
as `0` and `1`. Other items hash in ways that change from run to run, and a set holding any of
them keeps the order its items were given in.

An item goes to the slot its hash masked to the table picks, or, when that is taken, to the
first free one among the next nine (when they fit in the table), and otherwise the probe moves
on to `5 * i + 1 + perturb`, where `perturb` starts as the hash and loses five bits at each
move. The table grows when three fifths of it would be in use.
-/

namespace SecScan.Data

/-- The modulus of numeric hashes, `2^61 - 1`. -/
def hashModulus : Nat := natPow 2 61 - 1

/-- A hash with its sign applied; `-1` is kept for errors and becomes `-2`. -/
def signedHash (negative : Bool) (residue : Nat) : Int :=
  let h : Int := if negative then -(residue : Int) else residue
  if h == -1 then -2 else h

/-- The hash of an integer. -/
def intHash (n : Int) : Int := signedHash (n < 0) (n.natAbs % hashModulus)

/-- The hash of a float; none for NaN, whose hash is its identity. -/
def floatHash : Binary64 → Option Int
  | .finite negative m e =>
    let shift := (e % 61).toNat
    some (signedHash negative (m * natPow 2 shift % hashModulus))
  | .infinity negative => some (if negative then -314159 else 314159)
  | .nan => none

/-- The hash of a value, when it is the same in every run. -/
def hashOf? : Value → Option Int
  | .bool b => some (if b then 1 else 0)
  | .int n => some (intHash n)
  | .float x => floatHash x
  | _ => none

/-- A hash as the unsigned machine word it is probed with. -/
def hashWord (h : Int) : Nat := (h % (natPow 2 64 : Int)).toNat

/-- How many slots after the first are tried before the probe jumps. -/
def linearProbes : Nat := 9

/-- The smallest table size in use. -/
def minTableSize : Nat := 8

/-- A table of slots, each empty or holding the hash word of an item and the item's index. -/
abbrev Slots := Array (Option (Nat × Nat))

/-- The first free slot among a slot and the `linearProbes` after it, when they all fit in the
table; otherwise the slot alone. -/
def freeNear (slots : Slots) (i : Nat) : Option Nat :=
  let mask := slots.size - 1
  let window := if i + linearProbes ≤ mask then linearProbes + 1 else 1
  (List.range window).map (i + ·) |>.find? fun j => slots[j]? == some none

/-- The slot an item with hash word `hash` is put in: the probe goes on until a free slot turns
up. The fuel covers the moves while `perturb` still has bits, then one full cycle of the
table. -/
def probeSlot (slots : Slots) (hash : Nat) : Nat → Nat → Nat → Option Nat
  | 0, _, _ => none
  | fuel + 1, i, perturb =>
    match freeNear slots i with
    | some j => some j
    | none =>
      let perturb := perturb / natPow 2 5
      probeSlot slots hash fuel ((i * 5 + 1 + perturb) % slots.size) perturb

/-- Puts an item in the table. -/
def insertSlot (slots : Slots) (hash index : Nat) : Slots :=
  match probeSlot slots hash (slots.size + 16) (hash % slots.size) hash with
  | some j => slots.set! j (some (hash, index))
  | none => slots

/-- The table of the smallest size above `minUsed` with the items of `slots` put in it anew, in
slot order. -/
def resizeSlots (slots : Slots) (minUsed : Nat) : Slots :=
  let size := (List.range 64).map (minTableSize * natPow 2 ·) |>.find? (· > minUsed)
  let fresh : Slots := Array.replicate (size.getD minTableSize) none
  slots.foldl (fun acc s => match s with
    | some (hash, index) => insertSlot acc hash index
    | none => acc) fresh

/-- Adds an item to the table, growing it when the slots in use reach three fifths of it. -/
def addSlot (slots : Slots) (used hash index : Nat) : Slots :=
  let slots := insertSlot slots hash index
  let used := used + 1
  if used * 5 < (slots.size - 1) * 3 then slots
  else resizeSlots slots (if used > 50000 then used * 2 else used * 4)

/-- The order of the items a set is filled with, all at once, from distinct items given in
order with their hash words: the table is sized for them first, then takes them one by one. -/
def slotOrder (hashes : Array Nat) : Array Nat :=
  let start : Slots := Array.replicate minTableSize none
  let start := if hashes.size * 5 ≥ (minTableSize - 1) * 3 then resizeSlots start (hashes.size * 2)
    else start
  let (slots, _) := hashes.foldl (fun (acc : Slots × Nat) hash =>
    (addSlot acc.1 acc.2 hash acc.2, acc.2 + 1)) (start, 0)
  slots.filterMap fun s => s.map (·.2)

/-- The items of a set in the order iterating it gives, from distinct items in the order they
were added. -/
def setOrder (items : Array Value) : Array Value :=
  match items.mapM hashOf? with
  | some hashes => (slotOrder (hashes.map hashWord)).filterMap fun i => items[i]?
  | none => items

end SecScan.Data
