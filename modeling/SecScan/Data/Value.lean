import SecScan.Data.Time
import SecScan.Json.Basic
import SecScan.Json.Literal

/-!
The values configuration data is made of, whether it was read from YAML or from JSON: null,
booleans, integers, floats, text, byte strings, dates and timestamps, pairs, and lists,
mappings and sets.

Lists, mappings and sets live in a heap and values refer to them by their place in it, so a
collection can be shared, and can even hold itself, as an alias in a YAML document can make it.
A mapping keeps its entries in the order their keys were first given, and a key given again
replaces the value but keeps its place. Keys are compared the way the data's own language
compares them: a boolean, an integer and a float are equal when their numbers are, texts and
byte strings by their contents, timestamps with offsets by the instant they name. A NaN equals
only itself: the one shared NaN that `.nan` stands for, or the NaN one float node was read as.

Values are written as the language's own literals, and a collection met again while it is
being written is written `[...]` or `{...}`.
-/

namespace SecScan.Data

open SecScan.Json

/-- A value of configuration data. -/
inductive Value where
  | none
  | bool (b : Bool)
  | int (n : Int)
  | float (x : Binary64)
  /-- A NaN that the text of one float node was read as. Each such node gives a NaN of its own,
  which as a key equals only itself; the NaN written `.nan` is one float shared by all. -/
  | nanOf (node : Nat)
  | str (s : String)
  | bytes (data : List UInt8)
  | date (d : Date)
  | timestamp (t : Timestamp)
  /-- A key and a value taken together, as an ordered mapping lists them. -/
  | pair (first second : Value)
  /-- A list, a mapping or a set, by its place in the heap. -/
  | ref (place : Nat)
  deriving Repr, BEq, Inhabited

/-- A collection in the heap. -/
inductive Collection where
  | list (items : Array Value)
  | dict (entries : Array (Value × Value))
  | set (items : Array Value)
  deriving Repr, Inhabited

/-- The collections values refer to, by place. -/
structure Heap where
  collections : Array Collection := #[]
  deriving Repr, Inhabited

namespace Heap

/-- Adds a collection and gives its place. -/
def alloc (h : Heap) (c : Collection) : Nat × Heap :=
  (h.collections.size, ⟨h.collections.push c⟩)

/-- The collection at a place. -/
def get? (h : Heap) (place : Nat) : Option Collection := h.collections[place]?

/-- Replaces the collection at a place. -/
def put (h : Heap) (place : Nat) (c : Collection) : Heap := ⟨h.collections.set! place c⟩

end Heap

/-- The number a boolean, an integer or a float stands for, as a float or an integer. -/
def numberOf? : Value → Option (Sum Int Binary64)
  | .bool b => some (.inl (if b then 1 else 0))
  | .int n => some (.inl n)
  | .float x => some (.inr x)
  | _ => none

/-- Whether two numbers are equal; NaN equals only itself. -/
def sameNumber : Sum Int Binary64 → Sum Int Binary64 → Bool
  | .inl a, .inl b => a == b
  | .inl a, .inr x => x.compareInt a == some .eq
  | .inr x, .inl a => x.compareInt a == some .eq
  | .inr x, .inr y => (x.isNaN && y.isNaN) || Binary64.compareValue x y == some .eq

/-- Whether two keys are equal. -/
def sameKey (a b : Value) : Bool :=
  match numberOf? a, numberOf? b with
  | some x, some y => sameNumber x y
  | _, _ =>
    match a, b with
    | .none, .none => true
    | .str s, .str t => s == t
    | .bytes s, .bytes t => s == t
    | .date d, .date e => d == e
    | .timestamp s, .timestamp t => s.same t
    | .nanOf i, .nanOf j => i == j
    | _, _ => false

/-- Sets a key in entries: its value is replaced where the key already is, else the entry is
added at the end. -/
def setEntry (entries : Array (Value × Value)) (key value : Value) : Array (Value × Value) :=
  match entries.findIdx? (fun e => sameKey e.1 key) with
  | some i => entries.modify i fun e => (e.1, value)
  | none => entries.push (key, value)

/-- Adds an item to a set unless an equal one is there. -/
def addItem (items : Array Value) (item : Value) : Array Value :=
  if items.any (sameKey · item) then items else items.push item

/-- Whether a value counts as true: null, false, zero, empty text and empty collections do
not. -/
def Heap.truthy (h : Heap) : Value → Bool
  | .none => false
  | .bool b => b
  | .int n => n != 0
  | .float x => !x.isZero
  | .str s => !s.isEmpty
  | .bytes b => !b.isEmpty
  | .ref place =>
    match h.get? place with
    | some (.list items) => !items.isEmpty
    | some (.dict entries) => !entries.isEmpty
    | some (.set items) => !items.isEmpty
    | none => false
  | _ => true

/-- The entries of a value that is a mapping. -/
def Heap.entries? (h : Heap) : Value → Option (Array (Value × Value))
  | .ref place =>
    match h.get? place with
    | some (.dict entries) => some entries
    | _ => none
  | _ => none

/-- The items of a value that is a list. -/
def Heap.items? (h : Heap) : Value → Option (Array Value)
  | .ref place =>
    match h.get? place with
    | some (.list items) => some items
    | _ => none
  | _ => none

/-- The value under a text key of a value that is a mapping. -/
def Heap.lookup (h : Heap) (v : Value) (key : String) : Option Value :=
  (h.entries? v).bind fun entries => (entries.find? (sameKey ·.1 (.str key))).map (·.2)

/-- A byte string as its literal: printable ASCII as it is, the quote and backslash escaped,
tabs and line breaks as their escapes and every other byte in hexadecimal. -/
def bytesText (data : List UInt8) : String :=
  let quoteByte : UInt8 := if data.contains 39 && !data.contains 34 then 34 else 39
  let one (b : UInt8) : String :=
    if b == quoteByte || b == 92 then "\\" ++ (Char.ofNat b.toNat).toString
    else if b == 9 then "\\t"
    else if b == 10 then "\\n"
    else if b == 13 then "\\r"
    else if b < 32 || 127 ≤ b then "\\x" ++ hexPadded 2 b.toNat
    else (Char.ofNat b.toNat).toString
  let q := (Char.ofNat quoteByte.toNat).toString
  "b" ++ q ++ String.join (data.map one) ++ q

/-- A value as its literal. `active` holds the collections being written around it; `fuel` bounds
the depth, which the collections being written already bound. -/
def Heap.textWith (h : Heap) : Nat → List Nat → Value → String
  | 0, _, _ => "..."
  | fuel + 1, active, v =>
    match v with
    | .none => "None"
    | .bool b => if b then "True" else "False"
    | .int n => toString n
    | .float x => x.toText
    | .nanOf _ => "nan"
    | .str s => quoteLiteral s
    | .bytes data => bytesText data
    | .date d => d.text
    | .timestamp t => t.text
    | .pair a b => "(" ++ h.textWith fuel active a ++ ", " ++ h.textWith fuel active b ++ ")"
    | .ref place =>
      match h.get? place with
      | some (.list items) =>
        if active.contains place then "[...]"
        else "[" ++ ", ".intercalate (items.toList.map (h.textWith fuel (place :: active))) ++ "]"
      | some (.dict entries) =>
        if active.contains place then "\x7b...\x7d"
        else
          "\x7b" ++ ", ".intercalate (entries.toList.map fun (k, x) =>
            h.textWith fuel (place :: active) k ++ ": " ++ h.textWith fuel (place :: active) x) ++ "\x7d"
      | some (.set items) =>
        if items.isEmpty then "set()"
        else if active.contains place then "set(...)"
        else "\x7b" ++ ", ".intercalate (items.toList.map (h.textWith fuel (place :: active))) ++ "\x7d"
      | none => "None"

/-- Whether an integer has more than 4300 digits, too many to be written out. -/
def tooLongToWrite (n : Int) : Bool := n.natAbs ≥ natPow 10 4300

/-- The error writing out an integer with more than 4300 digits gives. -/
def longIntMessage : String :=
  "Exceeds the limit (4300 digits) for integer string conversion; " ++
    "use sys.set_int_max_str_digits() to increase the limit"

/-- Whether writing a value out meets an integer too long to write. `active` holds the
collections being looked through, and `fuel` bounds the depth as for `Heap.textWith`. -/
def Heap.holdsLongIntWith (h : Heap) : Nat → List Nat → Value → Bool
  | 0, _, _ => false
  | fuel + 1, active, v =>
    match v with
    | .int n => tooLongToWrite n
    | .pair a b => h.holdsLongIntWith fuel active a || h.holdsLongIntWith fuel active b
    | .ref place =>
      if active.contains place then false
      else
        match h.get? place with
        | some (.list items) => items.any (h.holdsLongIntWith fuel (place :: active))
        | some (.set items) => items.any (h.holdsLongIntWith fuel (place :: active))
        | some (.dict entries) => entries.any fun (k, x) =>
          h.holdsLongIntWith fuel (place :: active) k || h.holdsLongIntWith fuel (place :: active) x
        | none => false
    | _ => false

/-- Whether writing a value out meets an integer too long to write. -/
def Heap.holdsLongInt (h : Heap) (v : Value) : Bool :=
  h.holdsLongIntWith (2 * h.collections.size + 4) [] v

/-- A value as its literal. -/
def Heap.text (h : Heap) (v : Value) : String := h.textWith (2 * h.collections.size + 4) [] v

/-- The name of a value's type. -/
def Heap.typeName (h : Heap) : Value → String
  | .none => "NoneType"
  | .bool _ => "bool"
  | .int _ => "int"
  | .float _ => "float"
  | .nanOf _ => "float"
  | .str _ => "str"
  | .bytes _ => "bytes"
  | .date _ => "date"
  | .timestamp _ => "datetime"
  | .pair _ _ => "tuple"
  | .ref place =>
    match h.get? place with
    | some (.list _) => "list"
    | some (.dict _) => "dict"
    | some (.set _) => "set"
    | none => "NoneType"

mutual

/-- A JSON value as configuration data, its arrays and objects added to the heap. -/
def ofJson : Json → Heap → Value × Heap
  | .null, h => (.none, h)
  | .bool b, h => (.bool b, h)
  | .int n, h => (.int n, h)
  | .float x, h => (.float x, h)
  | .str s, h => (.str s, h)
  | .arr items, h =>
    let (values, h) := ofJsonItems items h
    let (place, h) := h.alloc (.list values.toArray)
    (.ref place, h)
  | .obj fields, h =>
    let (entries, h) := ofJsonFields fields h
    let (place, h) := h.alloc (.dict (entries.foldl (fun acc (k, v) => setEntry acc k v) #[]))
    (.ref place, h)

/-- JSON values as configuration data, in order. -/
def ofJsonItems : List Json → Heap → List Value × Heap
  | [], h => ([], h)
  | v :: rest, h =>
    let (x, h) := ofJson v h
    let (xs, h) := ofJsonItems rest h
    (x :: xs, h)

/-- JSON object fields as mapping entries, in order. -/
def ofJsonFields : List (String × Json) → Heap → List (Value × Value) × Heap
  | [], h => ([], h)
  | (k, v) :: rest, h =>
    let (x, h) := ofJson v h
    let (xs, h) := ofJsonFields rest h
    ((.str k, x) :: xs, h)

end

/-- Configuration data: a value and the heap of the collections it refers to. -/
structure Document where
  heap : Heap
  root : Value
  deriving Inhabited

/-- A JSON value as a document. -/
def Document.ofJson (j : Json) : Document :=
  let (root, heap) := Data.ofJson j {}
  ⟨heap, root⟩

end SecScan.Data
