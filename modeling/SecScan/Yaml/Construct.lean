import SecScan.Yaml.Compose
import SecScan.Data.SetOrder
import SecScan.Number.Read
import SecScan.Text.Case

/-!
Building values from a document's node graph, as safe loading does.

Each node is built once; a node reached again through an alias gives the same value. A scalar
is built at once by its tag: null, a boolean, an integer (binary, octal, decimal, hexadecimal or
base sixty), a float, bytes from base64, a date or a timestamp, or text. A sequence, a mapping,
a set, an ordered map or a list of pairs is created empty at once and filled later, round by
round, so a collection can hold itself; within a round collections are filled in the order they
were created. Before a mapping is filled, its merge keys (`<<`) are replaced by the entries of
the mappings they name, which come first, and a value key (`=`) becomes plain text. A key must
be hashable, so a collection cannot be one. Any other tag is a problem.

Conversions that fail inside a scalar's text, such as `!!int abc`, stop loading with the error
the conversion gives rather than with a problem.
-/

namespace SecScan.Yaml

open SecScan.Data

/-- A collection created but not yet filled: the node it comes from, its place in the heap,
and what it is built as. -/
inductive Pending where
  | sequence (node place : Nat)
  | mapping (node place : Nat)
  | set (node place : Nat)
  /-- An ordered map or a list of pairs, with the phrase naming it in problems. -/
  | pairs (node place : Nat) (what : String)
  deriving Repr, Inhabited

/-- The state of building: the nodes, which flattening merge keys changes, the value built for
each node, the heap, and the collections still to fill. -/
structure Builder where
  nodes : Array Node
  built : Array (Option Value)
  heap : Heap := {}
  pending : Array Pending := #[]
  deriving Inhabited

/-- Building: changing the builder's state, failing with a problem or an error. -/
abbrev BuildM := StateT Builder (Except Failure)

namespace BuildM

/-- Fails with a problem. -/
def fail {α : Type} (context : Option String) (contextMark : Option Nat) (problem : String)
    (mark : Nat) : BuildM α :=
  throw (.problem { context := context, contextMark := contextMark, problem := problem, mark := mark })

/-- Stops with an error of another kind. -/
def crash {α : Type} (kind message : String) : BuildM α := throw (.crash kind message)

/-- The node at a place. -/
def node (place : Nat) : BuildM Node := do
  match (← get).nodes[place]? with
  | some n => pure n
  | none => crash "KeyError" (toString place)

/-- Changes the node at a place. -/
def modifyNode (place : Nat) (f : Node → Node) : BuildM Unit :=
  modify fun b => { b with nodes := b.nodes.modify place f }

/-- The text of a scalar node, or of the value of a mapping's `=` key. -/
def scalarText : Nat → Nat → BuildM String
  | 0, _ => crash "RecursionError" "maximum recursion depth exceeded"
  | fuel + 1, place => do
    let n ← node place
    match n.body with
    | .scalar text => pure text
    | .mapping pairs =>
      let nodes := (← get).nodes
      match pairs.find? fun (k, _) => (nodes[k]?.map (·.tag)) == some (typeTag "value") with
      | some (_, v) => scalarText fuel v
      | none => fail none none ("expected a scalar node, but found " ++ n.body.id) n.start
    | .sequence _ => fail none none ("expected a scalar node, but found " ++ n.body.id) n.start

/-- The text of a scalar node. -/
def scalar (place : Nat) : BuildM String := do
  scalarText ((← get).nodes.size + 1) place

/-- The value of an integer's text, as the conversion reads it in a base; in base ten, text
with more than 4300 digits is refused. -/
def intIn (text : String) (base : Nat) : BuildM Int :=
  match Number.readIntText text base with
  | .ok n => pure n
  | .error (.tooManyDigits count) =>
    crash "ValueError" ("Exceeds the limit (4300 digits) for integer string conversion: value has " ++
      toString count ++ " digits; use sys.set_int_max_str_digits() to increase the limit")
  | .error .invalid => crash "ValueError" (Number.intErrorText (Json.quoteLiteral text) base)

/-- The value of a float's text, as the conversion reads it. -/
def floatOf (text : String) : BuildM Binary64 :=
  match Number.readFloatText? text with
  | some x => pure x
  | none => crash "ValueError" ("could not convert string to float: " ++ Json.quoteLiteral text)

/-- Adds up the places of a base-sixty float, lowest first, to `sum`: each place is multiplied
by its weight, an exact power of sixty that must be within the range of floats to take part, so
a number with too many places overflows even when its high places are zero. -/
def sexagesimalSum : List Binary64 → Binary64 → Nat → BuildM Binary64
  | [], sum, _ => pure sum
  | d :: rest, sum, weight =>
    match Binary64.ofInt weight with
    | .infinity _ => crash "OverflowError" "int too large to convert to float"
    | w => sexagesimalSum rest (Binary64.add sum (Binary64.mul d w)) (weight * 60)

/-- The first character of a text, an error when it is empty. -/
def firstChar (text : String) : BuildM Char :=
  match text.toList with
  | c :: _ => pure c
  | [] => crash "IndexError" "string index out of range"

/-- Drops a leading sign, giving whether it was a minus. -/
def unsign (text : String) : BuildM (Bool × String) := do
  let c ← firstChar text
  let negative := c == '-'
  pure (negative, if c == '-' || c == '+' then String.ofList (text.toList.drop 1) else text)

/-- Builds an integer: underscores dropped, then a sign, and binary after `0b`, hexadecimal
after `0x`, octal after `0`, base sixty with colons, or decimal. -/
def buildInt (text : String) : BuildM Int := do
  let text := String.ofList (text.toList.filter (· != '_'))
  let (negative, body) ← unsign text
  let signed (n : Int) : Int := if negative then -n else n
  if body == "0" then return 0
  if body.startsWith "0b" then return signed (← intIn (String.ofList (body.toList.drop 2)) 2)
  if body.startsWith "0x" then return signed (← intIn (String.ofList (body.toList.drop 2)) 16)
  if (← firstChar body) == '0' then return signed (← intIn body 8)
  if body.toList.contains ':' then
    let parts ← (body.splitOn ":").mapM (intIn · 10)
    return signed (parts.foldl (fun acc d => acc * 60 + d) 0)
  return signed (← intIn body 10)

/-- Builds a float for the node at `place`: underscores dropped and letters lowered, then a
sign, and infinity, the shared NaN, base sixty with colons, or a decimal number. A NaN read any
other way is the node's own. -/
def buildFloat (place : Nat) (text : String) : BuildM Value := do
  let text := Text.toLower (String.ofList (text.toList.filter (· != '_')))
  let (negative, body) ← unsign text
  let signed (x : Binary64) : Value :=
    if x.isNaN then .nanOf place else .float (if negative then x.neg else x)
  if body == ".inf" then return signed (.infinity false)
  if body == ".nan" then return .float .nan
  if body.toList.contains ':' then
    let parts ← (body.splitOn ":").mapM floatOf
    return signed (← sexagesimalSum parts.reverse Binary64.zero 1)
  return signed (← floatOf body)

/-- The value of a base64 letter. -/
def base64Digit? (b : UInt8) : Option Nat :=
  let n := b.toNat
  if 65 ≤ n && n ≤ 90 then some (n - 65)
  else if 97 ≤ n && n ≤ 122 then some (n - 71)
  else if 48 ≤ n && n ≤ 57 then some (n + 4)
  else if n == 43 then some 62
  else if n == 47 then some 63
  else none

/-- Decodes base64 leniently: other bytes are passed over, and padding after two or three
letters of a group ends the data. -/
def decodeBase64 (data : List UInt8) : Except String (List UInt8) :=
  go data 0 0 0 #[]
where
  /-- Reads one byte at a time: the place in the group, the bits left over, the padding seen
  and the bytes so far. -/
  go : List UInt8 → Nat → Nat → Nat → Array UInt8 → Except String (List UInt8)
    | [], quad, _, _, out =>
      if quad == 0 then .ok out.toList
      else if quad == 1 then
        .error ("Invalid base64-encoded string: number of data characters (" ++
          toString (out.size / 3 * 4 + 1) ++ ") cannot be 1 more than a multiple of 4")
      else .error "Incorrect padding"
    | b :: rest, quad, left, pads, out =>
      if b == 61 then
        if quad ≥ 2 then
          if quad + pads + 1 ≥ 4 then .ok out.toList else go rest quad left (pads + 1) out
        else go rest quad left pads out
      else
        match base64Digit? b with
        | none => go rest quad left pads out
        | some v =>
          if quad == 0 then go rest 1 v 0 out
          else if quad == 1 then go rest 2 (v % 16) 0 (out.push (left * 4 + v / 16).toUInt8)
          else if quad == 2 then go rest 3 (v % 4) 0 (out.push ((left * 16 + v / 4) % 256).toUInt8)
          else go rest 0 0 0 (out.push ((left * 64 + v) % 256).toUInt8)

/-- Builds bytes from base64 text. -/
def buildBinary (text : String) (mark : Nat) : BuildM (List UInt8) := do
  if let some msg := Json.asciiErrorText text.toList then
    fail none none ("failed to convert base64 data into ascii: " ++ msg) mark
  match decodeBase64 (text.toList.map fun c => c.toNat.toUInt8) with
  | .ok bytes => pure bytes
  | .error msg => fail none none ("failed to decode base64 data: " ++ msg) mark

/-- The value of ASCII digits. -/
def digitsNat (cs : List Char) : Nat := cs.foldl (fun n d => n * 10 + (d.toNat - 48)) 0

/-- Builds a date or a timestamp from a scalar node. -/
def buildTimestamp (place : Nat) : BuildM Value := do
  let _ ← scalar place
  let n ← node place
  let NodeBody.scalar raw := n.body
    | crash "TypeError" "expected string or bytes-like object, got 'list'"
  let some parts := readStamp raw
    | crash "AttributeError" "'NoneType' object has no attribute 'groupdict'"
  let year := digitsNat parts.year
  let month := digitsNat parts.month
  let day := digitsNat parts.day
  match parts.time with
  | none =>
    match Date.make year month day with
    | .ok d => pure (.date d)
    | .error msg => crash "ValueError" msg
  | some clock =>
    let micro := match clock.fraction with
      | some f => if f.isEmpty then 0 else digitsNat ((f.take 6) ++ List.replicate (6 - f.length) '0')
      | none => 0
    let offset ← match clock.zone with
      | some z =>
        if z.sign == 'Z' then pure (some 0)
        else
          let seconds : Int := digitsNat z.hour * 3600 + digitsNat (z.minute.getD []) * 60
          let seconds := if z.sign == '-' then -seconds else seconds
          match checkOffset seconds with
          | .ok s => pure (some s)
          | .error msg => crash "ValueError" msg
      | none => pure none
    match Timestamp.make year month day (digitsNat clock.hour) (digitsNat clock.minute)
        (digitsNat clock.second) micro offset with
    | .ok t => pure (.timestamp t)
    | .error msg => crash "ValueError" msg

/-- Adds an empty collection to the heap, to be filled later, and gives its value. -/
def createLater (c : Collection) (later : Nat → Pending) : BuildM Value := do
  let b ← get
  let (place, heap) := b.heap.alloc c
  set { b with heap := heap, pending := b.pending.push (later place) }
  pure (.ref place)

/-- The value of a node, built now if it was not built before. -/
def construct (place : Nat) : BuildM Value := do
  if let some (some v) := (← get).built[place]? then return v
  let n ← node place
  let tag := n.tag
  let v ←
    if tag == typeTag "null" then do
      let _ ← scalar place
      pure Value.none
    else if tag == typeTag "bool" then do
      let text := Text.toLower (← scalar place)
      if text == "yes" || text == "true" || text == "on" then pure (.bool true)
      else if text == "no" || text == "false" || text == "off" then pure (.bool false)
      else crash "KeyError" (Json.quoteLiteral text)
    else if tag == typeTag "int" then do pure (.int (← buildInt (← scalar place)))
    else if tag == typeTag "float" then do buildFloat place (← scalar place)
    else if tag == typeTag "binary" then do pure (.bytes (← buildBinary (← scalar place) n.start))
    else if tag == typeTag "timestamp" then buildTimestamp place
    else if tag == typeTag "omap" then createLater (.list #[]) (.pairs place · "while constructing an ordered map")
    else if tag == typeTag "pairs" then createLater (.list #[]) (.pairs place · "while constructing pairs")
    else if tag == typeTag "set" then createLater (.set #[]) (.set place ·)
    else if tag == typeTag "str" then do pure (.str (← scalar place))
    else if tag == typeTag "seq" then createLater (.list #[]) (.sequence place ·)
    else if tag == typeTag "map" then createLater (.dict #[]) (.mapping place ·)
    else fail none none ("could not determine a constructor for the tag " ++ Json.quoteLiteral tag) n.start
  modify fun b => { b with built := b.built.set! place (some v) }
  pure v

/-- The pairs of a mapping node; none for other nodes. -/
def pairsOf (place : Nat) : BuildM (Array (Nat × Nat)) := do
  match (← node place).body with
  | .mapping pairs => pure pairs
  | _ => pure #[]

/-- Replaces the merge keys of a mapping node by the entries of the mappings they name, which
come first, and turns value keys into text keys. A mapping named by a merge key is flattened
first; a list of mappings merges its last mapping first. -/
def flatten : Nat → Nat → BuildM Unit
  | 0, _ => pure ()
  | fuel + 1, place => do
    let mut index := 0
    let mut merged : Array (Nat × Nat) := #[]
    for _ in [0:fuel + 1] do
      let pairs ← pairsOf place
      let some (k, v) := pairs[index]? | break
      let keyNode ← node k
      if keyNode.tag == typeTag "merge" then
        modifyNode place fun n => { n with body := .mapping (pairs.eraseIdxIfInBounds index) }
        let valueNode ← node v
        match valueNode.body with
        | .mapping _ =>
          flatten fuel v
          merged := merged ++ (← pairsOf v)
        | .sequence items =>
          let mut groups : Array (Array (Nat × Nat)) := #[]
          for sub in items do
            let subNode ← node sub
            match subNode.body with
            | .mapping _ =>
              flatten fuel sub
              groups := groups.push (← pairsOf sub)
            | _ =>
              fail (some "while constructing a mapping") (some (← node place).start)
                ("expected a mapping for merging, but found " ++ subNode.body.id) subNode.start
          merged := merged ++ groups.reverse.flatten
        | .scalar _ =>
          fail (some "while constructing a mapping") (some (← node place).start)
            ("expected a mapping or list of mappings for merging, but found " ++ valueNode.body.id)
            valueNode.start
      else
        if keyNode.tag == typeTag "value" then modifyNode k fun n => { n with tag := typeTag "str" }
        index := index + 1
    if !merged.isEmpty then
      let pairs ← pairsOf place
      modifyNode place fun n => { n with body := .mapping (merged ++ pairs) }

/-- Whether a value can be a mapping's key: collections cannot. -/
def hashable : Value → Bool
  | .ref _ => false
  | .pair a b => hashable a && hashable b
  | _ => true

/-- The entries of a mapping node, merge keys flattened first. -/
def mappingEntries (place : Nat) : BuildM (Array (Value × Value)) := do
  let n ← node place
  if let .mapping _ := n.body then
    let b ← get
    flatten (b.nodes.size + b.nodes.foldl (fun acc m => acc + match m.body with
      | .mapping ps => ps.size
      | .sequence is => is.size
      | .scalar _ => 0) 0 + 2) place
  let n ← node place
  let .mapping pairs := n.body
    | fail none none ("expected a mapping node, but found " ++ n.body.id) n.start
  let mut entries : Array (Value × Value) := #[]
  for (k, v) in pairs do
    let key ← construct k
    if !hashable key then
      fail (some "while constructing a mapping") (some n.start) "found unhashable key" (← node k).start
    let value ← construct v
    entries := setEntry entries key value
  pure entries

/-- Fills a collection created earlier. -/
def fill : Pending → BuildM Unit
  | .sequence place slot => do
    let n ← node place
    let .sequence items := n.body
      | fail none none ("expected a sequence node, but found " ++ n.body.id) n.start
    let values ← items.mapM construct
    modify fun b => { b with heap := b.heap.put slot (.list values) }
  | .mapping place slot => do
    let entries ← mappingEntries place
    modify fun b => { b with heap := b.heap.put slot (.dict entries) }
  | .set place slot => do
    let entries ← mappingEntries place
    modify fun b => { b with heap := b.heap.put slot (.set (setOrder (entries.map (·.1)))) }
  | .pairs place slot what => do
    let n ← node place
    let .sequence items := n.body
      | fail (some what) (some n.start) ("expected a sequence, but found " ++ n.body.id) n.start
    let mut values : Array Value := #[]
    for sub in items do
      let subNode ← node sub
      let .mapping pairs := subNode.body
        | fail (some what) (some n.start) ("expected a mapping of length 1, but found " ++ subNode.body.id)
            subNode.start
      if pairs.size != 1 then
        fail (some what) (some n.start)
          ("expected a single mapping item, but found " ++ toString pairs.size ++ " items") subNode.start
      let some (k, v) := pairs[0]? | pure ()
      let key ← construct k
      let value ← construct v
      values := values.push (.pair key value)
    modify fun b => { b with heap := b.heap.put slot (.list values) }

/-- Fills the collections created so far, round by round, until none is left. -/
def fillAll : Nat → BuildM Unit
  | 0 => pure ()
  | fuel + 1 => do
    let round := (← get).pending
    if round.isEmpty then return
    modify fun b => { b with pending := #[] }
    for p in round do fill p
    fillAll fuel

end BuildM

/-- Builds the value of a document's root node from its nodes. -/
def buildDocument (nodes : Array Node) (root : Nat) : Except Failure Data.Document := do
  let start : Builder := { nodes := nodes, built := Array.replicate nodes.size none }
  let (v, b) ← (BuildM.construct root).run start
  let ((), b) ← (BuildM.fillAll (nodes.size + 2)).run b
  pure ⟨b.heap, v⟩

end SecScan.Yaml
