import SecScan.Yaml.Parser
import SecScan.Yaml.Resolve

/-!
The composer: it builds the graph of a document's nodes from the parser's events.

Nodes are kept in an array and refer to their items by place, so an alias is simply the place
of the node its anchor names, and a collection can hold itself. An anchor names its node from
the node's start, before its items are read. A node without a tag, or with the non-specific
`!`, gets its tag from the resolver: a scalar from its form when it was plain or tagged `!`,
text otherwise, and a collection its default tag. Safe loading wants exactly one document.

Composing recurses for each level of nesting, so how deep a document may nest depends on the
recursion left to the loader: its room, in levels of nesting. Opening a collection and reading
what it starts with takes some levels more than the collection itself: none for an empty flow
sequence, one for a flow sequence with items, two for a flow mapping and three for a block
collection. A collection with no room for that stops loading with a recursion error, which for a
mapping comes from a call and for a sequence from the composer itself.
-/

namespace SecScan.Yaml

/-- What a node holds: text, the places of its items, or the places of its keys and values. -/
inductive NodeBody where
  | scalar (text : String)
  | sequence (items : Array Nat)
  | mapping (pairs : Array (Nat × Nat))
  deriving Repr, BEq, Inhabited

/-- The name of a kind of node in messages. -/
def NodeBody.id : NodeBody → String
  | .scalar _ => "scalar"
  | .sequence _ => "sequence"
  | .mapping _ => "mapping"

/-- A node: its tag, what it holds and where it starts. -/
structure Node where
  tag : String
  body : NodeBody
  start : Nat
  deriving Repr, Inhabited

/-- The state of the composer. -/
structure Composer where
  parser : Parser := {}
  nodes : Array Node := #[]
  anchors : List (String × Nat) := []
  deriving Inhabited

/-- Composing: reading a source with the composer's state, failing with a problem. -/
abbrev ComposeM := ReaderT Source (StateT Composer (Except Failure))

namespace ComposeM

/-- Runs a step of the parser. -/
def parse {α : Type} (m : ParseM α) : ComposeM α := fun src c => do
  let (a, p) ← m src c.parser
  pure (a, { c with parser := p })

/-- Fails with a problem. -/
def fail {α : Type} (context : Option String) (contextMark : Option Nat) (problem : String)
    (mark : Nat) : ComposeM α :=
  throw (.problem { context := context, contextMark := contextMark, problem := problem, mark := mark })

/-- The next event, without giving it out. -/
def peekEvent : ComposeM (Option Event) := parse ParseM.peekEvent

/-- Gives out the next event. -/
def nextEvent : ComposeM (Option Event) := parse ParseM.nextEvent

/-- Whether the next event ends a sequence, a mapping or the stream. -/
def atEnd (which : EventKind → Bool) : ComposeM Bool := do
  match ← peekEvent with
  | some e => pure (which e.kind)
  | none => pure true

/-- Adds a node and gives its place. -/
def addNode (n : Node) : ComposeM Nat := do
  let c ← get
  set { c with nodes := c.nodes.push n }
  pure c.nodes.size

/-- Names a node by an anchor. -/
def register (anchor : Option String) (place : Nat) : ComposeM Unit :=
  match anchor with
  | some a => modify fun c => { c with anchors := (a, place) :: c.anchors }
  | none => pure ()

/-- The anchor of a node event. -/
def anchorOf : EventKind → Option String
  | .scalar a _ _ _ _ => a
  | .sequenceStart a _ _ _ => a
  | .mappingStart a _ _ _ => a
  | _ => none

/-- The tag of a collection: its own, unless it has none or the non-specific one. -/
def collectionTag (tag : Option String) (default : String) : String :=
  match tag with
  | some t => if t == "!" then typeTag default else t
  | none => typeTag default

/-- The levels of nesting opening a collection takes beyond its own: see the module's note. -/
def openingCost (mapping flow empty : Bool) : Nat :=
  if !flow then 3 else if mapping then 2 else if empty then 0 else 1

/-- The recursion error of a collection with no room to open. -/
def tooDeep {α : Type} (mapping : Bool) : ComposeM α :=
  throw (.crash "RecursionError"
    ("maximum recursion depth exceeded" ++ if mapping then " while calling a Python object" else ""))

/-- Stops with a recursion error unless a collection has room to open. -/
def checkRoom (room : Nat) (mapping flow : Bool) : ComposeM Unit := do
  let empty ← atEnd fun k => k == .sequenceEnd || k == .mappingEnd
  if room ≤ openingCost mapping flow empty then tooDeep mapping

mutual

/-- Reads a node with `room` levels of nesting left, and gives its place. -/
def composeNode : Nat → Nat → ComposeM Nat
  | 0, _ => throw (.crash "RecursionError" "maximum recursion depth exceeded")
  | fuel + 1, room => do
    let some e ← peekEvent | throw (.crash "IndexError" "pop from empty list")
    if let .alias name := e.kind then
      let _ ← nextEvent
      match (← get).anchors.lookup name with
      | some place => return place
      | none => fail none none ("found undefined alias " ++ Json.quoteLiteral name) e.start
    if let some a := anchorOf e.kind then
      if let some first := (← get).anchors.lookup a then
        let firstStart := ((← get).nodes[first]?.map (·.start)).getD 0
        fail (some ("found duplicate anchor " ++ Json.quoteLiteral a ++ "; first occurrence"))
          (some firstStart) "second occurrence" e.start
    match e.kind with
    | .scalar anchor tag implicit text _ =>
      let _ ← nextEvent
      let tag := match tag with
        | some t => if t == "!" then (if implicit.1 then resolveScalar text else typeTag "str") else t
        | none => if implicit.1 then resolveScalar text else typeTag "str"
      let place ← addNode ⟨tag, .scalar text, e.start⟩
      register anchor place
      return place
    | .sequenceStart anchor tag _ flow =>
      let _ ← nextEvent
      checkRoom room false flow
      let place ← addNode ⟨collectionTag tag "seq", .sequence #[], e.start⟩
      register anchor place
      let items ← composeItems fuel (room - 1) #[]
      let _ ← nextEvent
      modify fun c => { c with nodes := c.nodes.modify place fun n => { n with body := .sequence items } }
      return place
    | .mappingStart anchor tag _ flow =>
      let _ ← nextEvent
      checkRoom room true flow
      let place ← addNode ⟨collectionTag tag "map", .mapping #[], e.start⟩
      register anchor place
      let pairs ← composePairs fuel (room - 1) #[]
      let _ ← nextEvent
      modify fun c => { c with nodes := c.nodes.modify place fun n => { n with body := .mapping pairs } }
      return place
    | _ => throw (.crash "AttributeError" "'NoneType' object has no attribute 'anchor'")

/-- Reads the items of a sequence up to its end, each with `room`. -/
def composeItems : Nat → Nat → Array Nat → ComposeM (Array Nat)
  | 0, _, items => pure items
  | fuel + 1, room, items => do
    if ← atEnd fun k => k == .sequenceEnd then return items
    let item ← composeNode fuel room
    composeItems fuel room (items.push item)

/-- Reads the keys and values of a mapping up to its end, each with `room`. -/
def composePairs : Nat → Nat → Array (Nat × Nat) → ComposeM (Array (Nat × Nat))
  | 0, _, pairs => pure pairs
  | fuel + 1, room, pairs => do
    if ← atEnd fun k => k == .mappingEnd then return pairs
    let key ← composeNode fuel room
    let value ← composeNode fuel room
    composePairs fuel room (pairs.push (key, value))

end

/-- Reads the one document of a stream, nested at most as deep as `room` allows, and gives the
place of its root, or nothing for an empty stream; a second document is a problem. -/
def composeSingle (room : Nat) : ComposeM (Option Nat) := do
  let _ ← nextEvent
  let fuel := 4 * (← read).chars.size + 16
  let root ←
    if ← atEnd fun k => k == .streamEnd then pure none
    else do
      let _ ← nextEvent
      let root ← composeNode fuel room
      let _ ← nextEvent
      modify fun c => { c with anchors := [] }
      pure (some root)
  if !(← atEnd fun k => k == .streamEnd) then
    let e ← nextEvent
    let nodes := (← get).nodes
    let rootStart := match root with
      | some r => (nodes[r]?.map (·.start)).getD 0
      | none => 0
    fail (some "expected a single document in the stream") (some rootStart) "but found another document"
      ((e.map (·.start)).getD 0)
  let _ ← nextEvent
  pure root

end ComposeM

end SecScan.Yaml
