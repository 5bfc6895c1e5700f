import SecScan.Regex.Basic

/-!
Backtracking matching by lists of successes. `ends` lists every way a pattern can match from a
position, in the order a backtracking matcher would try them: left alternative first, greedy
loops with more repetitions first, lazy loops with fewer. The first entry is the match that
leftmost-first search reports. A loop only repeats a body that consumes text, which bounds the
recursion by the size of the pattern and the text left.
-/

namespace SecScan.Regex

open SecScan.Text

/-- Spans of the groups matched so far, by group number. -/
abbrev Spans := Nat → Option (Nat × Nat)

/-- No group has matched. -/
def Spans.none : Spans := fun _ => Option.none

/-- Records the span of group `index`. -/
def Spans.set (spans : Spans) (index start stop : Nat) : Spans :=
  fun k => if k = index then some (start, stop) else spans k

/-- A line being matched, and whether letters match regardless of case. -/
structure Subject where
  chars : Array Char
  ignoreCase : Bool := false

namespace Subject

/-- The subject of a pattern on a text. -/
def ofText (p : Pattern) (s : String) : Subject := ⟨s.toList.toArray, p.ignoreCase⟩

/-- Whether the character at a position is a word character; outside the text it is not. -/
def wordAt (t : Subject) (i : Nat) : Bool :=
  match t.chars[i]? with
  | some c => isWordChar c
  | none => false

/-- Whether a text character matches a pattern character. -/
def charMatches (t : Subject) (c x : Char) : Bool :=
  if t.ignoreCase then sameLetter c x else x == c

/-- Whether `count` characters from `from` reappear from position `at`. -/
def repeats (t : Subject) (source target count : Nat) : Bool :=
  (List.range count).all fun k =>
    match t.chars[source + k]?, t.chars[target + k]? with
    | some a, some b => if t.ignoreCase then lowerChar a == lowerChar b else a == b
    | _, _ => false

/-- Whether a position lies between a word character and a non-word character. -/
def atWordEdge (t : Subject) (i : Nat) : Bool :=
  (i > 0 && t.wordAt (i - 1)) != t.wordAt i

/-- The text between two positions. -/
def slice (t : Subject) (start stop : Nat) : String :=
  String.ofList (t.chars.extract start stop).toList

end Subject

/-- Every way a pattern matches from position `i`, as end position and group spans, in the
order of priority. -/
def ends (t : Subject) : Regex → Nat → Spans → List (Nat × Spans)
  | .empty, i, spans => [(i, spans)]
  | .char c, i, spans =>
    match t.chars[i]? with
    | some x => if t.charMatches c x then [(i + 1, spans)] else []
    | none => []
  | .dot, i, spans =>
    match t.chars[i]? with
    | some x => if x != '\n' then [(i + 1, spans)] else []
    | none => []
  | .set negated items, i, spans =>
    match t.chars[i]? with
    | some x => if classHolds t.ignoreCase negated items x then [(i + 1, spans)] else []
    | none => []
  | .cat a b, i, spans =>
    (ends t a i spans).flatMap fun step => ends t b step.1 step.2
  | .alt a b, i, spans => ends t a i spans ++ ends t b i spans
  | .star greedy body, i, spans =>
    let steps := (ends t body i spans).filter fun step => i < step.1 && step.1 ≤ t.chars.size
    let longer := steps.attach.flatMap fun ⟨step, _⟩ => ends t (.star greedy body) step.1 step.2
    if greedy then longer ++ [(i, spans)] else (i, spans) :: longer
  | .group index body, i, spans =>
    (ends t body i spans).map fun step => (step.1, step.2.set index i step.1)
  | .backref index, i, spans =>
    match spans index with
    | some (start, stop) =>
      if t.repeats start i (stop - start) then [(i + (stop - start), spans)] else []
    | none => []
  | .ahead negated body, i, spans =>
    match ends t body i spans with
    | [] => if negated then [(i, spans)] else []
    | (_, inner) :: _ => if negated then [] else [(i, inner)]
  | .behind negated body, i, spans =>
    if i < body.width then
      if negated then [(i, spans)] else []
    else
      match ends t body (i - body.width) spans with
      | [] => if negated then [(i, spans)] else []
      | (_, inner) :: _ => if negated then [] else [(i, inner)]
  | .wordEdge, i, spans => if t.atWordEdge i then [(i, spans)] else []
  | .textStart, i, spans => if i = 0 then [(i, spans)] else []
termination_by r i => (sizeOf r, t.chars.size + 1 - i)
decreasing_by
  all_goals first
    | (apply Prod.Lex.left; simp <;> omega)
    | (apply Prod.Lex.right
       have hm := (List.mem_filter.mp ‹_ ∈ List.filter _ _›).2
       simp at hm
       omega)

/-- The test a pattern of exactly one character puts to that character: a character, any
character but a line feed, or a class; `none` for other patterns. -/
def Subject.charTest (t : Subject) : Regex → Option (Char → Bool)
  | .char c => some (t.charMatches c)
  | .dot => some (· != '\n')
  | .set negated items => some (classHolds t.ignoreCase negated items)
  | _ => none

/-- Where the run of characters passing `test` from position `i` ends. -/
def Subject.runEnd (t : Subject) (test : Char → Bool) : Nat → Nat → Nat
  | 0, i => i
  | fuel + 1, i =>
    match t.chars[i]? with
    | some x => if test x then t.runEnd test fuel (i + 1) else i
    | none => i

/-- The first of the positions `i`, `i + 1`, ..., `i + count - 1` that `k` accepts. -/
def firstUp {α : Type} (k : Nat → Option α) (i : Nat) : Nat → Option α
  | 0 => none
  | count + 1 =>
    match k i with
    | some r => some r
    | none => firstUp k (i + 1) count

/-- The first of the positions `i`, `i - 1`, ..., `i - count + 1` that `k` accepts. -/
def firstDown {α : Type} (k : Nat → Option α) (i : Nat) : Nat → Option α
  | 0 => none
  | count + 1 =>
    match k i with
    | some r => some r
    | none => firstDown k (i - 1) count

/-- The first way, in the order of `ends`, in which a pattern matches from position `i` and the
continuation `k` accepts the end position and group spans reached. A repetition of a single
character runs through its possible ends in a loop. -/
def firstEnd (t : Subject) : Regex → Nat → Spans → (Nat → Spans → Option (Nat × Spans)) →
    Option (Nat × Spans)
  | .empty, i, spans, k => k i spans
  | .char c, i, spans, k =>
    match t.chars[i]? with
    | some x => if t.charMatches c x then k (i + 1) spans else none
    | none => none
  | .dot, i, spans, k =>
    match t.chars[i]? with
    | some x => if x != '\n' then k (i + 1) spans else none
    | none => none
  | .set negated items, i, spans, k =>
    match t.chars[i]? with
    | some x => if classHolds t.ignoreCase negated items x then k (i + 1) spans else none
    | none => none
  | .cat a b, i, spans, k => firstEnd t a i spans fun j sp => firstEnd t b j sp k
  | .alt a b, i, spans, k =>
    match firstEnd t a i spans k with
    | some r => some r
    | none => firstEnd t b i spans k
  | .star greedy body, i, spans, k =>
    match t.charTest body with
    | some test =>
      let stop := t.runEnd test (t.chars.size + 1) i
      if greedy then firstDown (fun j => k j spans) stop (stop - i + 1)
      else firstUp (fun j => k j spans) i (stop - i + 1)
    | none =>
      let more (_ : Unit) : Option (Nat × Spans) :=
        firstEnd t body i spans fun j sp =>
          if i < j ∧ j ≤ t.chars.size then firstEnd t (.star greedy body) j sp k else none
      if greedy then
        match more () with
        | some r => some r
        | none => k i spans
      else
        match k i spans with
        | some r => some r
        | none => more ()
  | .group index body, i, spans, k =>
    firstEnd t body i spans fun j sp => k j (sp.set index i j)
  | .backref index, i, spans, k =>
    match spans index with
    | some (start, stop) =>
      if t.repeats start i (stop - start) then k (i + (stop - start)) spans else none
    | none => none
  | .ahead negated body, i, spans, k =>
    match firstEnd t body i spans fun j sp => some (j, sp) with
    | none => if negated then k i spans else none
    | some (_, inner) => if negated then none else k i inner
  | .behind negated body, i, spans, k =>
    if i < body.width then
      if negated then k i spans else none
    else
      match firstEnd t body (i - body.width) spans fun j sp => some (j, sp) with
      | none => if negated then k i spans else none
      | some (_, inner) => if negated then none else k i inner
  | .wordEdge, i, spans, k => if t.atWordEdge i then k i spans else none
  | .textStart, i, spans, k => if i = 0 then k i spans else none
termination_by r i => (sizeOf r, t.chars.size + 1 - i)
decreasing_by
  all_goals first
    | (apply Prod.Lex.left
       simp only [Regex.cat.sizeOf_spec, Regex.alt.sizeOf_spec, Regex.star.sizeOf_spec,
         Regex.group.sizeOf_spec, Regex.ahead.sizeOf_spec, Regex.behind.sizeOf_spec]
       omega)
    | (apply Prod.Lex.right; omega)

/-- A match: where it starts and stops, and the spans of its groups. -/
structure Match where
  start : Nat
  stop : Nat
  spans : Spans

namespace Match

/-- The span of a group; group zero is the whole match. -/
def span? (m : Match) (index : Nat) : Option (Nat × Nat) :=
  if index = 0 then some (m.start, m.stop) else m.spans index

end Match

/-- The first match starting exactly at `i`; with `nonEmpty` it must consume text. -/
def matchAt (t : Subject) (r : Regex) (i : Nat) (nonEmpty : Bool := false) : Option Match :=
  (firstEnd t r i Spans.none fun j sp => if !nonEmpty || j != i then some (j, sp) else none).map
    fun step => ⟨i, step.1, step.2⟩

/-- The first match starting at one of the `count` positions from `i` on. -/
def searchWithin (t : Subject) (r : Regex) : Nat → Nat → Option Match
  | 0, _ => none
  | count + 1, i =>
    match matchAt t r i with
    | some m => some m
    | none => searchWithin t r count (i + 1)

/-- The leftmost match starting at `from` or later. -/
def searchFrom (t : Subject) (r : Regex) (start : Nat) : Option Match :=
  searchWithin t r (t.chars.size + 1 - start) start

namespace Pattern

/-- The leftmost match in a text. -/
def search (p : Pattern) (s : String) : Option Match :=
  searchFrom (Subject.ofText p s) p.regex 0

/-- Whether the pattern occurs in a text. -/
def occursIn (p : Pattern) (s : String) : Bool := (p.search s).isSome

/-- The match at the very start of a text. -/
def matchStart (p : Pattern) (s : String) : Option Match :=
  matchAt (Subject.ofText p s) p.regex 0

end Pattern

end SecScan.Regex
