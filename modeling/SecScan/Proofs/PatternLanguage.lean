import Mathlib
import SecScan.Regex.Match

/-!
The language of a pattern, with its look-arounds, word edges and back-references read as
always passing. Every match the backtracking engine reports covers a piece of text in that
language (`firstEnd_sound`), so a text none of whose pieces is in a pattern's language has no
match (`lang_of_occursIn`): the tests that consume no text can only remove matches.

What a back-reference repeats can be kept in view: when every group of a pattern covers only
texts that some property allows for its number, and a repeat of such a text is one too, each
back-reference of a match repeats such a text (`GroupLang`, `firstEnd_groupLang`). Asking
nothing of the groups gives back the plain language.
-/

namespace SecScan.Proofs.PatternLanguage

open SecScan.Regex

/-- The texts a pattern can cover in a subject, every test that consumes no text and every
back-reference taken as passing. Only the subject's case mode matters. -/
inductive Lang (t : Subject) : Regex → List Char → Prop
  | empty : Lang t .empty []
  | char {c x : Char} (agrees : t.charMatches c x = true) : Lang t (.char c) [x]
  | dot {x : Char} (notFeed : (x != '\n') = true) : Lang t .dot [x]
  | set {negated : Bool} {items : List ClassItem} {x : Char}
      (holds : classHolds t.ignoreCase negated items x = true) : Lang t (.set negated items) [x]
  | cat {a b : Regex} {u v : List Char} (first : Lang t a u) (second : Lang t b v) :
      Lang t (.cat a b) (u ++ v)
  | left {a b : Regex} {u : List Char} (taken : Lang t a u) : Lang t (.alt a b) u
  | right {a b : Regex} {u : List Char} (taken : Lang t b u) : Lang t (.alt a b) u
  | stop {greedy : Bool} {body : Regex} : Lang t (.star greedy body) []
  | more {greedy : Bool} {body : Regex} {u v : List Char} (once : Lang t body u)
      (rest : Lang t (.star greedy body) v) : Lang t (.star greedy body) (u ++ v)
  | group {index : Nat} {body : Regex} {u : List Char} (inner : Lang t body u) :
      Lang t (.group index body) u
  | backref {index : Nat} {u : List Char} : Lang t (.backref index) u
  | ahead {negated : Bool} {body : Regex} : Lang t (.ahead negated body) []
  | behind {negated : Bool} {body : Regex} : Lang t (.behind negated body) []
  | wordEdge : Lang t .wordEdge []
  | textStart : Lang t .textStart []

/-- The characters of a subject from position `i` up to `j`. -/
def segment (t : Subject) (i j : Nat) : List Char := (t.chars.toList.drop i).take (j - i)

section Segment

variable {t : Subject}

@[simp] theorem segment_self (i : Nat) : segment t i i = [] := by
  simp [segment]

theorem segment_append {i j l : Nat} (first : i ≤ j) (second : j ≤ l) :
    segment t i j ++ segment t j l = segment t i l := by
  unfold segment
  have split : l - i = (j - i) + (l - j) := by omega
  rw [split, List.take_add, List.drop_drop, Nat.add_sub_cancel' first]

theorem segment_single {i : Nat} {x : Char} (found : t.chars[i]? = some x) :
    segment t i (i + 1) = [x] := by
  have inside : i < t.chars.toList.length := by
    have := (Array.getElem?_eq_some_iff.mp found).1
    simpa using this
  unfold segment
  rw [Nat.add_sub_cancel_left, List.drop_eq_getElem_cons inside, List.take_succ_cons,
    List.take_zero]
  have same : t.chars.toList[i] = x := by
    rw [Array.getElem_toList]
    exact (Array.getElem?_eq_some_iff.mp found).2
  rw [same]

/-- The text up to one more character is the text before it, then that character. -/
theorem segment_concat {i j : Nat} {x : Char} (le : i ≤ j) (found : t.chars[j]? = some x) :
    segment t i (j + 1) = segment t i j ++ [x] := by
  rw [← segment_append le (Nat.le_succ j), segment_single found]

theorem mem_segment {i j : Nat} {x : Char} (member : x ∈ segment t i j) :
    ∃ p, i ≤ p ∧ p < j ∧ t.chars[p]? = some x := by
  unfold segment at member
  obtain ⟨q, inside, isX⟩ := List.getElem_of_mem member
  simp only [List.length_take, List.length_drop] at inside
  have bound : i + q < t.chars.size := by
    simp only [Array.length_toList] at inside
    omega
  refine ⟨i + q, Nat.le_add_right i q, by omega, ?_⟩
  rw [← isX, List.getElem_take, List.getElem_drop, Array.getElem_toList]
  exact Array.getElem?_eq_getElem bound

theorem isInfix_segment (i j : Nat) : List.IsInfix (segment t i j) t.chars.toList :=
  ((List.take_prefix _ _).isInfix).trans (List.drop_suffix _ _).isInfix

end Segment

section Runs

variable {t : Subject}

/-- A run of characters that pass a test ends no earlier than it starts, and every character
before its end passes. -/
theorem runEnd_spec (test : Char → Bool) (fuel : Nat) :
    ∀ i, i ≤ t.runEnd test fuel i ∧
      ∀ p, i ≤ p → p < t.runEnd test fuel i → ∃ x, t.chars[p]? = some x ∧ test x = true := by
  induction fuel with
  | zero =>
    intro i
    refine ⟨Nat.le_refl i, fun p low high => ?_⟩
    simp only [Subject.runEnd] at high
    omega
  | succ fuel ih =>
    intro i
    simp only [Subject.runEnd]
    split
    · rename_i x found
      split
      · rename_i passes
        obtain ⟨further, run⟩ := ih (i + 1)
        refine ⟨by omega, fun p low high => ?_⟩
        by_cases first : p = i
        · exact ⟨x, first ▸ found, passes⟩
        · exact run p (by omega) high
      · exact ⟨Nat.le_refl i, fun p low high => absurd high (by omega)⟩
    · exact ⟨Nat.le_refl i, fun p low high => absurd high (by omega)⟩

theorem firstDown_sound {α : Type} {k : Nat → Option α} {result : α} :
    ∀ (count i : Nat), firstDown k i count = some result →
      ∃ j, j ≤ i ∧ i < j + count ∧ k j = some result := by
  intro count
  induction count with
  | zero => intro i found; simp [firstDown] at found
  | succ count ih =>
    intro i found
    simp only [firstDown] at found
    split at found
    · rename_i r accepted
      cases found
      exact ⟨i, Nat.le_refl i, by omega, accepted⟩
    · obtain ⟨j, below, within, accepted⟩ := ih (i - 1) found
      exact ⟨j, by omega, by omega, accepted⟩

theorem firstUp_sound {α : Type} {k : Nat → Option α} {result : α} :
    ∀ (count i : Nat), firstUp k i count = some result →
      ∃ j, i ≤ j ∧ j < i + count ∧ k j = some result := by
  intro count
  induction count with
  | zero => intro i found; simp [firstUp] at found
  | succ count ih =>
    intro i found
    simp only [firstUp] at found
    split at found
    · rename_i r accepted
      cases found
      exact ⟨i, Nat.le_refl i, by omega, accepted⟩
    · obtain ⟨j, above, within, accepted⟩ := ih (i + 1) found
      exact ⟨j, by omega, by omega, accepted⟩

end Runs

section Sound

variable {t : Subject} {held : Nat → List Char → Prop}

/-- The texts a pattern can cover when what its back-references repeat is known: as `Lang`
reads them, except that a back-reference covers only texts that `held` allows for its group. -/
inductive GroupLang (t : Subject) (held : Nat → List Char → Prop) : Regex → List Char → Prop
  | empty : GroupLang t held .empty []
  | char {c x : Char} (agrees : t.charMatches c x = true) : GroupLang t held (.char c) [x]
  | dot {x : Char} (notFeed : (x != '\n') = true) : GroupLang t held .dot [x]
  | set {negated : Bool} {items : List ClassItem} {x : Char}
      (holds : classHolds t.ignoreCase negated items x = true) :
      GroupLang t held (.set negated items) [x]
  | cat {a b : Regex} {u v : List Char} (first : GroupLang t held a u)
      (second : GroupLang t held b v) : GroupLang t held (.cat a b) (u ++ v)
  | left {a b : Regex} {u : List Char} (taken : GroupLang t held a u) :
      GroupLang t held (.alt a b) u
  | right {a b : Regex} {u : List Char} (taken : GroupLang t held b u) :
      GroupLang t held (.alt a b) u
  | stop {greedy : Bool} {body : Regex} : GroupLang t held (.star greedy body) []
  | more {greedy : Bool} {body : Regex} {u v : List Char} (once : GroupLang t held body u)
      (rest : GroupLang t held (.star greedy body) v) :
      GroupLang t held (.star greedy body) (u ++ v)
  | group {index : Nat} {body : Regex} {u : List Char} (inner : GroupLang t held body u) :
      GroupLang t held (.group index body) u
  | backref {index : Nat} {u : List Char} (repeated : held index u) :
      GroupLang t held (.backref index) u
  | ahead {negated : Bool} {body : Regex} : GroupLang t held (.ahead negated body) []
  | behind {negated : Bool} {body : Regex} : GroupLang t held (.behind negated body) []
  | wordEdge : GroupLang t held .wordEdge []
  | textStart : GroupLang t held .textStart []

/-- Every group that has matched covers a text that `held` allows for its number. -/
def SpansHeld (t : Subject) (held : Nat → List Char → Prop) (spans : Spans) : Prop :=
  ∀ index start stop, spans index = some (start, stop) → held index (segment t start stop)

/-- Whether every text each group of a pattern can cover, lookarounds included, is one that
`held` allows for its number. -/
def GroupsHeld (t : Subject) (held : Nat → List Char → Prop) : Regex → Prop
  | .cat a b => GroupsHeld t held a ∧ GroupsHeld t held b
  | .alt a b => GroupsHeld t held a ∧ GroupsHeld t held b
  | .star _ body => GroupsHeld t held body
  | .group index body => (∀ w, GroupLang t held body w → held index w) ∧ GroupsHeld t held body
  | .ahead _ body => GroupsHeld t held body
  | .behind _ body => GroupsHeld t held body
  | _ => True

/-- Forgetting what back-references repeat leaves the pattern's language. -/
theorem GroupLang.toLang {r : Regex} {w : List Char} (member : GroupLang t held r w) :
    Lang t r w := by
  induction member with
  | empty => exact .empty
  | char agrees => exact .char agrees
  | dot notFeed => exact .dot notFeed
  | set holds => exact .set holds
  | cat _ _ first second => exact .cat first second
  | left _ taken => exact .left taken
  | right _ taken => exact .right taken
  | stop => exact .stop
  | more _ _ once rest => exact .more once rest
  | group _ inner => exact .group inner
  | backref => exact .backref
  | ahead => exact .ahead
  | behind => exact .behind
  | wordEdge => exact .wordEdge
  | textStart => exact .textStart

/-- Asking nothing of group texts, every pattern's groups comply. -/
theorem groupsHeld_true (r : Regex) : GroupsHeld t (fun _ _ => True) r := by
  induction r with
  | cat _ _ iha ihb => exact ⟨iha, ihb⟩
  | alt _ _ iha ihb => exact ⟨iha, ihb⟩
  | star _ _ ih => exact ih
  | group _ _ ih => exact ⟨fun _ _ => trivial, ih⟩
  | ahead _ _ ih => exact ih
  | behind _ _ ih => exact ih
  | _ => trivial

theorem spansHeld_set {spans : Spans} (kept : SpansHeld t held spans) {index i j : Nat}
    (covers : held index (segment t i j)) : SpansHeld t held (spans.set index i j) := by
  intro index' start stop recorded
  unfold Spans.set at recorded
  split at recorded
  · rename_i same
    cases recorded
    exact same ▸ covers
  · exact kept index' start stop recorded

/-- A pattern of one character covers every character its test passes. -/
theorem groupLang_of_charTest {body : Regex} {test : Char → Bool}
    (tested : t.charTest body = some test) {x : Char} (passes : test x = true) :
    GroupLang t held body [x] := by
  cases body with
  | char c =>
    simp only [Subject.charTest, Option.some.injEq] at tested
    subst tested
    exact .char passes
  | dot =>
    simp only [Subject.charTest, Option.some.injEq] at tested
    subst tested
    exact .dot passes
  | set negated items =>
    simp only [Subject.charTest, Option.some.injEq] at tested
    subst tested
    exact .set passes
  | _ => simp [Subject.charTest] at tested

theorem groupLang_star_of_chars {greedy : Bool} {body : Regex} :
    ∀ {u : List Char}, (∀ x ∈ u, GroupLang t held body [x]) →
      GroupLang t held (.star greedy body) u
  | [], _ => .stop
  | x :: _, each =>
    .more (u := [x]) (each x List.mem_cons_self)
      (groupLang_star_of_chars fun y member => each y (List.mem_cons_of_mem x member))

/-- A match that consumed the character at `i` and nothing else. -/
theorem consumed {r : Regex} {i : Nat} {spans : Spans} {k : Nat → Spans → Option (Nat × Spans)}
    {result : Nat × Spans} {x : Char} (kept : SpansHeld t held spans)
    (found : t.chars[i]? = some x) (member : GroupLang t held r [x])
    (accepted : k (i + 1) spans = some result) :
    ∃ j sp, i ≤ j ∧ SpansHeld t held sp ∧ GroupLang t held r (segment t i j) ∧
      k j sp = some result :=
  ⟨i + 1, spans, Nat.le_succ i, kept, (segment_single found).symm ▸ member, accepted⟩

/-- A match that consumed nothing. -/
theorem stayed {r : Regex} {i : Nat} {spans : Spans} {k : Nat → Spans → Option (Nat × Spans)}
    {result : Nat × Spans} (kept : SpansHeld t held spans) (member : GroupLang t held r [])
    (accepted : k i spans = some result) :
    ∃ j sp, i ≤ j ∧ SpansHeld t held sp ∧ GroupLang t held r (segment t i j) ∧
      k j sp = some result :=
  ⟨i, spans, Nat.le_refl i, kept, (segment_self i).symm ▸ member, accepted⟩

/-- Every way the engine matches a pattern from `i` and hands on to its continuation covers
text of the pattern's language in which each back-reference repeats a text that its group's
number allows, provided the pattern's groups cover only such texts and a repeat of such a
text, character for character up to case, is one too. -/
theorem firstEnd_groupLang
    (stable : ∀ index start stop i, held index (segment t start stop) →
      t.repeats start i (stop - start) = true → held index (segment t i (i + (stop - start))))
    (r : Regex) : GroupsHeld t held r →
    ∀ (i : Nat) (spans : Spans) (k : Nat → Spans → Option (Nat × Spans)) (result : Nat × Spans),
      SpansHeld t held spans → firstEnd t r i spans k = some result →
      ∃ j sp, i ≤ j ∧ SpansHeld t held sp ∧ GroupLang t held r (segment t i j) ∧
        k j sp = some result := by
  induction r with
  | empty =>
    intro _ i spans k result kept found
    rw [firstEnd.eq_1] at found
    exact stayed kept .empty found
  | char c =>
    intro _ i spans k result kept found
    rw [firstEnd.eq_2] at found
    split at found
    · rename_i x atI
      split at found
      · exact consumed kept atI (.char ‹_›) found
      · cases found
    · cases found
  | dot =>
    intro _ i spans k result kept found
    rw [firstEnd.eq_3] at found
    split at found
    · rename_i x atI
      split at found
      · exact consumed kept atI (.dot ‹_›) found
      · cases found
    · cases found
  | set negated items =>
    intro _ i spans k result kept found
    rw [firstEnd.eq_4] at found
    split at found
    · rename_i x atI
      split at found
      · exact consumed kept atI (.set ‹_›) found
      · cases found
    · cases found
  | cat a b iha ihb =>
    intro groups i spans k result kept found
    rw [firstEnd.eq_5] at found
    obtain ⟨groupsA, groupsB⟩ := groups
    obtain ⟨j, sp, first, keptA, inA, rest⟩ := iha groupsA i spans _ result kept found
    obtain ⟨l, sp', second, keptB, inB, accepted⟩ := ihb groupsB j sp k result keptA rest
    exact ⟨l, sp', Nat.le_trans first second, keptB,
      segment_append first second ▸ .cat inA inB, accepted⟩
  | alt a b iha ihb =>
    intro groups i spans k result kept found
    rw [firstEnd.eq_6] at found
    obtain ⟨groupsA, groupsB⟩ := groups
    split at found
    · rename_i r viaA
      rw [← Option.some.inj found]
      obtain ⟨j, sp, le, keptA, inA, accepted⟩ := iha groupsA i spans k r kept viaA
      exact ⟨j, sp, le, keptA, .left inA, accepted⟩
    · obtain ⟨j, sp, le, keptB, inB, accepted⟩ := ihb groupsB i spans k result kept found
      exact ⟨j, sp, le, keptB, .right inB, accepted⟩
  | star greedy body ih =>
    intro groups
    -- the loop goes on from ends further right; induct on the text left
    suffices loop : ∀ n i, t.chars.size + 1 - i = n → ∀ spans k result,
        SpansHeld t held spans → firstEnd t (.star greedy body) i spans k = some result →
        ∃ j sp, i ≤ j ∧ SpansHeld t held sp ∧
          GroupLang t held (.star greedy body) (segment t i j) ∧ k j sp = some result from
      fun i => loop _ i rfl
    intro n
    induction n using Nat.strongRecOn with
    | ind n ihn =>
      intro i left spans k result kept found
      rw [firstEnd.eq_7] at found
      split at found
      · -- one character at a time: the run of passing characters, then a stop inside it
        rename_i test tested
        obtain ⟨further, run⟩ := runEnd_spec (t := t) test (t.chars.size + 1) i
        have starAt : ∀ j, j ≤ t.runEnd test (t.chars.size + 1) i →
            GroupLang t held (.star greedy body) (segment t i j) := by
          intro j high
          apply groupLang_star_of_chars
          intro x member
          obtain ⟨p, low, below, atP⟩ := mem_segment member
          obtain ⟨y, atP', passes⟩ := run p low (by omega)
          rw [atP] at atP'
          cases atP'
          exact groupLang_of_charTest tested passes
        dsimp only at found
        split at found
        · obtain ⟨j, high, within, accepted⟩ := firstDown_sound _ _ found
          exact ⟨j, spans, by omega, kept, starAt j high, accepted⟩
        · obtain ⟨j, low, within, accepted⟩ := firstUp_sound _ _ found
          exact ⟨j, spans, low, kept, starAt j (by omega), accepted⟩
      · -- one more round of the body, then the loop from further right
        have onceMore : ∀ r, firstEnd t body i spans (fun j sp =>
            if i < j ∧ j ≤ t.chars.size then firstEnd t (.star greedy body) j sp k else none) =
              some r →
            ∃ j sp, i ≤ j ∧ SpansHeld t held sp ∧
              GroupLang t held (.star greedy body) (segment t i j) ∧ k j sp = some r := by
          intro r viaBody
          obtain ⟨j, sp, low, keptBody, once, rest⟩ := ih groups i spans _ r kept viaBody
          split at rest
          · rename_i within
            obtain ⟨l, sp', second, keptRest, inRest, accepted⟩ :=
              ihn (t.chars.size + 1 - j) (by omega) j rfl sp k r keptBody rest
            exact ⟨l, sp', Nat.le_trans low second, keptRest,
              segment_append low second ▸ .more once inRest, accepted⟩
          · cases rest
        dsimp only at found
        split at found
        · split at found
          · rename_i r viaBody
            rw [← Option.some.inj found]
            exact onceMore r viaBody
          · exact stayed kept .stop found
        · split at found
          · rename_i r accepted
            rw [← Option.some.inj found]
            exact stayed kept .stop accepted
          · exact onceMore result found
  | group index body ih =>
    intro groups i spans k result kept found
    rw [firstEnd.eq_8] at found
    obtain ⟨own, inner⟩ := groups
    obtain ⟨j, sp, le, keptSp, member, accepted⟩ := ih inner i spans _ result kept found
    exact ⟨j, _, le, spansHeld_set keptSp (own _ member), .group member, accepted⟩
  | backref index =>
    intro _ i spans k result kept found
    rw [firstEnd.eq_9] at found
    split at found
    · rename_i start stop recorded
      split at found
      · rename_i same
        exact ⟨_, spans, Nat.le_add_right _ _, kept,
          .backref (stable index start stop i (kept index start stop recorded) same), found⟩
      · cases found
    · cases found
  | ahead negated body ih =>
    intro groups i spans k result kept found
    rw [firstEnd.eq_10] at found
    split at found
    · split at found
      · exact stayed kept .ahead found
      · cases found
    · rename_i inner viaBody
      split at found
      · cases found
      · -- the body's own spans are handed on
        obtain ⟨j, sp, -, keptInner, -, handed⟩ := ih groups i spans _ _ kept viaBody
        cases handed
        exact stayed keptInner .ahead found
  | behind negated body ih =>
    intro groups i spans k result kept found
    rw [firstEnd.eq_11] at found
    split at found
    · split at found
      · exact stayed kept .behind found
      · cases found
    · split at found
      · split at found
        · exact stayed kept .behind found
        · cases found
      · rename_i inner viaBody
        split at found
        · cases found
        · obtain ⟨j, sp, -, keptInner, -, handed⟩ :=
            ih groups (i - body.width) spans _ _ kept viaBody
          cases handed
          exact stayed keptInner .behind found
  | wordEdge =>
    intro _ i spans k result kept found
    rw [firstEnd.eq_12] at found
    split at found
    · exact stayed kept .wordEdge found
    · cases found
  | textStart =>
    intro _ i spans k result kept found
    rw [firstEnd.eq_13] at found
    split at found
    · exact stayed kept .textStart found
    · cases found

/-- Every way the engine matches a pattern from `i` and hands on to its continuation covers
text of the pattern's language. -/
theorem firstEnd_sound (r : Regex) :
    ∀ (i : Nat) (spans : Spans) (k : Nat → Spans → Option (Nat × Spans)) (result : Nat × Spans),
      firstEnd t r i spans k = some result →
      ∃ j sp, i ≤ j ∧ Lang t r (segment t i j) ∧ k j sp = some result := by
  intro i spans k result found
  -- nothing is asked of the groups, so every back-reference passes
  obtain ⟨j, sp, le, -, member, accepted⟩ :=
    @firstEnd_groupLang t (fun _ _ => True) (fun _ _ _ _ _ _ => trivial) r (groupsHeld_true r)
      i spans k result (fun _ _ _ _ => trivial) found
  exact ⟨j, sp, le, member.toLang, accepted⟩

/-- A match covers, from where it starts to where it stops, text of the pattern's language in
which each back-reference repeats a text that its group's number allows. -/
theorem matchAt_groupLang
    (stable : ∀ index start stop i, held index (segment t start stop) →
      t.repeats start i (stop - start) = true → held index (segment t i (i + (stop - start))))
    {r : Regex} (groups : GroupsHeld t held r) {i : Nat} {nonEmpty : Bool} {m : Match}
    (found : matchAt t r i nonEmpty = some m) :
    m.start = i ∧ GroupLang t held r (segment t i m.stop) := by
  unfold matchAt at found
  obtain ⟨step, reached, rfl⟩ := Option.map_eq_some_iff.mp found
  obtain ⟨j, sp, -, -, member, accepted⟩ :=
    firstEnd_groupLang stable r groups i Spans.none _ step (fun _ _ _ recorded => by cases recorded)
      reached
  split at accepted
  · cases accepted
    exact ⟨rfl, member⟩
  · cases accepted

theorem matchAt_sound {r : Regex} {i : Nat} {nonEmpty : Bool} {m : Match}
    (found : matchAt t r i nonEmpty = some m) : ∃ j, i ≤ j ∧ Lang t r (segment t i j) := by
  unfold matchAt at found
  obtain ⟨step, reached, -⟩ := Option.map_eq_some_iff.mp found
  obtain ⟨j, -, le, member, -⟩ := firstEnd_sound r i Spans.none _ step reached
  exact ⟨j, le, member⟩

theorem searchWithin_sound {r : Regex} {m : Match} :
    ∀ (count i : Nat), searchWithin t r count i = some m →
      ∃ p j, p ≤ j ∧ Lang t r (segment t p j) := by
  intro count
  induction count with
  | zero => intro i found; simp [searchWithin] at found
  | succ count ih =>
    intro i found
    simp only [searchWithin] at found
    split at found
    · rename_i m' here
      obtain ⟨j, le, member⟩ := matchAt_sound here
      exact ⟨i, j, le, member⟩
    · exact ih (i + 1) found

end Sound

/-- A pattern occurs in a text only where a piece of the text is in its language. -/
theorem lang_of_occursIn {p : Pattern} {s : String} (occurs : p.occursIn s = true) :
    ∃ i j, i ≤ j ∧ Lang (Subject.ofText p s) p.regex (segment (Subject.ofText p s) i j) := by
  unfold Pattern.occursIn Pattern.search searchFrom at occurs
  obtain ⟨m, found⟩ := Option.isSome_iff_exists.mp occurs
  exact searchWithin_sound _ _ found

end SecScan.Proofs.PatternLanguage
