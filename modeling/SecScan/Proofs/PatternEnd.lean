import SecScan.Proofs.PatternLanguage
import SecScan.Regex.Replace

/-!
Where the matches of a pattern end. How a match ends can be read off the pattern's syntax: on a
character that its last consuming part takes (`tailSafe`), and for a back-reference on a
character that repeats the last one of its group, up to case. Read with the referenced groups'
texts ending plain (`ReferencedPlain`, an instance of `GroupLang`), the language of a pattern
that checks out (`endsBeforeReturn`) has no text that ends in a carriage return, so such a
pattern never matches up to a final one (`matchAt_stop_lt`), and replacing its matches keeps a
text's final carriage return (`replaceAll_final_cr`).
-/

namespace SecScan.Proofs.PatternEnd

open SecScan.Text SecScan.Regex SecScan.Proofs.PatternLanguage

/-- A text whose last character is no carriage return, in either case. -/
def EndsPlain (w : List Char) : Prop := ∃ x, w.getLast? = some x ∧ lowerChar x ≠ '\r'

/-- What a group's text must be when back-references to it are followed: for a group that
`clear` names, a text that ends plain. -/
def ReferencedPlain (clear : Nat → Bool) (index : Nat) (w : List Char) : Prop :=
  clear index = true → EndsPlain w

section Analysis

/-- Whether a one-character pattern refuses a carriage return. -/
def refusesReturn (t : Subject) (r : Regex) : Bool :=
  match t.charTest r with
  | some test => !test '\r'
  | none => false

/-- Whether a one-character pattern takes only characters whose lower case is no carriage
return: a character, or a class of characters compared as they are. -/
def refusesFoldedReturn (t : Subject) : Regex → Bool
  | .char c => !t.ignoreCase && lowerChar c != '\r'
  | .set negated items =>
    !negated && !(t.ignoreCase && items.any ClassItem.hasCase) && items.all fun
      | .single c => lowerChar c != '\r'
      | _ => false
  | _ => false

/-- Whether every text a pattern covers is nonempty; a back-reference to a group that `clear`
names repeats a nonempty text. -/
def consumes (clear : Nat → Bool) : Regex → Bool
  | .char _ | .dot | .set _ _ => true
  | .cat a b => consumes clear a || consumes clear b
  | .alt a b => consumes clear a && consumes clear b
  | .group _ body => consumes clear body
  | .backref index => clear index
  | _ => false

/-- Whether every nonempty text a pattern covers ends with a character that the one-character
pattern taking it, checked by `leaf`, vouches for. -/
def tailSafe (leaf : Regex → Bool) (clear : Nat → Bool) : Regex → Bool
  | .char c => leaf (.char c)
  | .dot => leaf .dot
  | .set negated items => leaf (.set negated items)
  | .cat a b => tailSafe leaf clear b && (consumes clear b || tailSafe leaf clear a)
  | .alt a b => tailSafe leaf clear a && tailSafe leaf clear b
  | .star _ body => tailSafe leaf clear body
  | .group _ body => tailSafe leaf clear body
  | .backref index => clear index
  | _ => true

/-- Whether every group that `clear` names covers only nonempty texts whose last character
`leaf` vouches for, lookarounds included. -/
def groupsPlain (leaf : Regex → Bool) (clear : Nat → Bool) : Regex → Bool
  | .cat a b => groupsPlain leaf clear a && groupsPlain leaf clear b
  | .alt a b => groupsPlain leaf clear a && groupsPlain leaf clear b
  | .star _ body => groupsPlain leaf clear body
  | .group index body =>
    (!clear index || (consumes clear body && tailSafe leaf clear body)) &&
      groupsPlain leaf clear body
  | .ahead _ body => groupsPlain leaf clear body
  | .behind _ body => groupsPlain leaf clear body
  | _ => true

/-- The group numbers that the back-references of a pattern name. -/
def backrefs : Regex → List Nat
  | .cat a b | .alt a b => backrefs a ++ backrefs b
  | .star _ body | .group _ body | .ahead _ body | .behind _ body => backrefs body
  | .backref index => [index]
  | _ => []

/-- Whether every match of a pattern consumes text and ends on a character other than a
carriage return, as its syntax shows. -/
def endsBeforeReturn (p : Pattern) : Bool :=
  let t := Subject.ofText p ""
  let clear := fun index => (backrefs p.regex).contains index
  consumes clear p.regex && tailSafe (refusesReturn t) clear p.regex &&
    groupsPlain (refusesFoldedReturn t) clear p.regex

variable {t : Subject} {clear : Nat → Bool}

theorem consumes_sound {r : Regex} {w : List Char} (member : GroupLang t (ReferencedPlain clear) r w)
    (nonempty : consumes clear r = true) : w ≠ [] := by
  induction member with
  | char | dot | set => exact List.cons_ne_nil _ _
  | cat _ _ ihA ihB =>
    simp only [consumes, Bool.or_eq_true] at nonempty
    rcases nonempty with inA | inB
    · exact fun empty => ihA inA (List.append_eq_nil_iff.mp empty).1
    · exact fun empty => ihB inB (List.append_eq_nil_iff.mp empty).2
  | left _ ih =>
    simp only [consumes, Bool.and_eq_true] at nonempty
    exact ih nonempty.1
  | right _ ih =>
    simp only [consumes, Bool.and_eq_true] at nonempty
    exact ih nonempty.2
  | group _ ih => exact ih nonempty
  | backref plain =>
    obtain ⟨x, last, -⟩ := plain nonempty
    exact fun empty => by simp [empty] at last
  | _ => simp [consumes] at nonempty

/-- The last character of a text a pattern covers is one its tail vouches for: `leaf` vouches
for what the one-character patterns take, and a repeated group ends plain. -/
theorem tailSafe_sound {leaf : Regex → Bool} {good : Char → Prop}
    (leafGood : ∀ r test x, t.charTest r = some test → test x = true → leaf r = true → good x)
    (plainGood : ∀ x, lowerChar x ≠ '\r' → good x) {r : Regex} {w : List Char}
    (member : GroupLang t (ReferencedPlain clear) r w) (safe : tailSafe leaf clear r = true) :
    ∀ x, w.getLast? = some x → good x := by
  induction member with
  | @char c x agrees =>
    intro y last
    cases last
    exact leafGood (.char c) _ _ rfl agrees safe
  | @dot x notFeed =>
    intro y last
    cases last
    exact leafGood .dot _ _ rfl notFeed safe
  | @set negated items x holds =>
    intro y last
    cases last
    exact leafGood (.set negated items) _ _ rfl holds safe
  | @cat a b u v _ second ihA ihB =>
    simp only [tailSafe, Bool.and_eq_true, Bool.or_eq_true] at safe
    obtain ⟨safeB, consumingB | safeA⟩ := safe
    · -- the second part covers a nonempty text, which ends the whole
      obtain ⟨y, lastB⟩ := Option.ne_none_iff_exists'.mp
        (mt List.getLast?_eq_none_iff.mp (consumes_sound second consumingB))
      intro x last
      rw [List.getLast?_append, lastB, Option.some_or] at last
      exact ihB safeB x (lastB.trans last)
    · intro x last
      rw [List.getLast?_append] at last
      cases lastB : v.getLast? with
      | some y =>
        rw [lastB, Option.some_or] at last
        exact ihB safeB x (lastB.trans last)
      | none =>
        rw [lastB, Option.none_or] at last
        exact ihA safeA x last
  | left _ ih =>
    simp only [tailSafe, Bool.and_eq_true] at safe
    exact ih safe.1
  | right _ ih =>
    simp only [tailSafe, Bool.and_eq_true] at safe
    exact ih safe.2
  | @more greedy body u v _ _ ihOnce ihRest =>
    intro x last
    rw [List.getLast?_append] at last
    cases lastRest : v.getLast? with
    | some y =>
      rw [lastRest, Option.some_or] at last
      exact ihRest safe x (lastRest.trans last)
    | none =>
      rw [lastRest, Option.none_or] at last
      exact ihOnce safe x last
  | group _ ih => exact ih safe
  | backref plain =>
    obtain ⟨y, lastU, lower⟩ := plain safe
    intro x last
    rw [lastU] at last
    cases last
    exact plainGood y lower
  | _ => simp

/-- A pattern whose tail refuses a carriage return covers no text that ends in one. -/
theorem last_ne_cr {r : Regex} {w : List Char} (member : GroupLang t (ReferencedPlain clear) r w)
    (safe : tailSafe (refusesReturn t) clear r = true) : ∀ x, w.getLast? = some x → x ≠ '\r' := by
  refine tailSafe_sound ?_ ?_ member safe
  · intro r test x tested passes refuses same
    subst same
    simp [refusesReturn, tested, passes] at refuses
  · intro x lower same
    rw [same] at lower
    exact lower (by decide)

/-- A pattern whose tail takes characters as they are, none with a carriage return as its
lower case, covers only texts that end plain. -/
theorem last_plain {r : Regex} {w : List Char} (member : GroupLang t (ReferencedPlain clear) r w)
    (safe : tailSafe (refusesFoldedReturn t) clear r = true) :
    ∀ x, w.getLast? = some x → lowerChar x ≠ '\r' := by
  refine tailSafe_sound ?_ (fun _ lower => lower) member safe
  intro r test x tested passes refuses
  cases r with
  | char c =>
    simp only [Subject.charTest, Option.some.injEq] at tested
    subst tested
    simp only [refusesFoldedReturn, Bool.and_eq_true, Bool.not_eq_true', bne_iff_ne, ne_eq] at refuses
    simp only [Subject.charMatches, refuses.1, Bool.false_eq_true, if_false, beq_iff_eq] at passes
    rw [passes]
    exact refuses.2
  | set negated items =>
    simp only [Subject.charTest, Option.some.injEq] at tested
    subst tested
    simp only [refusesFoldedReturn, Bool.and_eq_true, Bool.not_eq_true'] at refuses
    obtain ⟨⟨unnegated, unfolded⟩, singles⟩ := refuses
    simp only [classHolds, unfolded, Bool.false_eq_true, if_false, unnegated, Bool.bne_false] at passes
    obtain ⟨item, listed, holds⟩ := List.any_eq_true.mp passes
    have single := List.all_eq_true.mp singles item listed
    cases item with
    | single c =>
      simp only [ClassItem.holds, beq_iff_eq] at holds
      rw [holds]
      simpa using single
    | _ => simp at single
  | _ => simp [refusesFoldedReturn] at refuses

theorem endsPlain_of {w : List Char} (nonempty : w ≠ [])
    (last : ∀ x, w.getLast? = some x → lowerChar x ≠ '\r') : EndsPlain w := by
  obtain ⟨x, found⟩ := Option.ne_none_iff_exists'.mp (mt List.getLast?_eq_none_iff.mp nonempty)
  exact ⟨x, found, last x found⟩

end Analysis

section Engine

variable {t : Subject} {clear : Nat → Bool}

/-- A back-reference repeats its group's last character, up to case, so a repeated text that
ends plain is repeated by one that ends plain. -/
theorem endsPlain_of_repeats {start stop i : Nat} (source : EndsPlain (segment t start stop))
    (same : t.repeats start i (stop - start) = true) :
    EndsPlain (segment t i (i + (stop - start))) := by
  obtain ⟨x, lastSource, lower⟩ := source
  have longer : start < stop := by
    by_cases short : stop ≤ start
    · have empty : segment t start stop = [] := by
        simp [PatternLanguage.segment, Nat.sub_eq_zero_of_le short]
      rw [empty] at lastSource
      cases lastSource
    · omega
  obtain ⟨m, count⟩ : ∃ m, stop - start = m + 1 := ⟨stop - start - 1, by omega⟩
  rw [count] at same ⊢
  have lastPair := List.all_eq_true.mp same m (List.mem_range.mpr (Nat.lt_succ_self m))
  split at lastPair
  · rename_i a b atSource atTarget
    have sourceText : segment t start stop = segment t start (start + m) ++ [a] := by
      rw [show stop = start + m + 1 by omega]
      exact segment_concat (Nat.le_add_right _ _) atSource
    rw [sourceText, List.getLast?_concat, Option.some.injEq] at lastSource
    subst lastSource
    have lowerSame : lowerChar b = lowerChar a := by
      split at lastPair
      · exact (beq_iff_eq.mp lastPair).symm
      · rw [(beq_iff_eq.mp lastPair)]
    refine ⟨b, ?_, lowerSame ▸ lower⟩
    rw [← Nat.add_assoc, segment_concat (Nat.le_add_right _ _) atTarget, List.getLast?_concat]
  · cases lastPair

theorem referencedPlain_stable (index start stop i : Nat)
    (source : ReferencedPlain clear index (segment t start stop))
    (same : t.repeats start i (stop - start) = true) :
    ReferencedPlain clear index (segment t i (i + (stop - start))) :=
  fun named => endsPlain_of_repeats (source named) same

/-- A pattern whose referenced groups cover only nonempty texts that end plain, as checked, has
such groups in the language too. -/
theorem groupsHeld_of_check {r : Regex}
    (checked : groupsPlain (refusesFoldedReturn t) clear r = true) :
    GroupsHeld t (ReferencedPlain clear) r := by
  induction r with
  | cat a b iha ihb =>
    simp only [groupsPlain, Bool.and_eq_true] at checked
    exact ⟨iha checked.1, ihb checked.2⟩
  | alt a b iha ihb =>
    simp only [groupsPlain, Bool.and_eq_true] at checked
    exact ⟨iha checked.1, ihb checked.2⟩
  | star _ _ ih => exact ih checked
  | group index body ih =>
    simp only [groupsPlain, Bool.and_eq_true, Bool.or_eq_true, Bool.not_eq_true'] at checked
    obtain ⟨own, inner⟩ := checked
    refine ⟨fun w member named => ?_, ih inner⟩
    -- the group is referenced, so its body covers only nonempty texts that end plain
    rcases own with unnamed | ⟨consuming, safe⟩
    · rw [named] at unnamed
      cases unnamed
    · exact endsPlain_of (consumes_sound member consuming) (last_plain member safe)
  | ahead _ _ ih => exact ih checked
  | behind _ _ ih => exact ih checked
  | _ => trivial

end Engine

section Final

variable {t : Subject} {clear : Nat → Bool} {pre : List Char}
  (ending : t.chars.toList = pre ++ ['\r'])
include ending

/-- Past the end of a text that ends with a carriage return, the text from a position inside
it ends with that return. -/
theorem getLast?_segment_beyond {i j : Nat} (inside : i < t.chars.size)
    (beyond : t.chars.size ≤ j) : (segment t i j).getLast? = some '\r' := by
  have whole : segment t i j = t.chars.toList.drop i := by
    unfold PatternLanguage.segment
    exact List.take_of_length_le (by simp only [List.length_drop, Array.length_toList]; omega)
  rw [whole, List.getLast?_drop, if_neg (by simp only [Array.length_toList]; omega), ending,
    List.getLast?_concat]

/-- A match of a pattern that consumes text and never ends on a carriage return stops before a
final one. -/
theorem matchAt_stop_lt {r : Regex} (groups : groupsPlain (refusesFoldedReturn t) clear r = true)
    (consuming : consumes clear r = true) (safe : tailSafe (refusesReturn t) clear r = true)
    {i : Nat} {nonEmpty : Bool} {m : Match} (found : matchAt t r i nonEmpty = some m) :
    m.stop < t.chars.size := by
  obtain ⟨-, member⟩ := matchAt_groupLang referencedPlain_stable (groupsHeld_of_check groups) found
  have nonempty := consumes_sound member consuming
  obtain ⟨x, listed⟩ := List.exists_mem_of_ne_nil _ nonempty
  obtain ⟨p, low, -, atP⟩ := mem_segment listed
  have inside : i < t.chars.size := by
    have := (Array.getElem?_eq_some_iff.mp atP).1
    omega
  by_cases beyond : t.chars.size ≤ m.stop
  · exact absurd rfl (last_ne_cr member safe '\r' (getLast?_segment_beyond ending inside beyond))
  · omega

end Final

section Sweep

variable {t : Subject} {r : Regex} (render : Match → String) {bound : Nat}
  (short : ∀ p nonEmpty m, matchAt t r p nonEmpty = some m → m.stop < bound)
include short

/-- Each look for a match leaves the sweep's cursor below a bound that every match stops
below. -/
theorem cursor_visit {sweep : Sweep} (below : sweep.cursor < bound) (p : Nat) :
    (Sweep.visit t r render sweep p).cursor < bound := by
  unfold Sweep.visit
  split
  · exact below
  · dsimp only
    split
    · exact below
    · rename_i m found
      split
      · split
        · rename_i longer foundLonger
          exact short _ _ _ foundLonger
        · exact short _ _ _ found
      · exact short _ _ _ found

theorem cursor_foldl_visit (positions : List Nat) :
    ∀ sweep : Sweep, sweep.cursor < bound →
      (positions.foldl (Sweep.visit t r render) sweep).cursor < bound := by
  induction positions with
  | nil =>
    intro sweep below
    exact below
  | cons p rest ih =>
    intro sweep below
    exact ih _ (cursor_visit render short below p)

end Sweep

/-- Replacing matches that all stop before a final carriage return keeps it: the text after the
last match is copied, and it holds the return. -/
theorem replaceAll_final_cr {t : Subject} {r : Regex} {pre : List Char}
    (ending : t.chars.toList = pre ++ ['\r'])
    (short : ∀ p nonEmpty m, matchAt t r p nonEmpty = some m → m.stop < t.chars.size)
    (render : Match → String) : ∃ pre', (replaceAll t r render).toList = pre' ++ ['\r'] := by
  have sized : t.chars.size = pre.length + 1 := by
    rw [← Array.length_toList, ending]
    simp
  have below := cursor_foldl_visit render short (List.range (t.chars.size + 1)) {}
    (by show 0 < t.chars.size; omega)
  unfold replaceAll
  dsimp only
  generalize (List.range (t.chars.size + 1)).foldl (Sweep.visit t r render) {} = done at below ⊢
  have within : done.cursor ≤ pre.length := by omega
  refine ⟨done.written.toList ++ pre.drop done.cursor, ?_⟩
  rw [String.toList_append, Subject.slice, String.toList_ofList, Array.toList_extract,
    List.extract_eq_take_drop,
    List.take_of_length_le (by simp only [List.length_drop, Array.length_toList]; omega), ending,
    List.drop_append_of_le_length within, List.append_assoc]

/-- The checks of one-character patterns read only the subject's case mode. -/
theorem refusesReturn_ofText (p : Pattern) (s : String) :
    refusesReturn (Subject.ofText p s) = refusesReturn (Subject.ofText p "") := by
  funext r
  cases r <;> rfl

theorem refusesFoldedReturn_ofText (p : Pattern) (s : String) :
    refusesFoldedReturn (Subject.ofText p s) = refusesFoldedReturn (Subject.ofText p "") := by
  funext r
  cases r <;> rfl

/-- Replacing the matches of a pattern that ends before a return, by anything, keeps a text's
final carriage return. -/
theorem replaceAll_final_cr_of_check {p : Pattern} (checked : endsBeforeReturn p = true)
    {s : String} {pre : List Char} (ending : s.toList = pre ++ ['\r']) (render : Match → String) :
    ∃ pre', (replaceAll (Subject.ofText p s) p.regex render).toList = pre' ++ ['\r'] := by
  simp only [endsBeforeReturn, Bool.and_eq_true] at checked
  obtain ⟨⟨consuming, safe⟩, groups⟩ := checked
  rw [← refusesReturn_ofText p s] at safe
  rw [← refusesFoldedReturn_ofText p s] at groups
  have chars : (Subject.ofText p s).chars.toList = pre ++ ['\r'] := by
    simpa [Subject.ofText] using ending
  exact replaceAll_final_cr chars (fun _ _ _ found => matchAt_stop_lt chars groups consuming safe found)
    render

end SecScan.Proofs.PatternEnd
