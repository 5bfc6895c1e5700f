import SecScan.Proofs.PatternLanguage

/-!
Texts a pattern cannot match. A needle is a row of character tests. The needles of a pattern are
read off its syntax so that every text in the pattern's language holds, somewhere, a run of
characters that pass a needle's tests one by one (`needles_sound`). A pattern therefore does not
occur in a text in which one of its needles fits nowhere (`occursIn_eq_false`), and checking that
is a computation on the pattern and the text alone.
-/

namespace SecScan.Proofs.Needles

open SecScan.Regex SecScan.Proofs.PatternLanguage

/-- Tests for consecutive characters. -/
abbrev Needle := List (Char → Bool)

/-- Whether the first characters of a text pass a needle's tests, one test each. -/
def fitsPrefix : Needle → List Char → Bool
  | [], _ => true
  | _ :: _, [] => false
  | test :: tests, c :: cs => test c && fitsPrefix tests cs

/-- Whether a needle fits somewhere in a text. -/
def fitsIn (n : Needle) : List Char → Bool
  | [] => fitsPrefix n []
  | c :: cs => fitsPrefix n (c :: cs) || fitsIn n cs

/-- A needle whose tests pass where either of two needles passes, as long as the shorter. -/
def orTests (n m : Needle) : Needle := List.zipWith (fun p q x => p x || q x) n m

section Fits

variable {n : Needle}

theorem fitsPrefix_append {u : List Char} (fits : fitsPrefix n u = true) (v : List Char) :
    fitsPrefix n (u ++ v) = true := by
  induction n generalizing u with
  | nil => rfl
  | cons test tests ih =>
    cases u with
    | nil => simp [fitsPrefix] at fits
    | cons c cs =>
      simp only [fitsPrefix, Bool.and_eq_true] at fits
      simp only [List.cons_append, fitsPrefix, fits.1, ih fits.2, Bool.and_self]

/-- Tests that pass on a text exactly, one per character, then a needle that fits after it. -/
theorem fitsPrefix_exact_append {exact : Needle} {u v : List Char}
    (passes : List.Forall₂ (fun test c => test c = true) exact u) (fits : fitsPrefix n v = true) :
    fitsPrefix (exact ++ n) (u ++ v) = true := by
  induction passes with
  | nil => exact fits
  | cons first _ ih => simp only [List.cons_append, fitsPrefix, first, ih, Bool.and_self]

theorem orTests_comm (m : Needle) : orTests n m = orTests m n := by
  unfold orTests
  rw [List.zipWith_comm]
  simp only [Bool.or_comm]

theorem fitsPrefix_orTests_left {w : List Char} (fits : fitsPrefix n w = true) (m : Needle) :
    fitsPrefix (orTests n m) w = true := by
  induction n generalizing m w with
  | nil => rfl
  | cons p ps ih =>
    cases m with
    | nil => rfl
    | cons q qs =>
      cases w with
      | nil => simp [fitsPrefix] at fits
      | cons c cs =>
        simp only [fitsPrefix, Bool.and_eq_true] at fits
        have rest := ih fits.2 qs
        simp only [orTests, List.zipWith_cons_cons, fitsPrefix, fits.1, Bool.true_or,
          Bool.true_and] at rest ⊢
        exact rest

theorem fitsPrefix_orTests_right {w : List Char} (fits : fitsPrefix n w = true) (m : Needle) :
    fitsPrefix (orTests m n) w = true :=
  orTests_comm (n := m) n ▸ fitsPrefix_orTests_left fits m

/-- A needle fits in a text when it fits at the start of one of its suffixes. -/
theorem fitsIn_iff {w : List Char} :
    fitsIn n w = true ↔ ∃ pre suf, w = pre ++ suf ∧ fitsPrefix n suf = true := by
  induction w with
  | nil => simp [fitsIn, and_assoc]
  | cons c cs ih =>
    rw [fitsIn, Bool.or_eq_true, ih]
    constructor
    · rintro (here | ⟨pre, suf, rfl, fits⟩)
      · exact ⟨[], c :: cs, rfl, here⟩
      · exact ⟨c :: pre, suf, rfl, fits⟩
    · rintro ⟨pre, suf, split, fits⟩
      cases pre with
      | nil => exact .inl (split ▸ fits)
      | cons a pre =>
        rw [List.cons_append, List.cons.injEq] at split
        exact .inr ⟨pre, suf, split.2, fits⟩

theorem fitsIn_of_fitsPrefix {w : List Char} (fits : fitsPrefix n w = true) : fitsIn n w = true :=
  fitsIn_iff.mpr ⟨[], w, rfl, fits⟩

theorem fitsIn_of_within {u w : List Char} (fits : fitsIn n u = true) (within : List.IsInfix u w) :
    fitsIn n w = true := by
  obtain ⟨pre, suf, rfl, found⟩ := fitsIn_iff.mp fits
  obtain ⟨before, after, rfl⟩ := within
  exact fitsIn_iff.mpr ⟨before ++ pre, suf ++ after, by simp, fitsPrefix_append found after⟩

theorem fitsIn_append_left {u : List Char} (fits : fitsIn n u = true) (v : List Char) :
    fitsIn n (u ++ v) = true :=
  fitsIn_of_within fits (List.prefix_append u v).isInfix

theorem fitsIn_append_right {v : List Char} (fits : fitsIn n v = true) (u : List Char) :
    fitsIn n (u ++ v) = true :=
  fitsIn_of_within fits (List.suffix_append u v).isInfix

theorem fitsIn_orTests_left {w : List Char} (fits : fitsIn n w = true) (m : Needle) :
    fitsIn (orTests n m) w = true := by
  obtain ⟨pre, suf, rfl, found⟩ := fitsIn_iff.mp fits
  exact fitsIn_iff.mpr ⟨pre, suf, rfl, fitsPrefix_orTests_left found m⟩

theorem fitsIn_orTests_right {w : List Char} (fits : fitsIn n w = true) (m : Needle) :
    fitsIn (orTests m n) w = true :=
  orTests_comm (n := m) n ▸ fitsIn_orTests_left fits m

/-- A needle whose first test rejects every character of `u` can only fit in `u ++ v` within
`v`. -/
theorem fitsIn_of_append_rejected {first : Char → Bool} {rest : Needle} {u v : List Char}
    (fits : fitsIn (first :: rest) (u ++ v) = true) (rejected : ∀ c ∈ u, first c = false) :
    fitsIn (first :: rest) v = true := by
  obtain ⟨pre, suf, split, found⟩ := fitsIn_iff.mp fits
  rcases List.append_eq_append_iff.mp split with ⟨mid, -, later⟩ | ⟨mid, inU, starts⟩
  · exact fitsIn_iff.mpr ⟨mid, suf, later, found⟩
  · cases mid with
    | nil =>
      rw [List.nil_append] at starts
      exact fitsIn_of_fitsPrefix (starts ▸ found)
    | cons c cs =>
      have passes : first c = true := by
        rw [starts, List.cons_append, fitsPrefix, Bool.and_eq_true] at found
        exact found.1
      have inside : c ∈ u := by
        rw [inU]
        exact List.mem_append_right _ List.mem_cons_self
      rw [rejected c inside] at passes
      cases passes

end Fits

section Patterns

variable (t : Subject)

/-- The tests of a pattern that always covers one character per test, when it does. -/
def exactly : Regex → Option Needle
  | .empty | .ahead _ _ | .behind _ _ | .wordEdge | .textStart => some []
  | .cat a b =>
    match exactly a, exactly b with
    | some front, some back => some (front ++ back)
    | _, _ => none
  | .group _ body => exactly body
  | r => (t.charTest r).map fun test => [test]

/-- The first character of a run of `a`'s single characters followed by a text that `next`
fits at the start of. -/
def runThen (a : Regex) (next : Needle) : Needle :=
  match a, next with
  | .star _ body, first :: _ => ((t.charTest body).map fun test => [fun x => test x || first x]).getD []
  | _, _ => []

/-- Tests that every text of a pattern passes from its first character on. -/
def lead : Regex → Needle
  | .cat a b =>
    match exactly t a with
    | some front => front ++ lead b
    | none =>
      match lead a with
      | [] => runThen t a (lead b)
      | first => first
  | .alt a b => orTests (lead a) (lead b)
  | .group _ body => lead body
  | r => ((t.charTest r).map fun test => [test]).getD []

/-- Needles that fit somewhere in every text of a pattern. -/
def needles : Regex → List Needle
  | .cat a b => lead t (.cat a b) :: (needles a ++ needles b)
  | .alt a b => lead t (.alt a b) :: (needles a).flatMap fun n => (needles b).map (orTests n)
  | .group _ body => needles body
  | r => [lead t r]

end Patterns

section Sound

variable {t : Subject}

/-- Which texts a pattern covers depends on the subject only through its case mode. -/
theorem lang_of_ignoreCase {t' : Subject} (same : t.ignoreCase = t'.ignoreCase) {r : Regex}
    {w : List Char} (member : Lang t r w) : Lang t' r w := by
  induction member with
  | empty => exact .empty
  | char agrees =>
    unfold Subject.charMatches at agrees
    exact .char (by unfold Subject.charMatches; rw [← same]; exact agrees)
  | dot notFeed => exact .dot notFeed
  | set holds => exact .set (same ▸ holds)
  | cat _ _ first second => exact .cat first second
  | left _ taken => exact .left taken
  | right _ taken => exact .right taken
  | stop => exact .stop
  | more _ _ once rest => exact .more once rest
  | group _ inner => exact .group inner
  | backref => exact .backref
  | ahead => exact .ahead
  | behind => exact .behind
  | wordEdge => exact .wordEdge
  | textStart => exact .textStart

/-- A pattern of one character covers one character that passes its test. -/
theorem lang_charTest {r : Regex} {test : Char → Bool} (tested : t.charTest r = some test)
    {w : List Char} (member : Lang t r w) : ∃ x, w = [x] ∧ test x = true := by
  cases member with
  | char agrees =>
    simp only [Subject.charTest, Option.some.injEq] at tested
    exact ⟨_, rfl, tested ▸ agrees⟩
  | dot notFeed =>
    simp only [Subject.charTest, Option.some.injEq] at tested
    exact ⟨_, rfl, tested ▸ notFeed⟩
  | set holds =>
    simp only [Subject.charTest, Option.some.injEq] at tested
    exact ⟨_, rfl, tested ▸ holds⟩
  | _ => simp [Subject.charTest] at tested

/-- A run of a one-character pattern covers characters that all pass its test. -/
theorem lang_star_charTest {body : Regex} {test : Char → Bool} (tested : t.charTest body = some test)
    {greedy : Bool} {u : List Char} (member : Lang t (.star greedy body) u) :
    ∀ x ∈ u, test x = true := by
  generalize starred : Regex.star greedy body = r at member
  induction member with
  | stop => simp
  | more once _ _ ih =>
    cases starred
    obtain ⟨x, rfl, passes⟩ := lang_charTest tested once
    intro y member
    rcases List.mem_cons.mp member with rfl | later
    · exact passes
    · exact ih rfl y later
  | _ => cases starred

theorem exactly_sound {r : Regex} {w : List Char} (member : Lang t r w) :
    ∀ n, exactly t r = some n → List.Forall₂ (fun test c => test c = true) n w := by
  induction member with
  | empty | ahead | behind | wordEdge | textStart =>
    intro n given
    cases given
    exact .nil
  | char agrees =>
    intro n given
    cases given
    exact .cons agrees .nil
  | dot notFeed =>
    intro n given
    cases given
    exact .cons notFeed .nil
  | set holds =>
    intro n given
    cases given
    exact .cons holds .nil
  | cat _ _ ih₁ ih₂ =>
    rename_i a b _ _
    intro n given
    simp only [exactly] at given
    split at given
    · rename_i front back isFront isBack
      cases given
      exact List.rel_append (ih₁ front isFront) (ih₂ back isBack)
    · cases given
  | group _ ih => exact ih
  | left | right | stop | more | backref => intro n given; simp [exactly, Subject.charTest] at given

theorem runThen_sound {a : Regex} {next : Needle} {u v : List Char} (member : Lang t a u)
    (fits : fitsPrefix next v = true) : fitsPrefix (runThen t a next) (u ++ v) = true := by
  unfold runThen
  split
  · rename_i greedy body first rest
    cases tested : t.charTest body with
    | none => rfl
    | some test =>
      have run := lang_star_charTest tested member
      cases u with
      | cons x _ => simp [fitsPrefix, run x List.mem_cons_self]
      | nil =>
        cases v with
        | nil => simp [fitsPrefix] at fits
        | cons y _ =>
          simp only [fitsPrefix, Bool.and_eq_true] at fits
          simp [fitsPrefix, fits.1]
  · rfl

theorem lead_sound {r : Regex} {w : List Char} (member : Lang t r w) :
    fitsPrefix (lead t r) w = true := by
  induction member with
  | char agrees => simp [lead, Subject.charTest, fitsPrefix, agrees]
  | dot notFeed => simp [lead, Subject.charTest, fitsPrefix, notFeed]
  | set holds => simp [lead, Subject.charTest, fitsPrefix, holds]
  | cat first second ih₁ ih₂ =>
    rename_i a b u v
    simp only [lead]
    split
    · rename_i front isFront
      exact fitsPrefix_exact_append (exactly_sound first front isFront) ih₂
    · split
      · exact runThen_sound first ih₂
      · exact fitsPrefix_append ih₁ v
  | left _ ih => exact fitsPrefix_orTests_left ih _
  | right _ ih => exact fitsPrefix_orTests_right ih _
  | group _ ih => exact ih
  | _ => simp [lead, Subject.charTest, fitsPrefix]

/-- Every needle of a pattern fits somewhere in every text of the pattern's language. -/
theorem needles_sound {r : Regex} {w : List Char} (member : Lang t r w) :
    ∀ n ∈ needles t r, fitsIn n w = true := by
  have own := fitsIn_of_fitsPrefix (lead_sound member)
  induction member with
  | cat first second ih₁ ih₂ =>
    intro n listed
    rcases List.mem_cons.mp listed with rfl | inner
    · exact own
    · rcases List.mem_append.mp inner with fromFirst | fromSecond
      · exact fitsIn_append_left (ih₁ (fitsIn_of_fitsPrefix (lead_sound first)) n fromFirst) _
      · exact fitsIn_append_right (ih₂ (fitsIn_of_fitsPrefix (lead_sound second)) n fromSecond) _
  | left taken ih =>
    intro n listed
    rcases List.mem_cons.mp listed with rfl | inner
    · exact own
    · obtain ⟨m, fromLeft, paired⟩ := List.mem_flatMap.mp inner
      obtain ⟨k, -, rfl⟩ := List.mem_map.mp paired
      exact fitsIn_orTests_left (ih (fitsIn_of_fitsPrefix (lead_sound taken)) m fromLeft) k
  | right taken ih =>
    intro n listed
    rcases List.mem_cons.mp listed with rfl | inner
    · exact own
    · obtain ⟨m, -, paired⟩ := List.mem_flatMap.mp inner
      obtain ⟨k, fromRight, rfl⟩ := List.mem_map.mp paired
      exact fitsIn_orTests_right (ih (fitsIn_of_fitsPrefix (lead_sound taken)) k fromRight) m
  | group inner ih => exact ih own
  | _ =>
    intro n listed
    simp only [needles, List.mem_singleton] at listed
    exact listed ▸ own

end Sound

/-- The needles of a pattern, in its own case mode. -/
def patternNeedles (p : Pattern) : List Needle := needles (Subject.ofText p "") p.regex

/-- A pattern does not occur in a text in which one of its needles fits nowhere. -/
theorem occursIn_eq_false {p : Pattern} {n : Needle} (listed : n ∈ patternNeedles p) {s : String}
    (absent : fitsIn n s.toList = false) : p.occursIn s = false := by
  cases occurs : p.occursIn s with
  | false => rfl
  | true =>
    obtain ⟨i, j, -, member⟩ := lang_of_occursIn occurs
    have caseMode : Lang (Subject.ofText p "") p.regex (segment (Subject.ofText p s) i j) :=
      @lang_of_ignoreCase (Subject.ofText p s) (Subject.ofText p "") rfl _ _ member
    have fits := needles_sound caseMode n listed
    have within := fitsIn_of_within fits (isInfix_segment i j)
    have chars : (Subject.ofText p s).chars.toList = s.toList := by simp [Subject.ofText]
    rw [chars, absent] at within
    cases within

end SecScan.Proofs.Needles
