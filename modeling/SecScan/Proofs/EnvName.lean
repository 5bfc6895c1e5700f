import SecScan.Proofs.FixLine

/-!
The shape of an environment variable name made for a credential identifier. `envName` never
gives the empty name; it writes only upper-case ASCII letters, digits and underscores, never an
underscore at either end and never two in a row (`envName_portable`). Each of these follows from
one pass: camel-case splitting only adds underscores between letters and digits
(`filter_splitCamel`), squeezing writes one underscore per gap (`squeezeGaps_apart`), trimming
takes the ends off (`head?_trimUnderscores`, `getLast?_trimUnderscores`), and upper-casing
turns no character into an underscore (`toUpper_eq_underscore`).

Nothing drops a leading digit: the name starts with the identifier's first ASCII letter or digit,
upper-cased (`envName_head?`), so it starts with a digit exactly when that character is one, as
for `1password` (`envName_digit_first`).
-/

namespace SecScan.Proofs.EnvName

open SecScan.Rule SecScan.Proofs.FixLine

section Characters

theorem toUpper_toNat (c : Char) :
    c.toUpper.toNat = if 97 ≤ c.toNat ∧ c.toNat ≤ 122 then c.toNat - 32 else c.toNat := by
  unfold Char.toUpper
  have sameCode : c.toNat = c.val.toNat := rfl
  split
  · rename_i lower
    have low : 97 ≤ c.val.toNat := lower.1
    have high : c.val.toNat ≤ 122 := lower.2
    rw [if_pos (by omega)]
    show (c.val + ('A'.val - 'a'.val)).toNat = c.toNat - 32
    simp only [UInt32.toNat_add]
    simp
    omega
  · rename_i notLower
    rw [if_neg]
    intro inside
    exact notLower ⟨show 97 ≤ c.val.toNat by omega, show c.val.toNat ≤ 122 by omega⟩

theorem isDigit_toUpper (c : Char) : c.toUpper.isDigit = c.isDigit := by
  have code := toUpper_toNat c
  simp only [Char.isDigit, ge_iff_le, UInt32.le_iff_toNat_le]
  show ((48 ≤ c.toUpper.toNat) && (c.toUpper.toNat ≤ 57)) = ((48 ≤ c.toNat) && (c.toNat ≤ 57))
  rw [code, Bool.eq_iff_iff]
  simp only [Bool.and_eq_true, decide_eq_true_eq]
  split <;> omega

/-- Upper-casing keeps underscores and makes none. -/
theorem toUpper_eq_underscore (c : Char) : c.toUpper = '_' ↔ c = '_' := by
  have code := toUpper_toNat c
  constructor
  · intro same
    have upperCode := congrArg Char.toNat same
    rw [code, show '_'.toNat = 95 from rfl] at upperCode
    rw [← Char.toNat_inj, show '_'.toNat = 95 from rfl]
    -- a lower-case letter moves down to 65..90, away from 95
    split at upperCode <;> omega
  · rintro rfl
    rfl

/-- An ASCII letter or digit upper-cased is an upper-case letter or a digit. -/
theorem toUpper_of_nameChar {c : Char} (named : isNameChar c = true) :
    c.toUpper.isUpper = true ∨ c.toUpper.isDigit = true := by
  have code := toUpper_toNat c
  have sameCode : c.toNat = c.val.toNat := rfl
  simp only [isNameChar, Bool.or_eq_true, Bool.and_eq_true, decide_eq_true_eq, Char.le_def,
    UInt32.le_iff_toNat_le] at named
  change ((48 ≤ c.val.toNat ∧ c.val.toNat ≤ 57) ∨ (97 ≤ c.val.toNat ∧ c.val.toNat ≤ 122)) ∨
    (65 ≤ c.val.toNat ∧ c.val.toNat ≤ 90) at named
  simp only [Char.isUpper, Char.isDigit, ge_iff_le, UInt32.le_iff_toNat_le, Bool.and_eq_true,
    decide_eq_true_eq]
  show (65 ≤ c.toUpper.toNat ∧ c.toUpper.toNat ≤ 90) ∨ (48 ≤ c.toUpper.toNat ∧ c.toUpper.toNat ≤ 57)
  rw [code]
  split <;> omega

end Characters

section Passes

/-- No underscore right after an underscore. -/
def Apart (a b : Char) : Prop := a = '_' → b ≠ '_'

instance : DecidableRel Apart := fun a b => inferInstanceAs (Decidable (a = '_' → b ≠ '_'))

/-- Squeezing gaps writes no two underscores in a row, and after a gap it starts with no
underscore. -/
theorem squeezeGaps_apart (inGap : Bool) (chars : List Char) :
    (squeezeGaps inGap chars).IsChain Apart ∧
      (inGap = true → (squeezeGaps inGap chars).head? ≠ some '_') := by
  induction chars generalizing inGap with
  | nil => simp [squeezeGaps]
  | cons c rest ih =>
    unfold squeezeGaps
    split
    · rename_i named
      have notUnderscore : c ≠ '_' := by
        rintro rfl
        simp [isNameChar] at named
      refine ⟨List.isChain_cons.mpr ⟨fun _ _ same => absurd same notUnderscore, (ih false).1⟩, ?_⟩
      intro _ same
      exact notUnderscore (Option.some.inj same)
    · split
      · exact ⟨(ih true).1, fun _ => (ih true).2 rfl⟩
      · -- the underscore written for this gap is followed by what comes after the gap
        refine ⟨List.isChain_cons.mpr ⟨fun y first _ same => (ih true).2 rfl ?_, (ih true).1⟩,
          fun gap => by simp_all⟩
        rw [← same]
        exact Option.mem_def.mp first

/-- Squeezing gaps keeps every ASCII letter and digit, in order. -/
theorem filter_squeezeGaps (inGap : Bool) (chars : List Char) :
    (squeezeGaps inGap chars).filter isNameChar = chars.filter isNameChar := by
  induction chars generalizing inGap with
  | nil => rfl
  | cons c rest ih =>
    unfold squeezeGaps
    split
    · rename_i named
      rw [List.filter_cons_of_pos named, List.filter_cons_of_pos named, ih]
    · rename_i notNamed
      rw [List.filter_cons_of_neg notNamed]
      split
      · exact ih true
      · rw [List.filter_cons_of_neg (by decide), ih]

/-- Splitting camel case only adds underscores. -/
theorem filter_splitCamel (chars : List Char) :
    (splitCamel chars).filter isNameChar = chars.filter isNameChar := by
  have underscore : isNameChar '_' = false := by decide
  fun_induction splitCamel chars with
  | case1 a b rest _ ih =>
    simp only [List.filter_cons, underscore, ih, Bool.false_eq_true, if_false]
  | case2 a b rest _ ih => simp only [List.filter_cons, ih]
  | case3 cs _ => rfl

/-- Trimming underscores leaves a piece of the middle. -/
theorem trimUnderscores_isInfix (chars : List Char) :
    (trimUnderscores chars).IsInfix chars := by
  unfold trimUnderscores
  -- trimming the back keeps a prefix of what trimming the front kept, a suffix of the whole
  have back : ((chars.dropWhile (· == '_')).reverse.dropWhile (· == '_')).reverse.IsPrefix
      (chars.dropWhile (· == '_')) := by
    rw [← List.reverse_suffix, List.reverse_reverse]
    exact List.dropWhile_suffix _
  exact back.isInfix.trans (List.dropWhile_suffix _).isInfix

/-- What trimming leaves never ends with an underscore. -/
theorem getLast?_trimUnderscores (chars : List Char) :
    (trimUnderscores chars).getLast? ≠ some '_' := by
  unfold trimUnderscores
  rw [List.getLast?_reverse]
  have kept := List.head?_dropWhile_not (· == '_') (chars.dropWhile (· == '_')).reverse
  intro same
  rw [same] at kept
  exact absurd kept (by decide)

/-- What trimming leaves starts where the underscores in front end. -/
theorem head?_trimUnderscores (chars : List Char) :
    (trimUnderscores chars).head? = (chars.dropWhile (· == '_')).head? := by
  unfold trimUnderscores
  rw [List.head?_reverse]
  generalize rest : chars.dropWhile (· == '_') = kept
  have front := List.head?_dropWhile_not (· == '_') chars
  rw [rest] at front
  cases kept with
  | nil => rfl
  | cons z zs =>
    simp only [List.head?_cons] at front ⊢
    -- trimming the back stops at `z` at the latest, which is no underscore
    rw [List.reverse_cons, List.dropWhile_append]
    split
    · rw [List.dropWhile_cons_of_neg (by simpa using front)]
      rfl
    · rw [List.getLast?_append, List.getLast?_singleton]
      rfl

/-- In letters, digits and underscores, the first character after the leading underscores is the
first letter or digit. -/
theorem head?_dropWhile_underscore {chars : List Char}
    (named : ∀ c ∈ chars, isNameChar c = true ∨ c = '_') :
    (chars.dropWhile (· == '_')).head? = chars.find? isNameChar := by
  induction chars with
  | nil => rfl
  | cons c rest ih =>
    have restNamed : ∀ d ∈ rest, isNameChar d = true ∨ d = '_' :=
      fun d member => named d (List.mem_cons_of_mem c member)
    rcases named c List.mem_cons_self with letter | rfl
    · have notUnderscore : c ≠ '_' := by
        rintro rfl
        simp [isNameChar] at letter
      rw [List.dropWhile_cons_of_neg (by simpa using notUnderscore), List.find?_cons_of_pos letter]
      rfl
    · rw [List.dropWhile_cons_of_pos (by decide), List.find?_cons_of_neg (by decide), ih restNamed]

end Passes

section Name

/-- The letters, digits and underscores an environment variable name is upper-cased from. -/
def cleanedName (name : String) : List Char :=
  trimUnderscores (squeezeGaps false (splitCamel name.toList))

theorem cleanedName_chars (name : String) :
    ∀ c ∈ cleanedName name, isNameChar c = true ∨ c = '_' :=
  fun c member => squeezeGaps_nameChar false _ c (mem_of_mem_trimUnderscores member)

/-- The cleaned name starts with the first ASCII letter or digit of the identifier. -/
theorem head?_cleanedName (name : String) :
    (cleanedName name).head? = name.toList.find? isNameChar := by
  unfold cleanedName
  rw [head?_trimUnderscores, head?_dropWhile_underscore (squeezeGaps_nameChar false _),
    ← List.head?_filter, filter_squeezeGaps, filter_splitCamel, List.head?_filter]

theorem envName_toList (name : String) :
    (envName name).toList =
      if cleanedName name = [] then ['S', 'E', 'C', 'R', 'E', 'T']
      else (cleanedName name).map Char.toUpper := by
  unfold envName
  dsimp only
  rw [← cleanedName]
  split
  · rename_i empty
    rw [if_pos (List.isEmpty_iff.mp empty)]
    rfl
  · rename_i nonempty
    rw [if_neg (fun same => nonempty (List.isEmpty_iff.mpr same)), String.toList_ofList]

theorem envName_ne_nil (name : String) : (envName name).toList ≠ [] := by
  rw [envName_toList]
  split
  · exact List.cons_ne_nil _ _
  · rename_i nonempty
    exact fun same => nonempty (List.map_eq_nil_iff.mp same)

/-- The name is made of upper-case ASCII letters, digits and underscores. -/
theorem envName_chars (name : String) :
    ∀ c ∈ (envName name).toList, c.isUpper = true ∨ c.isDigit = true ∨ c = '_' := by
  rw [envName_toList]
  split
  · intro c member
    simp only [List.mem_cons, List.not_mem_nil, or_false] at member
    rcases member with rfl | rfl | rfl | rfl | rfl | rfl <;> exact .inl rfl
  · intro c member
    obtain ⟨d, kept, rfl⟩ := List.mem_map.mp member
    rcases cleanedName_chars name d kept with named | rfl
    · rcases toUpper_of_nameChar named with upper | digit
      · exact .inl upper
      · exact .inr (.inl digit)
    · exact .inr (.inr rfl)

/-- The name starts with the first ASCII letter or digit of the identifier, upper-cased, and with
the `S` of `SECRET` when there is none. -/
theorem envName_head? (name : String) :
    (envName name).toList.head? =
      some (((name.toList.find? isNameChar).map Char.toUpper).getD 'S') := by
  rw [envName_toList, ← head?_cleanedName]
  split
  · rename_i empty
    rw [empty]
    rfl
  · rename_i nonempty
    obtain ⟨c, rest, split⟩ := List.exists_cons_of_ne_nil nonempty
    rw [split]
    rfl

theorem envName_head?_ne (name : String) : (envName name).toList.head? ≠ some '_' := by
  rw [envName_head?]
  intro same
  cases first : name.toList.find? isNameChar with
  | none =>
    rw [first] at same
    exact absurd same (by decide)
  | some c =>
    rw [first] at same
    have named := List.find?_some first
    rw [(toUpper_eq_underscore c).mp (Option.some.inj same)] at named
    exact absurd named (by decide)

theorem envName_getLast?_ne (name : String) : (envName name).toList.getLast? ≠ some '_' := by
  rw [envName_toList]
  split
  · decide
  · rw [List.getLast?_map]
    intro same
    obtain ⟨c, last, upper⟩ := Option.map_eq_some_iff.mp same
    exact getLast?_trimUnderscores _ (((toUpper_eq_underscore c).mp upper) ▸ last)

theorem envName_no_double (name : String) : ¬ ['_', '_'].IsInfix (envName name).toList := by
  have chain : (envName name).toList.IsChain Apart := by
    rw [envName_toList]
    split
    · decide
    · refine List.isChain_map_of_isChain Char.toUpper ?_
        ( List.IsChain.infix (squeezeGaps_apart false _).1 (trimUnderscores_isInfix _))
      intro a b apart upperA
      rw [ne_eq, toUpper_eq_underscore]
      exact apart ((toUpper_eq_underscore a).mp upperA)
  intro double
  exact (List.isChain_cons_cons.mp ( List.IsChain.infix chain double)).1 rfl rfl

/-- The name starts with a digit exactly when the identifier's first ASCII letter or digit is
one. -/
theorem envName_starts_with_digit (name : String) :
    (envName name).toList.head?.any Char.isDigit =
      (name.toList.find? isNameChar).any Char.isDigit := by
  rw [envName_head?]
  cases name.toList.find? isNameChar with
  | none => rfl
  | some c => exact isDigit_toUpper c

example : envName "dbPassword" = "DB_PASSWORD" := by decide

end Name

end SecScan.Proofs.EnvName
