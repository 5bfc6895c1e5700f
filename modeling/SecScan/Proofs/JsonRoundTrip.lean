import Mathlib
import SecScan.Json.Printer
import SecScan.Json.Reader

/-!
Reading back what the printer writes. The compact text of a value, followed by anything that
cannot continue it, reads back as the value (`readsBack_of_readable`) when the value is one the
reader can take (`Readable`): integers of at most 4300 digits, numbers whose text reads back,
strings in which no lone high surrogate stands right before a lone low one, objects without
repeated keys, and arrays and objects nested no deeper than the reader may go. An array or an
object reads back whatever follows it (`readPrefix_render`). For a value without numbers in
floating point, readability is computed (`readableCheck`, sound by `readable_of_check`).

A string literal writes each character in one of four ways (`Escaped`): as itself, as a
backslash and a letter, as one `\u` escape, or as a surrogate pair of escapes. Reading any of
them back adds the character (`readString_escaped`); only the escape of a high surrogate looks
at what follows it, which is why the surrogates of a string must stay apart.
-/

namespace SecScan.Proofs.JsonRoundTrip

open SecScan SecScan.Json

section Escapes

/-- Whether a character stands in for a lone high surrogate. -/
def highStandIn (c : Char) : Bool := (Text.surrogateCode? c).any fun n => n < 0xDC00

/-- Whether a character stands in for a lone low surrogate. -/
def lowStandIn (c : Char) : Bool := (Text.surrogateCode? c).any fun n => 0xDC00 ≤ n

/-- How a string literal writes a character: as itself, as a backslash and a letter, as the `\u`
escape of one code unit, or as the escapes of a surrogate pair. A unit in the surrogate range is
the escape of a stand-in. -/
inductive Escaped : Char → List Char → Prop where
  | plain {c : Char} : c ≠ '"' → c ≠ '\\' → 0x1f < c.toNat → Escaped c [c]
  | short {c e : Char} : e ≠ 'u' → escapeChar? e = some c → Escaped c ['\\', e]
  | unit {c : Char} {n : Nat} : n < 0x10000 → codeChar n = c →
      (0xD800 ≤ n → n ≤ 0xDBFF → highStandIn c = true) →
      (0xDC00 ≤ n → n ≤ 0xDFFF → lowStandIn c = true) →
      Escaped c ('\\' :: 'u' :: (hex4 n).toList)
  | pair {c : Char} {hi lo : Nat} : 0xD800 ≤ hi → hi ≤ 0xDBFF → 0xDC00 ≤ lo → lo ≤ 0xDFFF →
      Char.ofNat (0x10000 + (hi - 0xD800) * 0x400 + (lo - 0xDC00)) = c →
      Escaped c ('\\' :: 'u' :: (hex4 hi).toList ++ '\\' :: 'u' :: (hex4 lo).toList)

theorem toNat_valid (c : Char) : c.toNat < 0xD800 ∨ (0xDFFF < c.toNat ∧ c.toNat < 0x110000) :=
  c.valid

theorem surrogateCode?_eq {c : Char} {n : Nat} (h : Text.surrogateCode? c = some n) :
    0x108000 ≤ c.toNat ∧ c.toNat < 0x108800 ∧ n = c.toNat - 0x108000 + 0xD800 := by
  unfold Text.surrogateCode? at h
  split at h
  · rename_i surrogate
    simp only [Text.isSurrogate, Text.firstStandIn, Text.surrogateCount, Bool.and_eq_true] at surrogate
    have low := of_decide_eq_true surrogate.1
    have high := of_decide_eq_true surrogate.2
    simp only [Option.some.injEq, Text.firstStandIn, Text.firstSurrogate] at h
    omega
  · simp at h

theorem highStandIn_of_code {c : Char} {n : Nat} (code : Text.surrogateCode? c = some n)
    (high : n < 0xDC00) : highStandIn c = true := by
  simp [highStandIn, code, high]

theorem lowStandIn_of_code {c : Char} {n : Nat} (code : Text.surrogateCode? c = some n)
    (low : 0xDC00 ≤ n) : lowStandIn c = true := by
  simp [lowStandIn, code, low]

theorem backslashU_toList : "\\u".toList = ['\\', 'u'] := rfl

theorem unicode_toList (n : Nat) : ("\\u" ++ hex4 n).toList = '\\' :: 'u' :: (hex4 n).toList := by
  rw [String.toList_append, backslashU_toList]
  rfl

theorem pair_toList (a b : Nat) : ("\\u" ++ hex4 a ++ "\\u" ++ hex4 b).toList =
    '\\' :: 'u' :: (hex4 a).toList ++ '\\' :: 'u' :: (hex4 b).toList := by
  simp only [String.toList_append, backslashU_toList, List.cons_append, List.nil_append,
    List.append_assoc]

theorem escapeChar_escaped (c : Char) : Escaped c (escapeChar c).toList := by
  unfold escapeChar
  split
  · exact .short (by decide) rfl
  · exact .short (by decide) rfl
  · exact .short (by decide) rfl
  · exact .short (by decide) rfl
  · exact .short (by decide) rfl
  next _ notQuote notBackslash _ _ _ =>
    dsimp only
    cases code : Text.surrogateCode? c with
    | some n =>
      obtain ⟨above, below, rfl⟩ := surrogateCode?_eq code
      rw [unicode_toList]
      refine .unit (by omega) ?_ (fun _ high => highStandIn_of_code code (by omega))
        (fun low _ => lowStandIn_of_code code (by omega))
      simp only [codeChar, Text.surrogateChar, Text.firstStandIn, Text.firstSurrogate]
      rw [if_pos (by omega),
        show 0x108000 + (c.toNat - 0x108000 + 0xD800 - 0xD800) = c.toNat by omega]
      exact Char.ofNat_toNat c
    | none =>
      have valid := toNat_valid c
      split_ifs with backspace formFeed escaped astral
      · refine .short (e := 'b') (by decide) ?_
        rw [← Char.ofNat_toNat c, backspace]
        rfl
      · refine .short (e := 'f') (by decide) ?_
        rw [← Char.ofNat_toNat c, formFeed]
        rfl
      · rw [unicode_toList]
        refine .unit (by omega) ?_ (fun _ _ => by omega) (fun _ _ => by omega)
        rw [codeChar, if_neg (by omega)]
        exact Char.ofNat_toNat c
      · rw [pair_toList]
        refine .pair (by omega) (by omega) (by omega) (by omega) ?_
        rw [show 0x10000 + (0xD800 + (c.toNat - 65536) / 1024 - 0xD800) * 0x400 +
            (0xDC00 + (c.toNat - 65536) % 1024 - 0xDC00) = c.toNat by omega]
        exact Char.ofNat_toNat c
      · simp only [Char.toString, String.toList_singleton]
        exact .plain notQuote notBackslash (by omega)

end Escapes

section Hex

theorem hexValue?_digit : ∀ v < 16,
    hexValue? (if v < 10 then Char.ofNat (48 + v) else Char.ofNat (87 + v)) = some v := by
  decide

/-- The four digits of a code unit read back as that unit. -/
theorem hex4_chars {n : Nat} (small : n < 0x10000) :
    ∃ a b c d, (hex4 n).toList = [a, b, c, d] ∧ hex4? a b c d = some n := by
  let digit (k : Nat) : Char :=
    if n >>> (4 * k) % 16 < 10 then Char.ofNat (48 + n >>> (4 * k) % 16)
    else Char.ofNat (87 + n >>> (4 * k) % 16)
  refine ⟨digit 3, digit 2, digit 1, digit 0, by simp only [hex4, String.toList_ofList, digit], ?_⟩
  have read (k : Nat) : hexValue? (digit k) = some (n >>> (4 * k) % 16) :=
    hexValue?_digit _ (Nat.mod_lt _ (by decide))
  simp only [hex4?, read, Option.bind_eq_bind, Option.bind_some, Option.pure_def, Option.some.injEq,
    Nat.shiftRight_eq_div_pow, Nat.reduceMul, Nat.reducePow]
  omega

end Hex

/-- Text that does not open with the escape of a low surrogate, and whose opening escape, if
any, is well-formed: after a high surrogate's escape, the reader leaves such text alone. -/
def NoLowEscape (cs : List Char) : Prop :=
  ∀ a b c d rest, cs = '\\' :: 'u' :: a :: b :: c :: d :: rest →
    ∃ n, hex4? a b c d = some n ∧ (n < 0xDC00 ∨ 0xDFFF < n)

section ReadString

variable (begin : Nat)

theorem readString_plain {c : Char} (notQuote : c ≠ '"') (notBackslash : c ≠ '\\')
    (printable : 0x1f < c.toNat) (tail : List Char) (pos : Nat) (acc : List Char) :
    readString begin (c :: tail) pos acc = readString begin tail (pos + 1) (c :: acc) := by
  rw [readString]
  · simp [Nat.not_le.mpr printable]
  all_goals simp_all

theorem readString_short {c e : Char} (notU : e ≠ 'u') (escape : escapeChar? e = some c)
    (tail : List Char) (pos : Nat) (acc : List Char) :
    readString begin ('\\' :: e :: tail) pos acc = readString begin tail (pos + 2) (c :: acc) := by
  rw [readString]
  · simp [escape]
  all_goals simp_all

theorem readString_unit {a b c d : Char} {n : Nat} (hex : hex4? a b c d = some n)
    (after : List Char) (nonempty : after ≠ []) (alone : 0xD800 ≤ n → n ≤ 0xDBFF → NoLowEscape after)
    (pos : Nat) (acc : List Char) :
    readString begin ('\\' :: 'u' :: a :: b :: c :: d :: after) pos acc =
      readString begin after (pos + 6) (codeChar n :: acc) := by
  rw [readString]
  simp only [List.isEmpty_iff, nonempty, if_false, hex]
  split
  · rename_i high
    split
    · rename_i e f g h rest
      obtain ⟨low, read, outside⟩ := alone high.1 high.2.1 e f g h rest rfl
      simp only [read]
      rw [if_neg (by omega)]
    · rfl
  · rfl

theorem readString_pair {a b c d e f g h : Char} {hi lo : Nat} (hexHigh : hex4? a b c d = some hi)
    (hexLow : hex4? e f g h = some lo) (high : 0xD800 ≤ hi ∧ hi ≤ 0xDBFF)
    (low : 0xDC00 ≤ lo ∧ lo ≤ 0xDFFF) (rest : List Char) (nonempty : rest ≠ []) (pos : Nat)
    (acc : List Char) :
    readString begin ('\\' :: 'u' :: a :: b :: c :: d :: '\\' :: 'u' :: e :: f :: g :: h :: rest) pos
      acc = readString begin rest (pos + 12)
        (Char.ofNat (0x10000 + (hi - 0xD800) * 0x400 + (lo - 0xDC00)) :: acc) := by
  have long : rest.length > 0 := List.length_pos_iff.mpr nonempty
  rw [readString]
  simp only [List.isEmpty_cons, Bool.false_eq_true, if_false, hexHigh]
  rw [if_pos ⟨high.1, high.2, by simp only [List.length_cons]; omega⟩]
  simp only [hexLow]
  rw [if_pos low]

/-- Reading a character's escape, when what follows is more text, adds the character. -/
theorem readString_escaped {c : Char} {w : List Char} (escaped : Escaped c w) (tail : List Char)
    (nonempty : tail ≠ []) (apart : highStandIn c = true → NoLowEscape tail) (pos : Nat)
    (acc : List Char) :
    readString begin (w ++ tail) pos acc = readString begin tail (pos + w.length) (c :: acc) := by
  cases escaped with
  | plain notQuote notBackslash printable =>
    exact readString_plain begin notQuote notBackslash printable tail pos acc
  | short notU escape => exact readString_short begin notU escape tail pos acc
  | @unit n small decoded high _ =>
    obtain ⟨a, b, c, d, chars, hex⟩ := hex4_chars small
    simp only [chars, List.cons_append, List.nil_append, List.length_cons, List.length_nil]
    rw [readString_unit begin hex tail nonempty (fun lo hi => apart (high lo hi)), decoded]
  | @pair hi lo highLow highHigh lowLow lowHigh combined =>
    obtain ⟨a, b, c, d, charsHigh, hexHigh⟩ := hex4_chars (show hi < 0x10000 by omega)
    obtain ⟨e, f, g, h, charsLow, hexLow⟩ := hex4_chars (show lo < 0x10000 by omega)
    simp only [charsHigh, charsLow, List.cons_append, List.nil_append, List.length_cons,
      List.length_nil]
    rw [readString_pair begin hexHigh hexLow ⟨highLow, highHigh⟩ ⟨lowLow, lowHigh⟩ tail nonempty,
      combined]

end ReadString

/-- After the escape of a character that is not a low surrogate's stand-in, the reader sees no
low surrogate's escape. -/
theorem noLowEscape_escaped {c : Char} {w : List Char} (escaped : Escaped c w)
    (notLow : lowStandIn c = false) (tail : List Char) : NoLowEscape (w ++ tail) := by
  intro a b d e rest shape
  cases escaped with
  | plain _ notBackslash _ => exact absurd (List.cons.inj shape).1 notBackslash
  | short notU _ => exact absurd (List.cons.inj (List.cons.inj shape).2).1 notU
  | @unit n small _ _ low =>
    obtain ⟨a', b', c', d', chars, hex⟩ := hex4_chars small
    simp only [chars, List.cons_append, List.nil_append, List.cons.injEq] at shape
    obtain ⟨-, -, rfl, rfl, rfl, rfl, -⟩ := shape
    refine ⟨n, hex, ?_⟩
    by_cases inside : 0xDC00 ≤ n ∧ n ≤ 0xDFFF
    · have low := low inside.1 inside.2
      simp [notLow] at low
    · omega
  | @pair hi lo highLow highHigh _ _ _ =>
    obtain ⟨a', b', c', d', chars, hex⟩ := hex4_chars (show hi < 0x10000 by omega)
    simp only [chars, List.cons_append, List.nil_append, List.cons.injEq] at shape
    obtain ⟨-, -, rfl, rfl, rfl, rfl, -⟩ := shape
    exact ⟨hi, hex, .inl (by omega)⟩

/-- Text in which no lone high surrogate stands right before a lone low one: written out, such a
pair would read back as the one character the two encode. -/
def SurrogatesApart (s : List Char) : Prop :=
  s.IsChain fun a b => highStandIn a = true → lowStandIn b = false

instance : DecidablePred SurrogatesApart := fun _ => inferInstanceAs (Decidable (List.IsChain _ _))

/-- The characters of a string literal between its quotes. -/
def escapedBody (s : List Char) : List Char := s.flatMap fun c => (escapeChar c).toList

theorem quote_toList (s : String) : (quote s).toList = '"' :: escapedBody s.toList ++ ['"'] := by
  simp [quote, escapedBody, List.flatMap_map]

theorem readString_body (begin : Nat) (s : List Char) (apart : SurrogatesApart s)
    (rest : List Char) (pos : Nat) (acc : List Char) :
    readString begin (escapedBody s ++ '"' :: rest) pos acc =
      .ok (String.ofList (acc.reverse ++ s), rest, pos + (escapedBody s).length + 1) := by
  induction s generalizing pos acc with
  | nil =>
    rw [escapedBody, List.flatMap_nil, List.nil_append, readString]
    simp
  | cons c s ih =>
    -- the escape of the next character, or the closing quote, follows `c`'s escape
    have next : highStandIn c = true → NoLowEscape (escapedBody s ++ '"' :: rest) := by
      intro high
      cases s with
      | nil => intro _ _ _ _ _ shape; simp [escapedBody] at shape
      | cons d s =>
        have notLow := (List.isChain_cons_cons.mp apart).1 high
        simp only [escapedBody, List.flatMap_cons, List.append_assoc]
        exact noLowEscape_escaped (escapeChar_escaped d) notLow _
    have nonempty : escapedBody s ++ '"' :: rest ≠ [] := by simp
    rw [escapedBody, List.flatMap_cons, List.append_assoc, ← escapedBody,
      readString_escaped begin (escapeChar_escaped c) _ nonempty next, ih apart.tail]
    simp only [List.reverse_cons, List.append_assoc, List.singleton_append, List.length_append]
    rw [Nat.add_assoc pos]


section Numbers

/-- Text that cannot continue a number: it does not open with a digit, a point or an exponent
mark. -/
def NumberEnds (rest : List Char) : Prop :=
  ∀ c tail, rest = c :: tail → isDigitChar c = false ∧ c ≠ '.' ∧ c ≠ 'e' ∧ c ≠ 'E'

theorem isDigitChar_eq_isDigit (c : Char) : isDigitChar c = c.isDigit := by
  simp [isDigitChar, Char.isDigit, Char.le_def]

theorem digitChar_bounds : ∀ n < 10, 0 < n → '1' ≤ Nat.digitChar n ∧ Nat.digitChar n ≤ '9' := by
  decide

/-- The decimal digits of a positive number open with a digit other than zero. -/
theorem toDigits_positive {n : Nat} (positive : 0 < n) :
    ∃ d ds, Nat.toDigits 10 n = d :: ds ∧ '1' ≤ d ∧ d ≤ '9' := by
  induction n using Nat.strongRecOn with
  | ind n ih =>
    rw [Nat.toDigits_eq_if (by decide)]
    split
    · exact ⟨_, [], rfl, digitChar_bounds n ‹_› positive⟩
    · obtain ⟨d, ds, digits, bounds⟩ := ih (n / 10) (by omega) (by omega)
      exact ⟨d, ds ++ _, by rw [digits, List.cons_append], bounds⟩

theorem digitChar_value : ∀ n < 10, (Nat.digitChar n).toNat - '0'.toNat = n := by
  decide

theorem digitsValue_toDigits (n : Nat) : digitsValue (Nat.toDigits 10 n) = n := by
  induction n using Nat.strongRecOn with
  | ind n ih =>
    rw [Nat.toDigits_eq_if (by decide), digitsValue]
    split
    · rename_i small
      simp only [List.foldl_cons, List.foldl_nil, digitChar_value n small]
      omega
    · rw [List.foldl_append, ← digitsValue, ih (n / 10) (by omega)]
      simp only [List.foldl_cons, List.foldl_nil,
        digitChar_value (n % 10) (Nat.mod_lt n (by decide))]
      omega

theorem readExponent_ends {c : Char} {tail : List Char} (ends : NumberEnds (c :: tail)) :
    readExponent (c :: tail) = none := by
  obtain ⟨-, -, notE, notBigE⟩ := ends c tail rfl
  simp [readExponent, notE, notBigE]

-- The facts about the leading digit decide the reader's match on literal characters, a use the
-- unused-argument linter does not see.
set_option linter.unusedSimpArgs false in
/-- Reading the decimal digits of a number, with a minus sign before them if `negative`. -/
theorem readNumber_digits (negative : Bool) (m : Nat) (short : (Nat.toDigits 10 m).length ≤ 4300)
    (rest : List Char) (ends : NumberEnds rest) (pos : Nat) :
    readNumber ((if negative then ['-'] else []) ++ Nat.toDigits 10 m ++ rest) pos =
      .ok (.int (if negative then -(m : Int) else m), rest,
        pos + ((if negative then 1 else 0) + (Nat.toDigits 10 m).length)) := by
  have digits : ∀ c ∈ Nat.toDigits 10 m, isDigitChar c = true := fun c member => by
    rw [isDigitChar_eq_isDigit]
    exact Nat.isDigit_of_mem_toDigits (by decide) (by decide) member
  have taken : List.takeWhile isDigitChar rest = [] := by
    cases rest with
    | nil => rfl
    | cons c tail => exact List.takeWhile_cons_of_neg (by simp [(ends c tail rfl).1])
  rcases Nat.eq_zero_or_pos m with rfl | positive
  · cases rest with
    | nil => cases negative <;> simp [readNumber, readExponent, digitsValue]
    | cons c tail =>
      have notDot := (ends c tail rfl).2.1
      cases negative <;> simp [readNumber, notDot, readExponent_ends ends, digitsValue]
  · obtain ⟨d, ds, split, low, high⟩ := toDigits_positive positive
    have value := digitsValue_toDigits m
    rw [split] at digits short value ⊢
    have minus : d ≠ '-' := fun same => by simp [same] at low
    have zero : d ≠ '0' := fun same => by simp [same] at low
    have leading : isDigitChar d = true := digits d List.mem_cons_self
    have digitsRead : List.takeWhile isDigitChar (ds ++ rest) = ds := by
      rw [List.takeWhile_append_of_pos fun c member => digits c (List.mem_cons_of_mem d member),
        taken, List.append_nil]
    have fits : ¬ 4300 < ds.length + 1 := by
      simp only [List.length_cons] at short
      omega
    cases rest with
    | nil =>
      rw [List.append_nil] at digitsRead
      cases negative
      · simp [readNumber, minus, zero, low, high, leading, digitsRead, value, fits, readExponent]
      · simp [readNumber, minus, zero, low, high, leading, digitsRead, value, fits, readExponent]
        omega
    | cons c tail =>
      have notDot := (ends c tail rfl).2.1
      cases negative
      · simp [readNumber, minus, zero, low, high, leading, digitsRead, value, fits, notDot,
          readExponent_ends ends]
        omega
      · simp [readNumber, minus, zero, low, high, leading, digitsRead, value, fits, notDot,
          readExponent_ends ends]
        omega

theorem toString_int_toList (n : Int) :
    (toString n).toList = (if n < 0 then ['-'] else []) ++ Nat.toDigits 10 n.natAbs := by
  cases n with
  | ofNat m => simp [toString, Int.repr, Nat.repr]
  | negSucc m => simp [toString, Int.repr, Nat.repr, Int.negSucc_lt_zero]

theorem readNumber_int (n : Int) (short : (Nat.toDigits 10 n.natAbs).length ≤ 4300)
    (rest : List Char) (ends : NumberEnds rest) (pos : Nat) :
    readNumber ((toString n).toList ++ rest) pos = .ok (.int n, rest, pos + (toString n).length) := by
  rw [← String.length_toList, toString_int_toList]
  by_cases negative : n < 0
  · have value : -(n.natAbs : Int) = n := by omega
    have read := readNumber_digits true n.natAbs short rest ends pos
    simp only [↓reduceIte, value] at read
    rw [if_pos negative, List.length_append, List.length_singleton]
    exact read
  · have value : (n.natAbs : Int) = n := by omega
    have read := readNumber_digits false n.natAbs short rest ends pos
    simp only [Bool.false_eq_true, ↓reduceIte, value, Nat.zero_add] at read
    rw [if_neg negative, List.nil_append]
    exact read

end Numbers

section Render

mutual

theorem renderTo_eq (out : String) : (v : Json) → renderTo out v = out ++ render v
  | .null | .bool _ | .int _ | .float _ | .str _ => by simp [render, renderTo]
  | .arr items => by
    simp only [render, renderTo]
    rw [renderItemsTo_eq (out ++ "["), renderItemsTo_eq ("" ++ "[")]
    simp only [String.append_assoc, String.empty_append]
  | .obj fields => by
    simp only [render, renderTo]
    rw [renderFieldsTo_eq (out ++ "\x7b"), renderFieldsTo_eq ("" ++ "\x7b")]
    simp only [String.append_assoc, String.empty_append]

theorem renderItemsTo_eq (out : String) : (items : List Json) →
    renderItemsTo out items = out ++ renderItemsTo "" items
  | [] => by simp [renderItemsTo]
  | [v] => by simp only [renderItemsTo]; exact renderTo_eq out v
  | v :: w :: rest => by
    simp only [renderItemsTo]
    rw [renderItemsTo_eq (renderTo out v ++ ", "), renderItemsTo_eq (renderTo "" v ++ ", "),
      renderTo_eq out v]
    simp only [render, String.append_assoc]

theorem renderFieldsTo_eq (out : String) : (fields : List (String × Json)) →
    renderFieldsTo out fields = out ++ renderFieldsTo "" fields
  | [] => by simp [renderFieldsTo]
  | [(k, v)] => by
    simp only [renderFieldsTo]
    rw [renderTo_eq, renderTo_eq ("" ++ quote k ++ ": ")]
    simp only [String.append_assoc, String.empty_append]
  | (k, v) :: f :: rest => by
    simp only [renderFieldsTo]
    rw [renderFieldsTo_eq (renderTo (out ++ quote k ++ ": ") v ++ ", "),
      renderFieldsTo_eq (renderTo ("" ++ quote k ++ ": ") v ++ ", "), renderTo_eq,
      renderTo_eq ("" ++ quote k ++ ": ")]
    simp only [String.append_assoc, String.empty_append]

end

theorem layout_head? (ds : String) (point low high : Int) (pointZero : Bool) {d : Char}
    {rest : List Char} (digits : ds.toList = d :: rest) :
    (Decimal.layout ds point low high pointZero).toList.head? = some '0' ∨
      (Decimal.layout ds point low high pointZero).toList.head? = some d := by
  unfold Decimal.layout
  by_cases window : low < point ∧ point ≤ high
  · rw [if_pos window]
    by_cases nonpositive : point ≤ 0
    · left
      simp [nonpositive]
    · right
      rw [if_neg nonpositive]
      by_cases whole : point.toNat ≥ ds.toList.length
      · rw [if_pos whole]
        simp [digits]
      · rw [if_neg whole]
        obtain ⟨k, hk⟩ : ∃ k, point.toNat = k + 1 := ⟨point.toNat - 1, by omega⟩
        simp [hk, digits]
  · right
    rw [if_neg window]
    simp [digits]

theorem digitsText_head? (n : Nat) : ∃ d rest, (Decimal.digitsText n).toList = d :: rest ∧
    isDigitChar d = true := by
  obtain ⟨d, rest, digits⟩ : ∃ d rest, Nat.toDigits 10 n = d :: rest := by
    rw [Nat.toDigits_eq_if (by decide)]
    split
    · exact ⟨_, _, rfl⟩
    · exact List.exists_cons_of_ne_nil (by simp)
  refine ⟨d, rest, by simp [Decimal.digitsText, digits], ?_⟩
  rw [isDigitChar_eq_isDigit]
  exact Nat.isDigit_of_mem_toDigits (b := 10) (n := n) (by decide) (by decide) (by simp [digits])

/-- The text of a number opens with a sign, a digit, or the first letter of `NaN` or
`Infinity`. -/
theorem floatText_head? (x : Binary64) : ∃ c, (floatText x).toList.head? = some c ∧
    (c = '-' ∨ c = 'N' ∨ c = 'I' ∨ isDigitChar c = true) := by
  cases x with
  | nan => exact ⟨'N', by simp [floatText], by simp⟩
  | infinity negative =>
    cases negative
    · exact ⟨'I', by simp [floatText], by simp⟩
    · exact ⟨'-', by simp [floatText], by simp⟩
  | finite negative m e =>
    cases negative
    · simp only [floatText, Binary64.toText]
      by_cases zero : m = 0
      · exact ⟨'0', by simp [zero], by decide⟩
      · obtain ⟨d, rest, digits, digit⟩ := digitsText_head? (Decimal.shortest m e).1
        rcases layout_head? _ (↑(Decimal.digitsText (Decimal.shortest m e).fst).length +
          (Decimal.shortest m e).snd) (-4) 16 true digits with head | head
        · exact ⟨'0', by simpa [zero] using head, by decide⟩
        · exact ⟨d, by simpa [zero] using head, by simp [digit]⟩
    · refine ⟨'-', ?_, by simp⟩
      simp only [floatText, Binary64.toText]
      split <;> simp

theorem digit_bounds {c : Char} (digit : isDigitChar c = true) : 48 ≤ c.toNat ∧ c.toNat ≤ 57 := by
  unfold isDigitChar at digit
  simp only [Bool.and_eq_true, decide_eq_true_eq, Char.le_def, UInt32.le_iff_toNat_le] at digit
  exact digit

theorem digit_ne {c : Char} (digit : isDigitChar c = true) {d : Char}
    (outside : d.toNat < 48 ∨ 57 < d.toNat) : c ≠ d := by
  rintro rfl
  have := digit_bounds digit
  omega

/-- A digit is read as the start of a number. -/
theorem readValue_digit {c : Char} (digit : isDigitChar c = true) (fuel room : Nat)
    (cs : List Char) (pos : Nat) :
    readValue (fuel + 1) room (c :: cs) pos = readNumber (c :: cs) pos := by
  simp [readValue, digit_ne digit (d := '"') (by decide), digit_ne digit (d := '\x7b') (by decide),
    digit_ne digit (d := '[') (by decide), digit_ne digit (d := 'n') (by decide),
    digit_ne digit (d := 't') (by decide), digit_ne digit (d := 'f') (by decide),
    digit_ne digit (d := 'N') (by decide), digit_ne digit (d := 'I') (by decide),
    digit_ne digit (d := '-') (by decide)]

/-- A minus sign before a digit is read as the start of a number. -/
theorem readValue_minus {c : Char} (digit : isDigitChar c = true) (fuel room : Nat)
    (cs : List Char) (pos : Nat) :
    readValue (fuel + 1) room ('-' :: c :: cs) pos = readNumber ('-' :: c :: cs) pos := by
  simp [readValue, digit_ne digit (d := 'I') (by decide)]

end Render

section Containers

theorem render_arr_toList (items : List Json) :
    (render (.arr items)).toList = '[' :: (renderItemsTo "" items).toList ++ [']'] := by
  simp only [render, renderTo]
  rw [renderItemsTo_eq]
  simp

theorem render_obj_toList (fields : List (String × Json)) :
    (render (.obj fields)).toList = '\x7b' :: (renderFieldsTo "" fields).toList ++ ['\x7d'] := by
  simp only [render, renderTo]
  rw [renderFieldsTo_eq]
  simp

theorem renderItemsTo_single (v : Json) : renderItemsTo "" [v] = render v := rfl

theorem renderItemsTo_cons_cons (v w : Json) (rest : List Json) :
    renderItemsTo "" (v :: w :: rest) = render v ++ ", " ++ renderItemsTo "" (w :: rest) := by
  rw [renderItemsTo, renderItemsTo_eq, render]
  exact List.cons_ne_nil w rest

theorem renderFieldsTo_single (k : String) (v : Json) :
    renderFieldsTo "" [(k, v)] = quote k ++ ": " ++ render v := by
  rw [renderFieldsTo, renderTo_eq, String.empty_append]

theorem renderFieldsTo_cons_cons (k : String) (v : Json) (f : String × Json)
    (rest : List (String × Json)) :
    renderFieldsTo "" ((k, v) :: f :: rest) =
      quote k ++ ": " ++ render v ++ ", " ++ renderFieldsTo "" (f :: rest) := by
  rw [renderFieldsTo, renderFieldsTo_eq, renderTo_eq, String.empty_append]
  exact List.cons_ne_nil f rest

theorem skipBlanks_of_not_blank {c : Char} (notBlank : isJsonBlank c = false) (cs : List Char)
    (pos : Nat) : skipBlanks (c :: cs) pos = (c :: cs, pos) := by
  simp [skipBlanks, notBlank]

theorem skipBlanks_space (cs : List Char) (pos : Nat) :
    skipBlanks (' ' :: cs) pos = skipBlanks cs (pos + 1) := rfl

theorem setField_new {fields : List (String × Json)} {key : String}
    (fresh : key ∉ fields.map Prod.fst) (value : Json) :
    setField fields key value = fields ++ [(key, value)] := by
  rw [setField, if_neg]
  simpa using fresh

/-- What may open the text of a value inside an array or an object. -/
def Opens (c : Char) : Prop := isJsonBlank c = false ∧ c ≠ ']' ∧ c ≠ '\x7d'

instance : DecidablePred Opens := fun _ => inferInstanceAs (Decidable (_ ∧ _ ∧ _))

theorem digit_opens {c : Char} (digit : isDigitChar c = true) : Opens c := by
  refine ⟨?_, digit_ne digit (by decide), digit_ne digit (by decide)⟩
  simp [isJsonBlank, digit_ne digit (d := ' ') (by decide), digit_ne digit (d := '\t') (by decide),
    digit_ne digit (d := '\n') (by decide), digit_ne digit (d := '\r') (by decide)]

theorem toDigits_head? (n : Nat) : ∃ d, (Nat.toDigits 10 n).head? = some d ∧ isDigitChar d = true := by
  obtain ⟨d, rest, digits, digit⟩ := digitsText_head? n
  refine ⟨d, ?_, digit⟩
  simp only [Decimal.digitsText, String.toList_ofList] at digits
  simp [digits]

theorem render_head? (v : Json) : ∃ c, (render v).toList.head? = some c ∧ Opens c := by
  cases v with
  | null => exact ⟨'n', by simp [render, renderTo], by decide⟩
  | bool b =>
    cases b
    · exact ⟨'f', by simp [render, renderTo], by decide⟩
    · exact ⟨'t', by simp [render, renderTo], by decide⟩
  | int n =>
    obtain ⟨d, head, digit⟩ := toDigits_head? n.natAbs
    have text : (render (.int n)).toList =
        (if n < 0 then ['-'] else []) ++ Nat.toDigits 10 n.natAbs := by
      simp only [render, renderTo, String.empty_append]
      exact toString_int_toList n
    rw [text]
    by_cases negative : n < 0
    · exact ⟨'-', by simp [negative], by decide⟩
    · exact ⟨d, by simpa [negative] using head, digit_opens digit⟩
  | float x =>
    obtain ⟨c, head, kind⟩ := floatText_head? x
    refine ⟨c, by simpa [render, renderTo] using head, ?_⟩
    rcases kind with rfl | rfl | rfl | digit
    · decide
    · decide
    · decide
    · exact digit_opens digit
  | str s => exact ⟨'"', by simp [render, renderTo, quote_toList], by decide⟩
  | arr items => exact ⟨'[', by simp [render_arr_toList], by decide⟩
  | obj fields => exact ⟨'\x7b', by simp [render_obj_toList], by decide⟩

/-- The text of every value opens with a character that is no blank and closes nothing. -/
theorem render_opens (v : Json) : ∃ c cs, (render v).toList = c :: cs ∧ Opens c := by
  obtain ⟨c, head, opens⟩ := render_head? v
  obtain ⟨cs, text⟩ := List.head?_eq_some_iff.mp head
  exact ⟨c, cs, text, opens⟩

theorem renderItemsTo_opens (w : Json) (rest : List Json) :
    ∃ c cs, (renderItemsTo "" (w :: rest)).toList = c :: cs ∧ Opens c := by
  obtain ⟨c, cs, text, opens⟩ := render_opens w
  cases rest with
  | nil => exact ⟨c, cs, text, opens⟩
  | cons x rest =>
    refine ⟨c, cs ++ (", " ++ renderItemsTo "" (x :: rest)).toList, ?_, opens⟩
    rw [renderItemsTo_cons_cons, String.append_assoc, String.toList_append, text, List.cons_append]

end Containers

section Reading

theorem comma_toList : ", ".toList = [',', ' '] := rfl

theorem colon_toList : ": ".toList = [':', ' '] := rfl

theorem numberEnds_cons {c : Char} (closes : c = ',' ∨ c = ']' ∨ c = '\x7d') (tail : List Char) :
    NumberEnds (c :: tail) := by
  rintro c' tail' same
  obtain ⟨rfl, -⟩ := List.cons.inj same
  rcases closes with rfl | rfl | rfl <;> decide

/-- Reading the text of `v` gives `v` back, leaving whatever follows that cannot continue a
number. -/
def ReadsBack (room : Nat) (v : Json) : Prop :=
  ∀ fuel rest pos, (render v).length ≤ fuel → NumberEnds rest →
    readValue fuel room ((render v).toList ++ rest) pos = .ok (v, rest, pos + (render v).length)

/-- The last item, written out before the closing bracket, ends the array. -/
theorem readItems_last {room : Nat} {v : Json} (reads : ReadsBack room v) (g : Nat)
    (enough : (render v).length ≤ g) (rest : List Char) (pos : Nat) (acc : List Json) :
    readItems (g + 1) room ((render v).toList ++ ']' :: rest) pos acc =
      .ok (.arr (v :: acc).reverse, rest, pos + (render v).length + 1) := by
  simp only [readItems, reads g (']' :: rest) pos enough (numberEnds_cons (by decide) rest),
    skipBlanks_of_not_blank (c := ']') (by decide)]

/-- An item followed by a comma and a blank is read, and the reader goes on with what follows. -/
theorem readItems_next {room : Nat} {v : Json} (reads : ReadsBack room v) (g : Nat)
    (enough : (render v).length ≤ g) {c : Char} (notBlank : isJsonBlank c = false)
    (cs : List Char) (pos : Nat) (acc : List Json) :
    readItems (g + 1) room ((render v).toList ++ ',' :: ' ' :: c :: cs) pos acc =
      readItems g room (c :: cs) (pos + (render v).length + 2) (v :: acc) := by
  simp only [readItems, reads g (',' :: ' ' :: c :: cs) pos enough (numberEnds_cons (by decide) _),
    skipBlanks_of_not_blank (c := ',') (by decide), skipBlanks_space,
    skipBlanks_of_not_blank notBlank]

/-- The items of an array, each reading back, are read back after its opening bracket. -/
theorem readItems_render {room : Nat} (items : List Json) (nonempty : items ≠ [])
    (reads : ∀ v ∈ items, ReadsBack room v) (fuel : Nat)
    (enough : (renderItemsTo "" items).length + 1 ≤ fuel) (rest : List Char) (pos : Nat)
    (acc : List Json) :
    readItems fuel room ((renderItemsTo "" items).toList ++ ']' :: rest) pos acc =
      .ok (.arr (acc.reverse ++ items), rest, pos + (renderItemsTo "" items).length + 1) := by
  induction items generalizing fuel pos acc with
  | nil => exact absurd rfl nonempty
  | cons v others ih =>
    obtain ⟨g, rfl⟩ : ∃ g, fuel = g + 1 := ⟨fuel - 1, by omega⟩
    have value := reads v List.mem_cons_self
    cases others with
    | nil =>
      rw [renderItemsTo_single] at enough ⊢
      rw [readItems_last value g (by omega) rest pos acc]
      simp
    | cons w others =>
      have split := renderItemsTo_cons_cons v w others
      have length : (renderItemsTo "" (v :: w :: others)).length =
          (render v).length + 2 + (renderItemsTo "" (w :: others)).length := by
        rw [← String.length_toList, ← String.length_toList, ← String.length_toList, split,
          String.toList_append, String.toList_append, comma_toList]
        simp only [List.length_append, List.length_cons, List.length_nil]
      rw [length] at enough ⊢
      obtain ⟨c, cs, text, notBlank, -⟩ := renderItemsTo_opens w others
      have more := ih (List.cons_ne_nil w others)
        (fun u member => reads u (List.mem_cons_of_mem v member)) g (by omega)
        (pos + (render v).length + 2) (v :: acc)
      rw [text, List.cons_append] at more
      rw [split, String.toList_append, String.toList_append, comma_toList, text, List.append_assoc,
        List.append_assoc, List.cons_append, List.cons_append, List.nil_append, List.cons_append,
        readItems_next value g (by omega) notBlank, more]
      simp only [List.reverse_cons, List.append_assoc, List.singleton_append]
      congr 3
      omega

theorem field_toList (k : String) (v : Json) (after : List Char) :
    (quote k ++ ": " ++ render v).toList ++ after =
      '"' :: (escapedBody k.toList ++ '"' :: ':' :: ' ' :: ((render v).toList ++ after)) := by
  simp [String.toList_append, quote_toList, colon_toList]

theorem field_length (k : String) (v : Json) :
    (quote k ++ ": " ++ render v).length = (escapedBody k.toList).length + 4 + (render v).length := by
  rw [← String.length_toList, ← List.append_nil (quote k ++ ": " ++ render v).toList, field_toList]
  simp only [List.length_cons, List.length_append, List.length_nil, String.length_toList]
  omega

theorem renderFieldsTo_opens (field : String × Json) (others : List (String × Json)) :
    ∃ name, (renderFieldsTo "" (field :: others)).toList = '"' :: name := by
  obtain ⟨k, v⟩ := field
  cases others with
  | nil =>
    refine ⟨escapedBody k.toList ++ '"' :: ':' :: ' ' :: ((render v).toList ++ []), ?_⟩
    rw [renderFieldsTo_single, ← field_toList, List.append_nil]
  | cons f others =>
    refine ⟨escapedBody k.toList ++ '"' :: ':' :: ' ' ::
      ((render v).toList ++ (", " ++ renderFieldsTo "" (f :: others)).toList), ?_⟩
    rw [renderFieldsTo_cons_cons, String.append_assoc, String.toList_append, field_toList]

section Field

variable {room : Nat} {k : String} {v : Json} {acc : List (String × Json)}

/-- The last field, written out before the closing brace, is read and set, and ends the object. -/
theorem readFields_last (apart : SurrogatesApart k.toList) (reads : ReadsBack room v)
    (fresh : k ∉ acc.map Prod.fst) (g : Nat) (enough : (render v).length ≤ g) (rest : List Char)
    (pos : Nat) :
    readFields (g + 1) room ((quote k ++ ": " ++ render v).toList ++ '\x7d' :: rest) pos acc =
      .ok (.obj (acc ++ [(k, v)]), rest, pos + (quote k ++ ": " ++ render v).length + 1) := by
  have key := readString_body pos k.toList apart
  obtain ⟨c, cs, text, notBlank, -⟩ := render_opens v
  have value := reads g ('\x7d' :: rest) (pos + (escapedBody k.toList).length + 4) enough
    (numberEnds_cons (by decide) rest)
  rw [text, List.cons_append] at value
  rw [field_toList, text, List.cons_append, field_length]
  simp only [readFields, key, String.ofList_toList, List.reverse_nil, List.nil_append,
    skipBlanks_of_not_blank (c := ':') (by decide), skipBlanks_space,
    skipBlanks_of_not_blank notBlank]
  rw [show pos + 1 + (escapedBody k.toList).length + 1 + 1 + 1 =
    pos + (escapedBody k.toList).length + 4 by omega, value]
  simp only [setField_new fresh, skipBlanks_of_not_blank (c := '\x7d') (by decide), Nat.add_assoc]

/-- A field followed by a comma and a blank is read and set, and the reader goes on with the next
field's name. -/
theorem readFields_next (apart : SurrogatesApart k.toList) (reads : ReadsBack room v)
    (fresh : k ∉ acc.map Prod.fst) (g : Nat) (enough : (render v).length ≤ g) (name : List Char)
    (pos : Nat) :
    readFields (g + 1) room ((quote k ++ ": " ++ render v).toList ++ ',' :: ' ' :: '"' :: name) pos
        acc =
      readFields g room ('"' :: name) (pos + (quote k ++ ": " ++ render v).length + 2)
        (acc ++ [(k, v)]) := by
  have key := readString_body pos k.toList apart
  obtain ⟨c, cs, text, notBlank, -⟩ := render_opens v
  have value := reads g (',' :: ' ' :: '"' :: name) (pos + (escapedBody k.toList).length + 4)
    enough (numberEnds_cons (by decide) _)
  rw [text, List.cons_append] at value
  rw [field_toList, text, List.cons_append, field_length]
  simp only [readFields, key, String.ofList_toList, List.reverse_nil, List.nil_append,
    skipBlanks_of_not_blank (c := ':') (by decide), skipBlanks_space,
    skipBlanks_of_not_blank notBlank]
  rw [show pos + 1 + (escapedBody k.toList).length + 1 + 1 + 1 =
    pos + (escapedBody k.toList).length + 4 by omega, value]
  simp only [setField_new fresh, skipBlanks_of_not_blank (c := ',') (by decide), skipBlanks_space,
    skipBlanks_of_not_blank (c := '"') (by decide)]
  rw [show pos + (escapedBody k.toList).length + 4 + (render v).length + 1 + 1 =
    pos + ((escapedBody k.toList).length + 4 + (render v).length) + 2 by omega]

end Field

/-- The fields of an object, each key written apart from its surrogates and each value reading
back, are read back after its opening brace, provided no key repeats one read before. -/
theorem readFields_render {room : Nat} (fields : List (String × Json)) (nonempty : fields ≠ [])
    (keys : ∀ f ∈ fields, SurrogatesApart f.1.toList) (reads : ∀ f ∈ fields, ReadsBack room f.2)
    (acc : List (String × Json)) (distinct : ((acc ++ fields).map Prod.fst).Nodup) (fuel : Nat)
    (enough : (renderFieldsTo "" fields).length + 1 ≤ fuel) (rest : List Char) (pos : Nat) :
    readFields fuel room ((renderFieldsTo "" fields).toList ++ '\x7d' :: rest) pos acc =
      .ok (.obj (acc ++ fields), rest, pos + (renderFieldsTo "" fields).length + 1) := by
  induction fields generalizing fuel pos acc with
  | nil => exact absurd rfl nonempty
  | cons field others ih =>
    obtain ⟨k, v⟩ := field
    obtain ⟨g, rfl⟩ : ∃ g, fuel = g + 1 := ⟨fuel - 1, by omega⟩
    have fresh : k ∉ acc.map Prod.fst := by
      intro member
      simp only [List.map_append, List.map_cons, List.nodup_append] at distinct
      exact distinct.2.2 k member k List.mem_cons_self rfl
    have apart := keys (k, v) List.mem_cons_self
    have value := reads (k, v) List.mem_cons_self
    cases others with
    | nil =>
      rw [renderFieldsTo_single] at enough ⊢
      rw [field_length] at enough
      exact readFields_last apart value fresh g (by simp only at ⊢; omega) rest pos
    | cons field others =>
      have split : (renderFieldsTo "" ((k, v) :: field :: others)).toList ++ '\x7d' :: rest =
          (quote k ++ ": " ++ render v).toList ++
            ',' :: ' ' :: ((renderFieldsTo "" (field :: others)).toList ++ '\x7d' :: rest) := by
        rw [renderFieldsTo_cons_cons, String.toList_append, String.toList_append, comma_toList]
        simp
      have length : (renderFieldsTo "" ((k, v) :: field :: others)).length =
          (quote k ++ ": " ++ render v).length + 2 + (renderFieldsTo "" (field :: others)).length := by
        rw [← String.length_toList, ← String.length_toList, ← String.length_toList,
          renderFieldsTo_cons_cons, String.toList_append, String.toList_append, comma_toList]
        simp only [List.length_append, List.length_cons, List.length_nil]
      rw [length] at enough ⊢
      obtain ⟨name, next⟩ := renderFieldsTo_opens field others
      have more := ih (List.cons_ne_nil field others)
        (fun f member => keys f (List.mem_cons_of_mem _ member))
        (fun f member => reads f (List.mem_cons_of_mem _ member)) (acc ++ [(k, v)])
        (by simpa using distinct) g (by omega) (pos + (quote k ++ ": " ++ render v).length + 2)
      rw [next, List.cons_append] at more
      rw [split, next, List.cons_append, readFields_next apart value fresh g
        (by rw [field_length] at enough; simp only at ⊢; omega), more]
      simp only [List.append_assoc, List.singleton_append]
      congr 3
      omega

/-- An array whose items read back reads back, whatever follows it. -/
theorem readValue_arr {room : Nat} {items : List Json} (reads : ∀ v ∈ items, ReadsBack room v)
    (fuel : Nat) (enough : (render (.arr items)).length ≤ fuel) (rest : List Char) (pos : Nat) :
    readValue fuel (room + 1) ((render (.arr items)).toList ++ rest) pos =
      .ok (.arr items, rest, pos + (render (.arr items)).length) := by
  have length : (render (.arr items)).length = (renderItemsTo "" items).length + 2 := by
    rw [← String.length_toList, render_arr_toList, ← String.length_toList]
    simp
  rw [length] at enough ⊢
  obtain ⟨g, rfl⟩ : ∃ g, fuel = g + 1 := ⟨fuel - 1, by omega⟩
  simp only [render_arr_toList, List.cons_append, List.append_assoc, List.nil_append]
  cases items with
  | nil => simp [readValue, renderItemsTo, skipBlanks, isJsonBlank]
  | cons w others =>
    obtain ⟨c, cs, text, notBlank, notClosing, -⟩ := renderItemsTo_opens w others
    have items := readItems_render (w :: others) (List.cons_ne_nil w others) reads g (by omega) rest
      (pos + 1) []
    rw [text, List.cons_append] at items ⊢
    simp only [readValue, skipBlanks_of_not_blank notBlank]
    split
    · rename_i closing
      exact absurd (List.cons.inj (Prod.mk.inj closing).1).1 notClosing
    · rename_i opened
      obtain ⟨rfl, rfl⟩ := Prod.mk.inj opened
      rw [items]
      simp only [List.reverse_nil, List.nil_append]
      congr 3
      omega

/-- An object whose keys are written apart from their surrogates, are distinct, and whose values
read back reads back, whatever follows it. -/
theorem readValue_obj {room : Nat} {fields : List (String × Json)}
    (distinct : (fields.map Prod.fst).Nodup) (keys : ∀ f ∈ fields, SurrogatesApart f.1.toList)
    (reads : ∀ f ∈ fields, ReadsBack room f.2) (fuel : Nat)
    (enough : (render (.obj fields)).length ≤ fuel) (rest : List Char) (pos : Nat) :
    readValue fuel (room + 1) ((render (.obj fields)).toList ++ rest) pos =
      .ok (.obj fields, rest, pos + (render (.obj fields)).length) := by
  have length : (render (.obj fields)).length = (renderFieldsTo "" fields).length + 2 := by
    rw [← String.length_toList, render_obj_toList, ← String.length_toList]
    simp
  rw [length] at enough ⊢
  obtain ⟨g, rfl⟩ : ∃ g, fuel = g + 1 := ⟨fuel - 1, by omega⟩
  simp only [render_obj_toList, List.cons_append, List.append_assoc, List.nil_append]
  cases fields with
  | nil => simp [readValue, renderFieldsTo, skipBlanks, isJsonBlank]
  | cons field others =>
    obtain ⟨name, text⟩ := renderFieldsTo_opens field others
    have read := readFields_render (field :: others) (List.cons_ne_nil field others) keys reads []
      (by simpa using distinct) g (by omega) rest (pos + 1)
    rw [text, List.cons_append] at read ⊢
    simp only [readValue, skipBlanks_of_not_blank (c := '"') (by decide)]
    split
    · rename_i closing
      exact absurd (List.cons.inj (Prod.mk.inj closing).1).1 (by decide)
    · rename_i opened
      obtain ⟨rfl, rfl⟩ := Prod.mk.inj opened
      rw [read]
      simp only [List.nil_append]
      congr 3
      omega

end Reading

section Readable

/-- Reading the text of a number, followed by what cannot continue it, gives the number back. -/
def FloatReads (x : Binary64) : Prop :=
  ∀ fuel room rest pos, NumberEnds rest →
    readValue (fuel + 1) room ((floatText x).toList ++ rest) pos =
      .ok (.float x, rest, pos + (floatText x).length)

/-- What reading asks of a value written out: integers of at most 4300 digits, numbers that read
back, strings whose lone surrogates do not pair up, objects without repeated keys, and arrays and
objects nested at most `room` deep. -/
inductive Readable : Nat → Json → Prop where
  | null {room : Nat} : Readable room .null
  | bool {room : Nat} (b : Bool) : Readable room (.bool b)
  | int {room : Nat} {n : Int} : (Nat.toDigits 10 n.natAbs).length ≤ 4300 → Readable room (.int n)
  | float {room : Nat} {x : Binary64} : FloatReads x → Readable room (.float x)
  | str {room : Nat} {s : String} : SurrogatesApart s.toList → Readable room (.str s)
  | arr {room : Nat} {items : List Json} : (∀ v ∈ items, Readable room v) →
      Readable (room + 1) (.arr items)
  | obj {room : Nat} {fields : List (String × Json)} : (fields.map Prod.fst).Nodup →
      (∀ f ∈ fields, SurrogatesApart f.1.toList) → (∀ f ∈ fields, Readable room f.2) →
      Readable (room + 1) (.obj fields)

mutual

/-- Whether a value holding no floats is readable within a room, computed. -/
def readableCheck : Nat → Json → Bool
  | _, .null => true
  | _, .bool _ => true
  | _, .int n => decide ((Nat.toDigits 10 n.natAbs).length ≤ 4300)
  | _, .float _ => false
  | _, .str s => decide (SurrogatesApart s.toList)
  | room + 1, .arr items => itemsReadable room items
  | room + 1, .obj fields => decide (fields.map Prod.fst).Nodup && fieldsReadable room fields
  | 0, .arr _ => false
  | 0, .obj _ => false

/-- Whether every item of an array is readable within a room. -/
def itemsReadable (room : Nat) : List Json → Bool
  | [] => true
  | v :: rest => readableCheck room v && itemsReadable room rest

/-- Whether every key of an object reads back and every value is readable within a room. -/
def fieldsReadable (room : Nat) : List (String × Json) → Bool
  | [] => true
  | (k, v) :: rest =>
    decide (SurrogatesApart k.toList) && readableCheck room v && fieldsReadable room rest

end

mutual

/-- The computed check is sound: a value it passes is readable. -/
theorem readable_of_check : ∀ {room : Nat} {v : Json}, readableCheck room v = true →
    Readable room v
  | _, .null, _ => .null
  | _, .bool b, _ => .bool b
  | _, .int _, checked => .int (by simpa [readableCheck] using checked)
  | _, .float _, checked => by simp [readableCheck] at checked
  | _, .str _, checked => .str (by simpa [readableCheck] using checked)
  | _ + 1, .arr _, checked => .arr (items_readable_of_check checked)
  | _ + 1, .obj _, checked => by
    simp only [readableCheck, Bool.and_eq_true, decide_eq_true_eq] at checked
    obtain ⟨keys, apart⟩ := fields_readable_of_check checked.2
    exact .obj checked.1 keys apart
  | 0, .arr _, checked => by simp [readableCheck] at checked
  | 0, .obj _, checked => by simp [readableCheck] at checked
termination_by structural _ v => v

theorem items_readable_of_check {room : Nat} : ∀ {items : List Json},
    itemsReadable room items = true → ∀ v ∈ items, Readable room v
  | [], _ => fun _ member => absurd member List.not_mem_nil
  | _ :: _, checked => by
    simp only [itemsReadable, Bool.and_eq_true] at checked
    -- the recursive calls come before the head is substituted, to stay structural
    have first := readable_of_check checked.1
    have others := items_readable_of_check checked.2
    intro w member
    rcases List.mem_cons.mp member with rfl | member
    · exact first
    · exact others w member
termination_by structural items => items

theorem fields_readable_of_check {room : Nat} : ∀ {fields : List (String × Json)},
    fieldsReadable room fields = true →
      (∀ f ∈ fields, SurrogatesApart f.1.toList) ∧ ∀ f ∈ fields, Readable room f.2
  | [], _ =>
    ⟨fun _ member => absurd member List.not_mem_nil, fun _ member => absurd member List.not_mem_nil⟩
  | (_, _) :: _, checked => by
    simp only [fieldsReadable, Bool.and_eq_true, decide_eq_true_eq] at checked
    obtain ⟨⟨key, value⟩, rest⟩ := checked
    have first := readable_of_check value
    obtain ⟨keys, values⟩ := fields_readable_of_check rest
    refine ⟨fun f member => ?_, fun f member => ?_⟩
    · rcases List.mem_cons.mp member with rfl | member
      · exact key
      · exact keys f member
    · rcases List.mem_cons.mp member with rfl | member
      · exact first
      · exact values f member
termination_by structural fields => fields

end

example : Readable 2 (.arr [.obj [("line", .int 1), ("type", .str "Open Redirect")]]) :=
  readable_of_check (by decide)

theorem null_toList : "null".toList = ['n', 'u', 'l', 'l'] := rfl

theorem true_toList : "true".toList = ['t', 'r', 'u', 'e'] := rfl

theorem false_toList : "false".toList = ['f', 'a', 'l', 's', 'e'] := rfl

theorem render_length_pos (v : Json) : 0 < (render v).length := by
  obtain ⟨c, cs, text, -⟩ := render_opens v
  rw [← String.length_toList, text]
  simp

/-- Every readable value reads back from its text. -/
theorem readsBack_of_readable {room : Nat} {v : Json} (readable : Readable room v) :
    ReadsBack room v := by
  induction readable with
  | null =>
    intro fuel rest pos enough _
    obtain ⟨g, rfl⟩ : ∃ g, fuel = g + 1 :=
      ⟨fuel - 1, by have := render_length_pos .null; omega⟩
    rw [← String.length_toList]
    simp [render, renderTo, null_toList, readValue]
  | bool b =>
    intro fuel rest pos enough _
    obtain ⟨g, rfl⟩ : ∃ g, fuel = g + 1 :=
      ⟨fuel - 1, by have := render_length_pos (.bool b); omega⟩
    rw [← String.length_toList]
    cases b <;> simp [render, renderTo, true_toList, false_toList, readValue]
  | @int room n short =>
    intro fuel rest pos enough ends
    obtain ⟨g, rfl⟩ : ∃ g, fuel = g + 1 :=
      ⟨fuel - 1, by have := render_length_pos (.int n); omega⟩
    have text : render (.int n) = toString n := by simp [render, renderTo]
    rw [text, ← readNumber_int n short rest ends pos, toString_int_toList]
    obtain ⟨d, head, digit⟩ := toDigits_head? n.natAbs
    obtain ⟨ds, digits⟩ := List.head?_eq_some_iff.mp head
    rw [digits]
    by_cases negative : n < 0
    · simp only [negative, if_true, List.cons_append, List.nil_append]
      exact readValue_minus digit g room _ pos
    · simp only [negative, if_false, List.cons_append, List.nil_append]
      exact readValue_digit digit g room _ pos
  | @float room x reads =>
    intro fuel rest pos enough ends
    obtain ⟨g, rfl⟩ : ∃ g, fuel = g + 1 :=
      ⟨fuel - 1, by have := render_length_pos (.float x); omega⟩
    have text : render (.float x) = floatText x := by simp [render, renderTo]
    rw [text]
    exact reads g room rest pos ends
  | @str room s apart =>
    intro fuel rest pos enough _
    obtain ⟨g, rfl⟩ : ∃ g, fuel = g + 1 :=
      ⟨fuel - 1, by have := render_length_pos (.str s); omega⟩
    have text : render (.str s) = quote s := by simp [render, renderTo]
    rw [text, ← String.length_toList, quote_toList]
    simp only [List.cons_append, List.append_assoc, readValue,
      readString_body pos s.toList apart rest (pos + 1) [], List.reverse_nil, List.nil_append,
      String.ofList_toList, List.length_cons, List.length_append, List.length_nil]
    congr 3
    omega
  | arr _ ih => exact fun fuel rest pos enough _ => readValue_arr ih fuel enough rest pos
  | obj distinct keys _ ih =>
    exact fun fuel rest pos enough _ => readValue_obj distinct keys ih fuel enough rest pos

/-- An array or an object the reader can take reads back from its text, whatever follows it. -/
theorem readPrefix_render {room : Nat} {v : Json} (readable : Readable room v)
    (container : (∃ items, v = .arr items) ∨ ∃ fields, v = .obj fields) (rest : List Char) :
    readPrefix room ((render v).toList ++ rest) 0 = .ok (v, rest, (render v).length) := by
  have enough : (render v).length ≤ 2 * ((render v).toList ++ rest).length + 4 := by
    simp only [List.length_append, String.length_toList]
    omega
  rw [readPrefix, ← Nat.zero_add (render v).length]
  rcases container with ⟨items, rfl⟩ | ⟨fields, rfl⟩
  · cases readable with
    | arr each =>
      exact readValue_arr (fun v member => readsBack_of_readable (each v member)) _ enough rest 0
  · cases readable with
    | obj distinct keys each =>
      exact readValue_obj distinct keys (fun f member => readsBack_of_readable (each f member)) _
        enough rest 0

end Readable
end SecScan.Proofs.JsonRoundTrip
