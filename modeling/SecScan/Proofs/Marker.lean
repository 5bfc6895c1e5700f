import SecScan.Proofs.Detect
import SecScan.Proofs.Needles

/-!
Review markers are never flagged. A marker is a blank indent, a comment token and a fixed text
naming a rule of the language. For every rule of every language one needle of its detect
pattern has a first test that passes no blank character and fits in none of the marker texts of
the language (`catalog_blocks_markers`, checked by evaluation on the catalog), so by
`occursIn_eq_false` no rule flags a marker, whatever its indent (`flags_marker_eq_false`). The
same needles show that no rule flags an empty line.

The catalog texts are checked byte by byte: they are all below 128, where a character is its
one byte (`byteChars_eq_toList`).
-/

namespace SecScan.Proofs.Marker

open SecScan.Text SecScan.Scan SecScan.Fix SecScan.Proofs.LineSplit SecScan.Proofs.Needles
  SecScan.Proofs.Detect

section Bytes

/-- The characters of a text read one per byte. -/
def byteChars (s : String) : List Char := s.toByteArray.data.toList.map fun b => Char.ofNat b.toNat

/-- A character whose encoding has no byte of 128 or more is its only byte. -/
theorem utf8EncodeChar_of_small {c : Char}
    (small : ∀ b ∈ String.utf8EncodeChar c, b.toNat < 128) :
    (String.utf8EncodeChar c).map (fun b => Char.ofNat b.toNat) = [c] := by
  unfold String.utf8EncodeChar at small ⊢
  dsimp only at small ⊢
  by_cases one : c.val.toNat ≤ 127
  · have below : c.val.toNat < 2 ^ 8 := by omega
    rw [if_pos one, List.map_singleton, UInt8.toNat_ofNat', Nat.mod_eq_of_lt below]
    exact congrArg (· :: []) (Char.ofNat_toNat c)
  · -- every longer encoding opens with a byte of 192 or more
    rw [if_neg one] at small
    split_ifs at small
    all_goals
      have lead := small _ List.mem_cons_self
      simp only [UInt8.toNat_ofNat'] at lead
      omega

theorem flatMap_utf8EncodeChar_of_small {chars : List Char}
    (small : ∀ b ∈ chars.flatMap String.utf8EncodeChar, b.toNat < 128) :
    (chars.flatMap String.utf8EncodeChar).map (fun b => Char.ofNat b.toNat) = chars := by
  induction chars with
  | nil => rfl
  | cons c rest ih =>
    rw [List.flatMap_cons] at small ⊢
    rw [List.map_append,
      utf8EncodeChar_of_small fun b member => small b (List.mem_append_left _ member),
      ih fun b member => small b (List.mem_append_right _ member)]
    rfl

/-- A text whose bytes are all below 128 has one character per byte. -/
theorem byteChars_eq_toList {s : String} (small : ∀ b ∈ s.toByteArray.data.toList, b.toNat < 128) :
    byteChars s = s.toList := by
  have bytes : s.toByteArray.data.toList = s.toList.flatMap String.utf8EncodeChar := by
    rw [← String.utf8Encode_toList, List.utf8Encode, List.toList_data_toByteArray]
  unfold byteChars
  rw [bytes] at small ⊢
  exact flatMap_utf8EncodeChar_of_small small

end Bytes

/-- The code points of the characters that count as blank. -/
def blankCodes : List Nat :=
  List.range' 9 5 ++ List.range' 28 5 ++ [133, 160, 5760] ++ List.range' 8192 11 ++
    [8232, 8233, 8239, 8287, 12288]

theorem mem_blankCodes {c : Char} (blank : isBlank c = true) : c.toNat ∈ blankCodes := by
  simp only [isBlank, Bool.or_eq_true, Bool.and_eq_true, decide_eq_true_eq, beq_iff_eq] at blank
  simp only [blankCodes, List.mem_append, List.mem_range'_1, List.mem_cons, List.not_mem_nil,
    or_false]
  omega

/-- A review marker after its indent: a comment naming the weakness and the rule. -/
def markerText (pre : String) (rule : Rule) : String :=
  pre ++ " AISAST: manual review needed for " ++ rule.weakness.title ++ " (" ++ rule.id ++ ")"

/-- The marker texts of a language's findings, with either comment token. -/
def markerTexts (language : Language) : List String :=
  language.rules.flatMap fun rule => ["#", "//"].map (markerText · rule)

/-- Whether a needle keeps a pattern out of indented texts: its first test passes no blank
character, and it fits in none of the texts. -/
def blocks (texts : List String) : Needle → Bool
  | [] => false
  | first :: rest => blankCodes.all (fun code => !first (Char.ofNat code)) &&
      texts.all fun s => !fitsIn (first :: rest) (byteChars s)

theorem markerTexts_small :
    (Language.all.all fun language => (markerTexts language).all fun s =>
      s.toByteArray.data.toList.all fun b => b.toNat < 128) = true := by
  decide +kernel

/-- Every rule of the catalog has a needle that keeps it out of the markers of its language. -/
theorem catalog_blocks_markers :
    (Language.all.all fun language => language.rules.all fun rule =>
      (patternNeedles rule.detect).any (blocks (markerTexts language))) = true := by
  decide +kernel

theorem mem_all (language : Language) : language ∈ Language.all := by
  cases language <;> decide

theorem exists_blocking_needle {language : Language} {rule : Rule} (flagging : rule ∈ language.rules) :
    ∃ n ∈ patternNeedles rule.detect, blocks (markerTexts language) n = true := by
  have forLanguage := List.all_eq_true.mp catalog_blocks_markers language (mem_all language)
  exact List.any_eq_true.mp (List.all_eq_true.mp forLanguage rule flagging)

theorem byteChars_markerText {language : Language} {s : String} (listed : s ∈ markerTexts language) :
    byteChars s = s.toList := by
  have forLanguage := List.all_eq_true.mp markerTexts_small language (mem_all language)
  have bytes := List.all_eq_true.mp (List.all_eq_true.mp forLanguage s listed)
  exact byteChars_eq_toList fun b member => of_decide_eq_true (bytes b member)

theorem mem_markerTexts {language : Language} {rule : Rule} (named : rule ∈ language.rules)
    {pre : String} (comment : pre = "#" ∨ pre = "//") :
    markerText pre rule ∈ markerTexts language := by
  refine List.mem_flatMap.mpr ⟨rule, named, List.mem_map.mpr ⟨pre, ?_, rfl⟩⟩
  rcases comment with rfl | rfl <;> simp

/-- No rule of a language flags a marker for a rule of the language, whatever blank indent
the marker has. -/
theorem flags_marker_eq_false {language : Language} {rule other : Rule}
    (flagging : rule ∈ language.rules) (named : other ∈ language.rules) {pre : String}
    (comment : pre = "#" ∨ pre = "//") {indent : String}
    (blank : ∀ c ∈ indent.toList, isBlank c = true) :
    rule.flags (indent ++ markerText pre other) = false := by
  obtain ⟨n, listed, blocking⟩ := exists_blocking_needle flagging
  cases n with
  | nil => cases blocking
  | cons first rest =>
    simp only [blocks, Bool.and_eq_true, List.all_eq_true, Bool.not_eq_true'] at blocking
    obtain ⟨rejects, absent⟩ := blocking
    have listedText := mem_markerTexts named comment
    have chars := byteChars_markerText listedText
    have rejected : ∀ c ∈ indent.toList, first c = false := by
      intro c member
      have code := rejects c.toNat (mem_blankCodes (blank c member))
      rwa [Char.ofNat_toNat] at code
    apply occursIn_eq_false listed
    cases fits : fitsIn (first :: rest) (indent ++ markerText pre other).toList with
    | false => rfl
    | true =>
      rw [String.toList_append] at fits
      have inText := fitsIn_of_append_rejected fits rejected
      rw [← chars, absent _ listedText] at inText
      cases inText

/-- No rule of the catalog flags an empty line. -/
theorem flags_empty_eq_false {language : Language} {rule : Rule}
    (flagging : rule ∈ language.rules) : rule.flags "" = false := by
  obtain ⟨n, listed, blocking⟩ := exists_blocking_needle flagging
  cases n with
  | nil => cases blocking
  | cons first rest => exact occursIn_eq_false listed rfl

theorem commentPrefix_cases (language fileName : String) :
    Gate.commentPrefix language fileName = "#" ∨ Gate.commentPrefix language fileName = "//" := by
  unfold Gate.commentPrefix
  split_ifs <;> simp

theorem indentOf_blank (line : String) : ∀ c ∈ (Gate.indentOf line).toList, isBlank c = true := by
  intro c member
  rw [Gate.indentOf, String.toList_ofList] at member
  exact List.all_eq_true.mp List.all_takeWhile c member

theorem oneLine_indentOf {line : String} (single : OneLine line) : OneLine (Gate.indentOf line) := by
  rw [Gate.indentOf, oneLine_ofList]
  exact fun member => single (List.takeWhile_subset _ member)

theorem oneLine_markerText {rule : Rule} (listed : rule ∈ Catalog.allRules) {pre : String}
    (comment : pre = "#" ∨ pre = "//") : OneLine (markerText pre rule) := by
  obtain ⟨idLine, titleLine⟩ := catalog_names_oneLine rule listed
  have preLine : OneLine pre := by rcases comment with rfl | rfl <;> decide
  simp only [markerText, oneLine_append]
  exact ⟨⟨⟨⟨⟨preLine, by decide⟩, titleLine⟩, by decide⟩, idLine⟩, by decide⟩

/-- A marker ends with a parenthesis, so a scan reads it whole. -/
theorem dropCarriage_markerText (indent pre : String) (rule : Rule) :
    dropCarriage (indent ++ markerText pre rule) = indent ++ markerText pre rule := by
  simp only [markerText, ← String.append_assoc]
  simp [dropCarriage]

/-- The marker for a finding of a rule is the line's indent, then the rule's marker text. -/
theorem markerLine_eq {f : Finding} {rule : Rule} (named : f.ruleId = rule.id)
    (titled : f.kind = rule.weakness.title) (original language : String) :
    markerLine f original language =
      Gate.indentOf original ++ markerText (Gate.commentPrefix language f.fileName) rule := by
  simp only [markerLine, markerText, named, titled, String.append_assoc]

end SecScan.Proofs.Marker
