import SecScan.Analysis.Reply
import SecScan.Proofs.JsonRoundTrip

/-!
Extracting the value of an assistant's reply. Removing fences only deletes characters
(`dropFences_sublist`); it never reaches past a character that is neither a backtick nor part of
an info word (`dropFences_append`), and it leaves text alone that holds no three backticks in a
row and does not end in one (`dropFences_unfenced`). So an array or an object written into a
reply after prose that does not hold its opening bracket is found where it was written, and reads
back whatever follows it (`extractJson_value`); fenced prose around it changes nothing. For an
object and an array the bracket facts hold of the text itself (`extractJson_obj`,
`extractJson_arr`), which leaves the value's readability and its own backticks as the only
conditions.
-/

namespace SecScan.Proofs.ReplyExtract

open SecScan SecScan.Json SecScan.Analysis SecScan.Proofs.JsonRoundTrip

/-- Whether text holds no three backticks in a row. -/
def unfenced : List Char → Bool
  | a :: b :: c :: rest => !isFence a b c && unfenced (b :: c :: rest)
  | _ => true

/-- A character that is neither a backtick nor part of an info word. -/
def Plain (c : Char) : Prop := isFenceWordChar c = false ∧ c.toNat ≠ 96

instance : DecidablePred Plain := fun _ => inferInstanceAs (Decidable (_ ∧ _))

theorem isFence_of_plain_mid {a b c : Char} (plain : b.toNat ≠ 96) : isFence a b c = false := by
  simp [isFence, plain]

theorem isFence_of_plain_last {a b c : Char} (plain : c.toNat ≠ 96) : isFence a b c = false := by
  simp [isFence, plain]

theorem isFence_of_plain_first {a b c : Char} (plain : a.toNat ≠ 96) : isFence a b c = false := by
  simp [isFence, plain]

theorem dropFences_skip {inWord : Bool} {a : Char} (word : (inWord && isFenceWordChar a) = true)
    (rest : List Char) : dropFences inWord (a :: rest) = dropFences true rest := by
  rw [dropFences.eq_def]
  dsimp only
  rw [if_pos word]

theorem dropFences_fence {inWord : Bool} {a b c : Char}
    (notWord : (inWord && isFenceWordChar a) = false) (fence : isFence a b c = true)
    (more : List Char) : dropFences inWord (a :: b :: c :: more) = dropFences true more := by
  rw [dropFences.eq_def]
  dsimp only
  rw [notWord, if_neg Bool.false_ne_true, if_pos fence]

theorem dropFences_keep {inWord : Bool} {a : Char} {rest : List Char}
    (notWord : (inWord && isFenceWordChar a) = false)
    (noFence : ∀ b c more, rest = b :: c :: more → isFence a b c = false) :
    dropFences inWord (a :: rest) = a :: dropFences false rest := by
  rw [dropFences.eq_def]
  dsimp only
  rw [notWord, if_neg Bool.false_ne_true]
  split
  · rename_i b c more
    rw [if_neg (by simp [noFence b c more rfl])]
  · rfl

/-- Removing fences only deletes characters. -/
theorem dropFences_sublist (inWord : Bool) (cs : List Char) : (dropFences inWord cs).Sublist cs := by
  fun_induction dropFences inWord cs with
  | case1 => exact .slnil
  | case2 _ a _ _ ih => exact ih.cons a
  | case3 _ a _ b c _ _ ih => exact ((ih.cons c).cons b).cons a
  | case4 _ a _ _ _ _ _ ih => exact ih.cons_cons a
  | case5 _ a _ _ _ ih => exact ih.cons_cons a

/-- Text that opens with a plain character is read the same in or out of an info word. -/
theorem dropFences_plain {o : Char} (plain : Plain o) (inWord : Bool) (rest : List Char) :
    dropFences inWord (o :: rest) = dropFences false (o :: rest) := by
  rw [dropFences.eq_def, dropFences.eq_def]
  simp [plain.1]

/-- Fences never reach past a plain character: the text before it and the text from it lose
their fences apart. -/
theorem dropFences_append (inWord : Bool) (before : List Char) {o : Char} (plain : Plain o)
    (rest : List Char) :
    dropFences inWord (before ++ o :: rest) =
      dropFences inWord before ++ dropFences false (o :: rest) := by
  fun_induction dropFences inWord before with
  | case1 inWord => exact dropFences_plain plain inWord rest
  | case2 inWord a others word ih =>
    rw [List.cons_append, dropFences_skip word, ih]
  | case3 inWord a notWord b c more fence ih =>
    rw [List.cons_append, List.cons_append, List.cons_append,
      dropFences_fence (by simpa using notWord) fence, ih]
  | case4 inWord a notWord b c more notFence ih =>
    have keep : ∀ rest, dropFences inWord (a :: b :: c :: rest) = a :: dropFences false (b :: c :: rest) :=
      fun rest => dropFences_keep (by simpa using notWord) (fun b' c' more' shape => by
        obtain ⟨rfl, rfl, -⟩ : b = b' ∧ c = c' ∧ rest = more' := by simpa using shape
        simpa using notFence)
    rw [List.cons_append, List.cons_append, List.cons_append, keep, ← List.cons_append,
      ← List.cons_append, ih, List.cons_append]
  | case5 inWord a others notWord short ih =>
    have notWord : (inWord && isFenceWordChar a) = false := by simpa using notWord
    -- with fewer than two characters after `a`, the plain character is among the next two
    have joined : dropFences inWord (a :: (others ++ o :: rest)) =
        a :: dropFences false (others ++ o :: rest) := by
      refine dropFences_keep notWord fun b c more shape => ?_
      cases others with
      | nil =>
        obtain ⟨rfl, -⟩ := List.cons.inj shape
        exact isFence_of_plain_mid plain.2
      | cons b' others =>
        cases others with
        | nil =>
          obtain ⟨-, rfl, -⟩ : b' = b ∧ o = c ∧ rest = more := by simpa using shape
          exact isFence_of_plain_last plain.2
        | cons c' others => exact absurd rfl (short b' c' others)
    rw [List.cons_append, joined, ih, List.cons_append]

theorem unfenced_tail {a : Char} {rest : List Char} (clean : unfenced (a :: rest) = true) :
    unfenced rest = true := by
  match rest, clean with
  | [], _ => rfl
  | [_], _ => rfl
  | _ :: _ :: _, clean =>
    simp only [unfenced, Bool.and_eq_true] at clean
    exact clean.2

/-- Text with no three backticks in a row, and not ending in one, keeps its characters, and the
text after it loses its fences as if it stood alone. -/
theorem dropFences_unfenced (text after : List Char) (clean : unfenced text = true)
    (closes : ∀ c ∈ text.getLast?, c.toNat ≠ 96) :
    dropFences false (text ++ after) = text ++ dropFences false after := by
  induction text with
  | nil => rfl
  | cons a text ih =>
    have noFence : ∀ b c more, text ++ after = b :: c :: more → isFence a b c = false := by
      intro b c more shape
      match text, shape, clean, closes with
      | [], _, _, closes => exact isFence_of_plain_first (closes a (by simp))
      | [b'], shape, _, closes =>
        obtain ⟨same, -⟩ := List.cons.inj shape
        rw [← same]
        exact isFence_of_plain_mid (closes b' (by simp))
      | b' :: c' :: others, shape, clean, _ =>
        obtain ⟨rfl, rfl, -⟩ : b' = b ∧ c' = c ∧ others ++ after = more := by simpa using shape
        simp only [unfenced, Bool.and_eq_true, Bool.not_eq_true'] at clean
        exact clean.1
    have closes' : ∀ c ∈ text.getLast?, c.toNat ≠ 96 := by
      intro c member
      cases text with
      | nil => simp at member
      | cons b text => exact closes c (by simpa [List.getLast?_cons_cons] using member)
    rw [List.cons_append, dropFences_keep (by simp) noFence, ih (unfenced_tail clean) closes',
      List.cons_append]

/-- The first occurrence of a character is right after text that does not hold it. -/
theorem findText_after {before after : List Char} {o : Char} (absent : o ∉ before) :
    findText (before ++ o :: after) [o] = some before.length := by
  unfold findText
  rw [List.find?_range_eq_some]
  refine ⟨by simp, ?_, ?_⟩
  · rw [List.mem_range, List.length_append, List.length_cons]
    omega
  intro j earlier
  obtain ⟨c, others, rest⟩ : ∃ c others, before.drop j = c :: others :=
    List.exists_cons_of_ne_nil (by simp; omega)
  have member : c ∈ before := List.mem_of_mem_drop (by rw [rest]; exact List.mem_cons_self)
  have differ : c ≠ o := fun same => absent (same ▸ member)
  simp [List.drop_append_of_le_length (Nat.le_of_lt earlier), rest, differ]

/-- A value written into a reply keeps its text when fences are removed: the fences before it stop
at its plain opening character, and its own text, holding no three backticks in a row and not
ending in one, stays as it is. -/
theorem dropFences_embedded (before text after : List Char) {o : Char} (plain : Plain o)
    (opens : text.head? = some o) (clean : unfenced text = true)
    (closes : ∀ c ∈ text.getLast?, c.toNat ≠ 96) :
    dropFences false (before ++ text ++ after) =
      dropFences false before ++ text ++ dropFences false after := by
  obtain ⟨body, rfl⟩ := List.head?_eq_some_iff.mp opens
  rw [List.append_assoc, List.cons_append, dropFences_append false before plain, ← List.cons_append,
    dropFences_unfenced _ after clean closes, List.append_assoc]

/-- A readable array or object written into a reply after prose that does not hold its opening
bracket is the value extracted, whatever text follows it. -/
theorem extractJson_value {room : Nat} {v : Json} (readable : Readable room v)
    (container : (∃ items, v = .arr items) ∨ ∃ fields, v = .obj fields) {opening : String}
    {o : Char} (single : opening.toList = [o]) (plain : Plain o)
    (opens : (render v).toList.head? = some o) (closes : ∀ c ∈ (render v).toList.getLast?, c.toNat ≠ 96)
    (clean : unfenced (render v).toList = true) (prose suffix : String) (absent : o ∉ prose.toList) :
    extractJson room (prose ++ render v ++ suffix) opening = .ok v := by
  have kept : o ∉ dropFences false prose.toList := fun member =>
    absent ((dropFences_sublist false prose.toList).subset member)
  obtain ⟨body, text⟩ := List.head?_eq_some_iff.mp opens
  unfold extractJson
  simp only [String.toList_append]
  rw [dropFences_embedded _ _ _ plain opens clean closes, single, text, List.append_assoc,
    List.cons_append, findText_after kept]
  simp only [List.drop_left]
  rw [← List.cons_append, ← text, readPrefix_render readable container]

theorem openBrace_toList : "\x7b".toList = ['\x7b'] := rfl

theorem openBracket_toList : "[".toList = ['['] := rfl

/-- Text written between an opening and a closing bracket opens with the one and does not end in
a backtick. -/
theorem bracketed_ends {o e : Char} (body : List Char) (close : e.toNat ≠ 96) :
    (o :: body ++ [e]).head? = some o ∧ ∀ c ∈ (o :: body ++ [e]).getLast?, c.toNat ≠ 96 := by
  refine ⟨rfl, fun c member => ?_⟩
  rw [List.getLast?_concat, Option.mem_some_iff] at member
  exact member ▸ close

/-- A readable object, holding no three backticks in a row, written into a reply after prose that
holds no opening brace is the value extracted, whatever follows it. -/
theorem extractJson_obj {room : Nat} {fields : List (String × Json)}
    (readable : Readable room (.obj fields)) (clean : unfenced (render (.obj fields)).toList = true)
    (prose suffix : String) (absent : '\x7b' ∉ prose.toList) :
    extractJson room (prose ++ render (.obj fields) ++ suffix) = .ok (.obj fields) := by
  have ends := bracketed_ends (o := '\x7b') (e := '\x7d') (renderFieldsTo "" fields).toList
    (by decide)
  rw [← render_obj_toList] at ends
  exact extractJson_value readable (.inr ⟨fields, rfl⟩) openBrace_toList (by decide) ends.1 ends.2
    clean prose suffix absent

/-- A readable array, holding no three backticks in a row, written into a reply after prose that
holds no opening bracket is the value extracted with that bracket, whatever follows it. -/
theorem extractJson_arr {room : Nat} {items : List Json} (readable : Readable room (.arr items))
    (clean : unfenced (render (.arr items)).toList = true) (prose suffix : String)
    (absent : '[' ∉ prose.toList) :
    extractJson room (prose ++ render (.arr items) ++ suffix) "[" = .ok (.arr items) := by
  have ends := bracketed_ends (o := '[') (e := ']') (renderItemsTo "" items).toList (by decide)
  rw [← render_arr_toList] at ends
  exact extractJson_value readable (.inl ⟨items, rfl⟩) openBracket_toList (by decide) ends.1
    ends.2 clean prose suffix absent

/-- A readable object written into a reply after prose that holds no opening brace is the value
extracted, whatever follows it, and so is an array after prose that holds no opening bracket,
when the value's text holds no three backticks in a row. -/
theorem extractJson_embedded (room : Nat) (prose suffix : String) :
    (∀ fields, Readable room (.obj fields) → unfenced (render (.obj fields)).toList = true →
        '\x7b' ∉ prose.toList →
        extractJson room (prose ++ render (.obj fields) ++ suffix) = .ok (.obj fields)) ∧
      (∀ items, Readable room (.arr items) → unfenced (render (.arr items)).toList = true →
        '[' ∉ prose.toList →
        extractJson room (prose ++ render (.arr items) ++ suffix) "[" = .ok (.arr items)) := by
  constructor
  · intro fields readable clean absent
    exact extractJson_obj readable clean prose suffix absent
  · intro items readable clean absent
    exact extractJson_arr readable clean prose suffix absent

/-- The reply a model gives to the per-finding prompt. -/
def ratedReply : Json := .obj [("confidence", .int 88), ("explanation", .str "tainted")]

theorem extractJson_fenced_replies :
    extractJson callRoom ("Sure:\n```json\n" ++ render ratedReply ++ "\n```\nDone.") =
        .ok ratedReply ∧
      extractJson callRoom ("Lines " ++ render (.arr [.int 4, .int 7]) ++ " are unsafe.") "[" =
        .ok (.arr [.int 4, .int 7]) := by
  have objectClean : unfenced (render ratedReply).toList = true := by decide
  have arrayClean : unfenced (render (.arr [.int 4, .int 7])).toList = true := by decide
  exact ⟨(extractJson_embedded callRoom _ _).1 _ (readable_of_check (by decide)) objectClean
      (by decide),
    (extractJson_embedded callRoom _ _).2 _ (readable_of_check (by decide)) arrayClean (by decide)⟩

end SecScan.Proofs.ReplyExtract
