import Mathlib
import SecScan.Completion.Client
import SecScan.Analysis.Reply

/-!
What a completion service's reply reads as. The Anthropic interface joins the text blocks of its
reply, so its completion is always text. The chat completions and Ollama interfaces take the
content field as it is and only replace a falsy one by the empty text: a content that is a
number, `true`, an array or an object comes back as that value, not as text
(`readReply_non_text_content`).
-/

namespace SecScan.Proofs.ReplyContent

open SecScan.Completion SecScan.Config SecScan.Http

/-- A completion read with `orEmpty` is the empty text or the value itself, which is then truthy. -/
theorem orEmpty_text_or_truthy (c : Json) :
    (∃ t, orEmpty c = .str t) ∨ (orEmpty c = c ∧ c.truthy = true) := by
  unfold orEmpty
  split
  · rename_i truthy
    exact .inr ⟨rfl, truthy⟩
  · exact .inl ⟨"", rfl⟩

/-- A completion the Anthropic interface reads is a text; one the other interfaces read is a
content field passed through `orEmpty`. -/
theorem readReply_ok {room : Nat} {kind : ClientKind} {name : String} {reply : Reply} {v : Json}
    (read : readReply room kind name reply = .ok v) :
    (kind = .anthropic ∧ ∃ t, v = .str t) ∨ (kind ≠ .anthropic ∧ ∃ c, v = orEmpty c) := by
  unfold readReply at read
  dsimp only at read
  -- a reply that failed, has a failing status or holds no document gives an error
  split at read
  · cases read
  split at read
  · split at read
    · cases read
    split at read
    · rw [pure_bind] at read
      -- the document is read along the client's own path
      split at read
      · split at read
        · cases read
          exact .inr ⟨by decide, _, rfl⟩
        · cases read
      · split at read
        · cases read
          exact .inl ⟨rfl, _, rfl⟩
        · cases read
      · split at read
        · cases read
          exact .inr ⟨by decide, _, rfl⟩
        · cases read
    · cases read
    · cases read
  · cases read

/-- A completion that is not text comes from a chat completions or Ollama reply, and is a truthy
value: a nonzero number, `true`, or a nonempty array or object. -/
theorem readReply_non_text_content {room : Nat} {kind : ClientKind} {name : String}
    {reply : Reply} {v : Json} (read : readReply room kind name reply = .ok v)
    (notText : ∀ t, v ≠ .str t) :
    kind ≠ .anthropic ∧ v.truthy = true := by
  rcases readReply_ok read with ⟨-, t, text⟩ | ⟨other, c, passed⟩
  · exact absurd text (notText t)
  · rcases orEmpty_text_or_truthy c with ⟨t, empty⟩ | ⟨same, truthy⟩
    · rw [← passed] at empty
      exact absurd empty (notText t)
    · rw [passed, same]
      exact ⟨other, truthy⟩

/-- An Ollama reply whose content is a list gives that list back as the completion. -/
theorem ollama_list_content :
    let reply : Reply :=
      .json 200 (.obj [("message", .obj [("content", .arr [.str "x"])])])
    readReply Analysis.loopRoom .ollama "ollama" reply = .ok (.arr [.str "x"]) ∧
      (∀ t, Json.arr [.str "x"] ≠ .str t) ∧
      (ClientKind.ollama ≠ .anthropic ∧ (Json.arr [.str "x"]).truthy = true) := by
  intro reply
  have read : readReply Analysis.loopRoom .ollama "ollama" reply = .ok (.arr [.str "x"]) := rfl
  have notText : ∀ t, Json.arr [.str "x"] ≠ .str t := fun _ same => by cases same
  exact ⟨read, notText, readReply_non_text_content read notText⟩

/-- A chat completions reply whose content is the number 5 gives the number back, not a text and
not an error. -/
theorem chat_number_content :
    let reply : Reply :=
      .json 200 (.obj [("choices", .arr [.obj [("message", .obj [("content", .int 5)])]])])
    readReply Analysis.loopRoom .chatCompletions "groq" reply = .ok (.int 5) := rfl

end SecScan.Proofs.ReplyContent
