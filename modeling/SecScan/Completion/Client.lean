import SecScan.Config.Settings
import SecScan.Http.Request

/-!
The completion services' HTTP interfaces. Each client kind sends one POST request to the
service's address with the system text and the prompt, and reads the completion out of the reply:
the chat completions interface from `choices[0].message.content`, the Anthropic interface by
joining the text blocks of `content`, and Ollama from `message.content`. An empty or missing
completion in a well-formed reply is the empty text. A reply that fails, has a status outside
200 to 299, is not JSON or lacks the completion gives an error naming the service; a body that
nests too deep to be read stops the call with a recursion error.
-/

namespace SecScan.Completion

open SecScan.Config SecScan.Http

/-- The name a client goes by in its errors. -/
def clientName (kind : ClientKind) (s : LlmSettings) : String :=
  match kind with
  | .chatCompletions => s.provider
  | .anthropic => "anthropic"
  | .ollama => "ollama"

/-- A chat message. -/
def message (role content : String) : Json := .obj [("role", .str role), ("content", .str content)]

/-- The request asking a service to complete `prompt` under the system text `system`. -/
def request (kind : ClientKind) (s : LlmSettings) (system prompt : String) : Request :=
  match kind with
  | .chatCompletions =>
    { method := "POST", url := s.resolvedBaseUrl ++ "/chat/completions"
      headers := [("Content-Type", "application/json")] ++
        (if s.apiKey.isEmpty then [] else [("Authorization", "Bearer " ++ s.apiKey)])
      body := some (.obj [("model", .str s.resolvedModel),
        ("messages", .arr [message "system" system, message "user" prompt]),
        ("temperature", .float s.temperature), ("max_tokens", .int s.maxTokens)]) }
  | .anthropic =>
    { method := "POST", url := s.resolvedBaseUrl ++ "/v1/messages"
      headers := [("x-api-key", s.apiKey), ("anthropic-version", "2023-06-01"),
        ("content-type", "application/json")]
      body := some (.obj [("model", .str s.resolvedModel), ("system", .str system),
        ("messages", .arr [message "user" prompt]), ("temperature", .float s.temperature),
        ("max_tokens", .int s.maxTokens)]) }
  | .ollama =>
    { method := "POST", url := s.resolvedBaseUrl ++ "/api/chat"
      headers := [("Content-Type", "application/json")]
      body := some (.obj [("model", .str s.resolvedModel),
        ("messages", .arr [message "system" system, message "user" prompt]),
        ("stream", .bool false),
        ("options", .obj [("temperature", .float s.temperature), ("num_predict", .int s.maxTokens)])]) }

/-- The joined text blocks of an Anthropic reply's content; `none` when the content is not a
list of objects, or a text block's text is not text. -/
def textBlocks : Json → Option String
  | .arr blocks =>
    blocks.foldlM (fun acc b =>
      match b with
      | .obj _ =>
        if b.field? "type" == some (.str "text") then
          match b.field? "text" with
          | some (.str t) => some (acc ++ t)
          | some _ => none
          | none => some acc
        else some acc
      | _ => none) ""
  | .obj fields => if fields.isEmpty then some "" else none
  | .str s => if s.isEmpty then some "" else none
  | _ => none

/-- A completion that is present but empty reads as the empty text. -/
def orEmpty (v : Json) : Json := if v.truthy then v else .str ""

/-- Why no completion came: the service failed, with the message, or reading the reply stopped
with an error of another kind, which the caller does not catch. -/
inductive ReplyError where
  | failed (message : String)
  | crashed (kind message : String)
  deriving Repr, BEq, Inhabited

/-- The completion in a reply to a call with `room`, or why there is none. The body is decoded
two calls down, and decoding takes two levels before it reads values. -/
def readReply (room : Nat) (kind : ClientKind) (name : String) (reply : Reply) :
    Except ReplyError Json := do
  let fail {α : Type} (m : String) : Except ReplyError α := throw (.failed m)
  let data ← match reply with
    | .failure m => fail (name ++ " request failed: " ++ m)
    | r =>
      match r.status? with
      | some s =>
        if !Reply.isSuccessStatus s then fail (name ++ " returned HTTP " ++ toString s)
        else
          match r.document (room - 4) with
          | .ok (some d) => pure d
          | .ok none => fail (name ++ " returned a non-JSON body")
          | .error e => throw (.crashed e.kind (e.describe).1)
      | none => fail (name ++ " returned a non-JSON body")
  match kind with
  | .chatCompletions =>
    match (data.field? "choices" >>= Json.first? >>= (·.field? "message")) >>= (·.field? "content") with
    | some c => pure (orEmpty c)
    | none => fail (name ++ " reply has no message content")
  | .anthropic =>
    match data.field? "content" >>= textBlocks with
    | some t => pure (.str t)
    | none => fail "anthropic reply has no content blocks"
  | .ollama =>
    match data.field? "message" >>= (·.field? "content") with
    | some c => pure (orEmpty c)
    | none => fail "ollama reply has no message content"

end SecScan.Completion
