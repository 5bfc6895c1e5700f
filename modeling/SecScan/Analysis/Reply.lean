import SecScan.Json.Reader
import SecScan.Json.Lax
import SecScan.Text.Case

/-!
Reading an assistant's reply. Markdown code fences (three backticks and an optional info word)
are removed everywhere, and the first JSON value that starts with the expected opening bracket
is read; prose before it and text after it are ignored. A reply to the per-finding prompt must
then be an object with an integer `confidence` from 0 to 100 and optional text fields
`suggestedFix` (also accepted as `suggested_fix`) and `explanation`.

Reading JSON recurses once for each level of nesting, within the program's thousand levels of
recursion, so how deep a reply may nest depends on the calls that lead to reading it. Functions
that read replies take this as a `room`: how deep a value read right in the function may nest.
A function they call has one level less, and a task that the event loop runs starts again from
the loop's own room.
-/

namespace SecScan.Analysis

open SecScan.Json SecScan.Text

/-- Why a reply could not be used. -/
inductive ReplyError where
  /-- The reply has no opening bracket of the expected kind. -/
  | noValue
  /-- The value is not well-formed JSON; `doc` is the text from the opening bracket. -/
  | unreadable (doc : List Char) (error : ReadError)
  /-- The value does not fit the expected shape, with this many failures. -/
  | invalid (count : Nat)
  deriving Repr

namespace ReplyError

/-- The message of a reply error. -/
def message : ReplyError → String
  | .noValue => "no JSON value in reply"
  | .unreadable doc e => e.message doc
  | .invalid n => "invalid analysis reply: " ++ toString n ++ " error(s)"

/-- Whether the error is one of JSON syntax. -/
def isSyntax : ReplyError → Bool
  | .unreadable _ e => e.isSyntax
  | _ => false

/-- The name of the kind of error: the reader's kind for a value that could not be read, a
value error otherwise. -/
def kind : ReplyError → String
  | .unreadable _ e => e.kind
  | _ => "ValueError"

/-- Whether the error is a value error, the kind callers that give up on a bad reply catch. -/
def isValueError (e : ReplyError) : Bool := e.kind != "RecursionError"

end ReplyError

/-- Whether a character may follow a fence's backticks as part of its info word. -/
def isFenceWordChar (c : Char) : Bool :=
  ('a' ≤ c && c ≤ 'z') || ('A' ≤ c && c ≤ 'Z') || ('0' ≤ c && c ≤ '9') || c == '_' || c == '-'

/-- Whether three characters are backticks. -/
def isFence (a b c : Char) : Bool := a.toNat == 96 && b.toNat == 96 && c.toNat == 96

/-- Removes every fence: three backticks and the info word after them; `inWord` tells whether
an info word is being skipped. -/
def dropFences (inWord : Bool) : List Char → List Char
  | [] => []
  | a :: rest =>
    if inWord && isFenceWordChar a then dropFences true rest
    else
      match _h : rest with
      | b :: c :: more => if isFence a b c then dropFences true more else a :: dropFences false rest
      | _ => a :: dropFences false rest
termination_by cs => cs.length
decreasing_by all_goals simp_all <;> omega

/-- Where `pattern` first occurs in `text`. -/
def findText (text pattern : List Char) : Option Nat :=
  (List.range (text.length + 1)).find? fun i => (text.drop i).take pattern.length == pattern

/-- The room of a function called by itself to serve a request. -/
def callRoom : Nat := 993

/-- The room of a coroutine that the event loop runs, whether the one it was started with or a
task, when the loop is started to serve a request. -/
def loopRoom : Nat := 985

/-- The first JSON value of a reply that starts with `opening`, nested at most `room` deep. -/
def extractJson (room : Nat) (reply : String) (opening : String := "\x7b") :
    Except ReplyError Json :=
  let text := dropFences false reply.toList
  match findText text opening.toList with
  | none => .error .noValue
  | some start =>
    let doc := text.drop start
    match readPrefix room doc 0 with
    | .ok (v, _, _) => .ok v
    | .error e => .error (.unreadable doc e)

/-- A reply to the per-finding prompt. -/
structure Enrichment where
  confidence : Int
  suggestedFix : Option String := none
  explanation : Option String := none
  deriving Repr, Inhabited

/-- Validates a reply value as an enrichment. -/
def Enrichment.validate (v : Json) : Lax.Result Enrichment := do
  let fields ← Lax.record [] "model_type" v
  let c := Lax.required [] fields ["confidence"] (Lax.intWithin (some 0) (some 100))
  let s := Lax.optional [] fields ["suggestedFix", "suggested_fix"] none Lax.optStr
  let e := Lax.optional [] fields ["explanation"] none Lax.optStr
  match c, s, e with
  | .ok c, .ok s, .ok e => pure ⟨c, s, e⟩
  | _, _, _ => throw (Lax.issues c ++ Lax.issues s ++ Lax.issues e)

/-- Reads and validates a reply to the per-finding prompt, in a function with `room`. -/
def parseEnrichment (room : Nat) (reply : String) : Except ReplyError Enrichment := do
  let v ← extractJson (room - 1) reply
  match Enrichment.validate v with
  | .ok e => pure e
  | .error is => throw (.invalid is.length)

/-- A slug of a title: lower case, each run of characters other than ASCII letters and digits
a hyphen, no hyphen at either end; `issue` if nothing is left. -/
def slug (title : String) : String :=
  let keep (c : Char) : Bool := ('a' ≤ c && c ≤ 'z') || ('0' ≤ c && c ≤ '9')
  let rec squeeze (inGap : Bool) : List Char → List Char
    | [] => []
    | c :: rest =>
      if keep c then c :: squeeze false rest
      else if inGap then squeeze true rest
      else '-' :: squeeze true rest
  let cs := squeeze false (toLower title).toList
  let trimmed := ((cs.dropWhile (· == '-')).reverse.dropWhile (· == '-')).reverse
  if trimmed.isEmpty then "issue" else String.ofList trimmed

/-- Takes the items from `start` up to, not including, `stop`, where a negative `stop` counts
back from the end and both are clipped to the list. -/
def sliceLines (lines : List String) (start stop : Int) : List String :=
  let n : Int := lines.length
  let clip (k : Int) : Nat := (max 0 (min n (if k < 0 then k + n else k))).toNat
  (lines.drop (clip start)).take (clip stop - clip start)

/-- The lines around line `line` (counting from 1), `radius` on each side, clipped to the text. -/
def codeContext (lines : List String) (line : Int) (radius : Int := 3) : String :=
  "\n".intercalate (sliceLines lines (max 0 (line - 1 - radius)) (min lines.length (line + radius)))

end SecScan.Analysis
