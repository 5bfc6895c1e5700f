import SecScan.Http.Url
import SecScan.Json.Reader
import SecScan.Json.Bytes
import SecScan.Json.Printer
import SecScan.Text.Surrogate

/-!
HTTP requests as the tool sends them and replies as it reads them. A request is a method, a URL,
query parameters, headers, an optional basic authorization and an optional JSON body. Sending it
first takes the URL apart (see `Url.parse`); an invalid URL stops there. Query parameters, when
given, replace the URL's query. Query parameters, the body and the authorization must have no
lone surrogate, header values must be ASCII and the body must have only finite numbers, or
building the request fails with a value error. Without an authorization of its own,
a request whose URL has a user name or password is authorized with them. The request then
reaches the transport, which logs it (the URL's parts decoded, and only the headers that carry
meaning here; reading a host in Punycode back fails for one that is not a valid name) and
refuses a URL without a scheme. A reply is a status with a JSON or text body,
or a failure to connect; only a status from 200 to 299 is a success.
-/

namespace SecScan.Http

/-- The base64 alphabet. -/
def base64Letter (n : Nat) : Char :=
  if n < 26 then Char.ofNat (65 + n)
  else if n < 52 then Char.ofNat (71 + n)
  else if n < 62 then Char.ofNat (n - 4)
  else if n == 62 then '+' else '/'

/-- Bytes in base64, padded with `=`. -/
def base64 : List UInt8 → List Char
  | a :: b :: c :: rest =>
    let n := a.toNat * 65536 + b.toNat * 256 + c.toNat
    [base64Letter (n / 262144), base64Letter (n / 4096 % 64), base64Letter (n / 64 % 64),
      base64Letter (n % 64)] ++ base64 rest
  | [a, b] =>
    let n := a.toNat * 65536 + b.toNat * 256
    [base64Letter (n / 262144), base64Letter (n / 4096 % 64), base64Letter (n / 64 % 64), '=']
  | [a] =>
    let n := a.toNat * 65536
    [base64Letter (n / 262144), base64Letter (n / 4096 % 64), '=', '=']
  | [] => []

/-- The basic authorization header value for a user and password. -/
def basicAuth (user password : String) : String :=
  "Basic " ++ String.ofList (base64 (user ++ ":" ++ password).toUTF8.toList)

/-- A request the tool sends. -/
structure Request where
  method : String
  url : String
  /-- Query parameters; when there are any they replace the URL's query. -/
  params : List (String × String) := []
  headers : List (String × String) := []
  /-- A user name and password to authorize with. -/
  auth : Option (String × String) := none
  body : Option Json := none
  deriving Repr, Inhabited

/-- ASCII letters in lower case. -/
def lowerAscii (cs : List Char) : List Char :=
  cs.map fun c => if 'A' ≤ c && c ≤ 'Z' then Char.ofNat (c.toNat + 32) else c

/-- The headers a logged request shows. -/
def loggedHeaders : List String := ["content-type", "authorization", "x-api-key", "anthropic-version"]

/-- Orders parameter pairs by key, then by value. -/
def pairLe (a b : String × String) : Bool := a.1 < b.1 || (a.1 == b.1 && a.2 ≤ b.2)

mutual

/-- Whether a JSON value has a number that is not finite. -/
def hasNonFinite : Json → Bool
  | .float x => !x.isFinite
  | .arr items => itemsHaveNonFinite items
  | .obj fields => fieldsHaveNonFinite fields
  | _ => false

/-- Whether some item of an array has a number that is not finite. -/
def itemsHaveNonFinite : List Json → Bool
  | [] => false
  | v :: rest => hasNonFinite v || itemsHaveNonFinite rest

/-- Whether some field of an object has a number that is not finite. -/
def fieldsHaveNonFinite : List (String × Json) → Bool
  | [] => false
  | (_, v) :: rest => hasNonFinite v || fieldsHaveNonFinite rest

end

/-- The message of the error escaping a query parameter's text for a URL, which encodes one
character at a time, so a surrogate is always at position 0 of what failed. -/
def paramErrorText (s : String) : Option String :=
  (s.toList.find? Text.isSurrogate).bind fun c => Text.utf8ErrorText [c]

/-- What became of a request the client was asked to send, before any reply. -/
inductive Sending where
  /-- The URL is invalid, with the message. -/
  | badUrl (message : String)
  /-- Building the request failed with a value error, of this kind and message. -/
  | unbuildable (kind message : String)
  /-- The request reached the transport and was logged; for a URL without a scheme, the
  transport then refused it with this value error message. -/
  | sent (entry : Json) (refused : Option String)
  deriving Repr, Inhabited

/-- Sends a request as far as the transport. -/
def Request.send (r : Request) : Sending :=
  match Url.parse r.url with
  | .error m => .badUrl m
  | .ok given =>
    let url := given.resolve
    let url := if r.params.isEmpty then url else { url with query := some (encodeParams r.params) }
    let badParam := r.params.findSome? fun (k, v) => paramErrorText (k ++ v)
    let badHeader := r.headers.findSome? fun (_, v) => Json.asciiErrorText v.toList
    let badBody := r.body.bind fun b => Text.utf8ErrorText (Json.renderKept b).toList
    let badAuth := r.auth.bind fun (user, password) =>
      (Text.utf8ErrorText user.toList).orElse fun _ => Text.utf8ErrorText password.toList
    match badParam, badHeader with
    | some m, _ => .unbuildable "UnicodeEncodeError" m
    | none, some m => .unbuildable "UnicodeEncodeError" m
    | none, none =>
      if r.body.any hasNonFinite then
        .unbuildable "ValueError" "Out of range float values are not JSON compliant"
      else if let some m := badBody then .unbuildable "UnicodeEncodeError" m
      else if let some m := badAuth then .unbuildable "UnicodeEncodeError" m
      else
        match url.readableHost with
        | .error f => .unbuildable f.kind f.message
        | .ok shownHost =>
          let credentials := match r.auth with
            | some a => some a
            | none =>
              if url.username.isEmpty && url.password.isEmpty then none
              else some (url.username, url.password)
          let headers := match credentials with
            | some (user, password) =>
              r.headers.filter (fun (kv : String × String) =>
                  String.ofList (lowerAscii kv.1.toList) != "authorization") ++
                [("Authorization", basicAuth user password)]
            | none => r.headers
          let params := if r.params.isEmpty then (url.query.map queryParams).getD [] else r.params
          let params := params.mergeSort pairLe
          let logged := headers.filterMap fun (kv : String × String) =>
            let (k, v) := kv
            let key := String.ofList (lowerAscii k.toList)
            if loggedHeaders.contains key then some (key, Json.str v) else none
          let entry : Json := .obj ([("method", .str r.method), ("scheme", .str url.scheme),
            ("host", .str shownHost), ("port", match url.port with | some p => .int p | none => .null),
            ("path", .str url.decodedPath),
            ("params", .arr (params.map fun (k, v) => .arr [.str k, .str v])),
            ("headers", Json.ofPairs logged)] ++
            match r.body with
            | some b => [("json", b)]
            | none => [])
          let refused := "unknown url type: " ++ Json.quoteLiteral url.text
          .sent entry (if url.scheme.isEmpty then some refused else none)

/-- The logged form of a request that reaches the transport. -/
def Request.log? (r : Request) : Option Json :=
  match r.send with
  | .sent entry _ => some entry
  | _ => none

/-- A reply to a request. -/
inductive Reply where
  /-- A status and a JSON body. -/
  | json (status : Nat) (body : Json)
  /-- A status and a text body. -/
  | text (status : Nat) (body : String)
  /-- The server could not be reached, with the reason. -/
  | failure (message : String)
  deriving Repr, Inhabited

namespace Reply

/-- The status of a reply that came. -/
def status? : Reply → Option Nat
  | .json s _ => some s
  | .text s _ => some s
  | .failure _ => none

/-- Whether a status is a success. -/
def isSuccessStatus (s : Nat) : Bool := 200 ≤ s && s < 300

/-- The body read as JSON, with arrays and objects nested at most `room` deep: none when it is
not JSON, and an error when it nests too deep to be read, which no caller takes for a body that
is not JSON. The body's bytes are decoded by the encoding their first bytes show (see
`Json.documentText`), and bytes that do not decode are no JSON. -/
def document (room : Nat) : Reply → Except Json.ReadError (Option Json)
  | .json _ v => .ok (some v)
  | .text _ t =>
    match Json.documentText t with
    | none => .ok none
    | some t =>
      match Json.parseWithin room t with
      | .ok v => .ok (some v)
      | .error (.tooDeep isObject) => .error (.tooDeep isObject)
      | .error _ => .ok none
  | .failure _ => .ok none

end Reply

end SecScan.Http
