import SecScan.Http.Idna
import SecScan.Json.Literal
import SecScan.Number.Read
import SecScan.Text.Case
import SecScan.Text.Utf8

/-!
URLs as the HTTP client takes them apart. A URL is split into a scheme (letters first, then
letters, digits, `+`, `-` and `.`, before a colon), an authority after `//` (user information
up to the last `@`, a host, and a port after a colon), a path, a query after `?` and a fragment
after `#`. Each part is then checked and put in its encoded form:

* the scheme is lower-cased;
* the host is lower-cased and percent-encoded, except that a host of four digit runs joined by
  single characters must be a dotted IPv4 address, a host in brackets an IPv6 address, which
  loses its brackets, and a host beyond ASCII a valid internationalized name, which is put in its
  ASCII form;
* the port is read as an integer and dropped when it is the default of the scheme as written;
* a path with a scheme or an authority loses its `.` and `..` segments, and every part is
  percent-encoded, escapes already there kept.

A URL without both a scheme and a host is relative: the client puts its path, and its query,
under the root of an empty address. Decoding a part turns escapes back into UTF-8 bytes, each
bad sequence read as one replacement character.
-/

namespace SecScan.Http

/-- A URL in its encoded form. -/
structure Url where
  scheme : String
  userinfo : String
  /-- The host; an IPv6 address is kept without its brackets. -/
  host : String
  /-- The port, unless none was given or it is the scheme's default. -/
  port : Option Int
  path : String
  query : Option String
  fragment : Option String
  deriving Repr, BEq, Inhabited

/-- Whether a character is never percent-encoded: an ASCII letter or digit, `-`, `.`, `_` or
`~`. -/
def isUnreserved (c : Char) : Bool :=
  ('a' ≤ c && c ≤ 'z') || ('A' ≤ c && c ≤ 'Z') || ('0' ≤ c && c ≤ '9') || c == '-' ||
    c == '.' || c == '_' || c == '~'

/-- Whether a character is printable ASCII other than the space and the given exceptions. -/
def printableExcept (excluded : List Char) (c : Char) : Bool :=
  0x20 < c.toNat && c.toNat < 0x7F && !excluded.contains c

/-- The characters a path keeps as they are. -/
def pathSafe : Char → Bool := printableExcept ['"', '#', '<', '>', '?', '`', '\x7b', '\x7d']

/-- The characters a query keeps as they are. -/
def querySafe : Char → Bool := printableExcept ['"', '#', '<', '>']

/-- The characters a fragment keeps as they are. -/
def fragmentSafe : Char → Bool := printableExcept ['"', '<', '>', '`']

/-- Whether a character is a sub-delimiter. -/
def isSubDelim (c : Char) : Bool := "!$&'()*+,;=".contains c

/-- The characters user information keeps as they are. -/
def userinfoSafe (c : Char) : Bool := isSubDelim c || c == ':'

/-- The characters a host keeps as they are. -/
def hostSafe (c : Char) : Bool := isSubDelim c || "\"`\x7b\x7d%|\\".contains c

/-- Whether a character is a hexadecimal digit. -/
def isHexChar (c : Char) : Bool :=
  ('0' ≤ c && c ≤ '9') || ('a' ≤ c && c ≤ 'f') || ('A' ≤ c && c ≤ 'F')

/-- A character percent-encoded: each byte of its UTF-8 form as `%` and two upper-case
hexadecimal digits. -/
def percentOf (c : Char) : List Char :=
  let digit (n : Nat) : Char := if n < 10 then Char.ofNat (48 + n) else Char.ofNat (55 + n)
  c.toString.toUTF8.toList.flatMap fun b => ['%', digit (b.toNat / 16), digit (b.toNat % 16)]

/-- The value of a hexadecimal digit. -/
def hexDigit? (c : Char) : Option Nat :=
  if '0' ≤ c && c ≤ '9' then some (c.toNat - 48)
  else if 'a' ≤ c && c ≤ 'f' then some (c.toNat - 87)
  else if 'A' ≤ c && c ≤ 'F' then some (c.toNat - 55)
  else none

/-- Percent-encodes the characters that are neither unreserved nor safe, keeping every escape
that is already there. -/
def quoteChars (safe : Char → Bool) : List Char → List Char
  | [] => []
  | '%' :: a :: b :: rest =>
    if isHexChar a && isHexChar b then '%' :: a :: b :: quoteChars safe rest
    else (if safe '%' then ['%'] else percentOf '%') ++ quoteChars safe (a :: b :: rest)
  | c :: rest => (if isUnreserved c || safe c then [c] else percentOf c) ++ quoteChars safe rest

/-- Percent-encodes a text; see `quoteChars`. -/
def quote (safe : Char → Bool) (s : String) : String := String.ofList (quoteChars safe s.toList)

/-- The bytes of ASCII text with each escape turned into the byte it names. -/
def escapedBytes : List Char → List UInt8
  | [] => []
  | '%' :: a :: b :: rest =>
    match hexDigit? a, hexDigit? b with
    | some x, some y => UInt8.ofNat (16 * x + y) :: escapedBytes rest
    | _, _ => 37 :: escapedBytes (a :: b :: rest)
  | c :: rest => c.toString.toUTF8.toList ++ escapedBytes rest

/-- A text split into its maximal runs of ASCII characters and of other characters, in order,
each run marked by whether it is ASCII. -/
def asciiRuns (cs : List Char) : List (Bool × List Char) :=
  let step (acc : List (Bool × List Char)) (c : Char) : List (Bool × List Char) :=
    let ascii := c.toNat < 128
    match acc with
    | (b, run) :: more => if b == ascii then (b, c :: run) :: more else (ascii, [c]) :: acc
    | [] => [(ascii, [c])]
  ((cs.foldl step []).map fun (b, run) => (b, run.reverse)).reverse

/-- Decodes the escapes of a text: each run of ASCII characters becomes bytes, its escapes
decoded, read as UTF-8 with a replacement character for each bad sequence; other characters
stay as they are. -/
def unquoteChars (cs : List Char) : List Char :=
  (asciiRuns cs).flatMap fun (ascii, run) =>
    if ascii then (Text.decodeUtf8Replacing (ByteArray.mk (escapedBytes run).toArray)).toList
    else run

/-- Decodes the escapes of a text; see `unquoteChars`. -/
def unquote (s : String) : String := String.ofList (unquoteChars s.toList)

/-- Whether a character may follow the first letter of a scheme. -/
def isSchemeChar (c : Char) : Bool :=
  ('a' ≤ c && c ≤ 'z') || ('A' ≤ c && c ≤ 'Z') || ('0' ≤ c && c ≤ '9') || c == '+' ||
    c == '-' || c == '.'

/-- Splits off a scheme and its colon: a letter and scheme characters right before a colon, or
nothing before a colon that starts the text. -/
def splitScheme (cs : List Char) : String × List Char :=
  match cs with
  | ':' :: rest => ("", rest)
  | c :: more =>
    let run := more.takeWhile isSchemeChar
    if (('a' ≤ c && c ≤ 'z') || ('A' ≤ c && c ≤ 'Z')) && (more.drop run.length).head? == some ':' then
      (String.ofList (c :: run), more.drop (run.length + 1))
    else ("", cs)
  | [] => ("", [])

/-- The parts of an authority: user information, host and port, each as written. -/
structure Authority where
  userinfo : String
  host : String
  port : Option String
  deriving Repr, Inhabited

/-- Splits an authority: the user information runs to the last `@`; a host starting with `[`
runs to the last `]`, any other to the first `:`; a colon after the host is dropped and the rest
is the port. -/
def splitAuthority (cs : List Char) : Authority :=
  let (userinfo, hostPort) :=
    match cs.reverse.findIdx? (· == '@') with
    | some i => (cs.take (cs.length - i - 1), cs.drop (cs.length - i))
    | none => ([], cs)
  let (host, afterHost) :=
    match hostPort with
    | '[' :: _ =>
      match hostPort.reverse.findIdx? (· == ']') with
      | some i => (hostPort.take (hostPort.length - i), hostPort.drop (hostPort.length - i))
      | none =>
        let h := hostPort.takeWhile fun c => c != ':' && c != '@'
        (h, hostPort.drop h.length)
    | _ =>
      let h := hostPort.takeWhile fun c => c != ':' && c != '@'
      (h, hostPort.drop h.length)
  let port := match afterHost with
    | ':' :: rest => some (String.ofList rest)
    | [] => none
    | rest => some (String.ofList rest)
  ⟨String.ofList userinfo, String.ofList host, port⟩

/-- Whether text is `n` runs of ASCII digits, each after the first following one character of
any kind. -/
def isDigitRuns : Nat → List Char → Bool
  | 0, _ => false
  | 1, cs => !cs.isEmpty && cs.all Number.isDigit
  | n + 2, cs =>
    let run := cs.takeWhile Number.isDigit
    (List.range run.length).any fun i =>
      match cs.drop (i + 1) with
      | sep :: rest => sep != '\n' && isDigitRuns (n + 1) rest
      | [] => false

/-- Whether text is a dotted IPv4 address: four decimal parts up to 255, without leading zeros,
at most three digits each. -/
def isIPv4 (s : String) : Bool :=
  let octet (p : String) : Bool :=
    let cs := p.toList
    !cs.isEmpty && cs.all Number.isDigit && cs.length ≤ 3 && (cs.length == 1 || cs.head? != some '0') &&
      Number.digitsValue cs ≤ 255
  let parts := s.splitOn "."
  parts.length == 4 && parts.all octet && !s.toList.contains '/'

/-- Whether text is a group of an IPv6 address: one to four hexadecimal digits. -/
def isHextet (p : String) : Bool := !p.isEmpty && p.length ≤ 4 && p.toList.all isHexChar

/-- Whether text is an IPv6 address: eight groups, or fewer with one `::` standing for at least
one, the last two groups possibly written as an IPv4 address, and a zone after `%`. -/
def isIPv6 (s : String) : Bool :=
  let (addr, zone) := match s.splitOn "%" with
    | [a] => (a, true)
    | [a, z] => (a, !z.isEmpty)
    | _ => ("", false)
  let parts := addr.splitOn ":"
  let parts? : Option (List String) :=
    if parts.length < 3 then none
    else
      match parts.getLast? with
      | some last =>
        if last.toList.contains '.' then
          if isIPv4 last then some (parts.dropLast ++ ["0", "0"]) else none
        else some parts
      | none => none
  match parts? with
  | none => false
  | some parts =>
    if !zone || s.toList.contains '/' || addr.isEmpty || parts.length > 9 then false
    else
      let inner := (List.range parts.length).filter fun i =>
        0 < i && i + 1 < parts.length && (parts.getD i "").isEmpty
      match inner with
      | [] =>
        parts.length == 8 && parts.all isHextet
      | [k] =>
        let hi := if (parts.getD 0 "").isEmpty then k - 1 else k
        let lo := if (parts.getLastD "").isEmpty then parts.length - k - 2 else parts.length - k - 1
        let leadOk := !(parts.getD 0 "").isEmpty || k == 1
        let trailOk := !(parts.getLastD "").isEmpty || k + 2 == parts.length
        leadOk && trailOk && hi + lo < 8 &&
          ((parts.take k).drop (if (parts.getD 0 "").isEmpty then 1 else 0)).all isHextet &&
          ((parts.drop (k + 1)).take lo).all isHextet
      | _ => false

/-- The encoded form of a host, or the error for one that looks like an IP address and is not
one, or that is beyond ASCII and is not a valid internationalized name. -/
def encodeHost (host : String) : Except String String :=
  if host.isEmpty then .ok ""
  else if isDigitRuns 4 host.toList then
    if isIPv4 host then .ok host else .error ("Invalid IPv4 address: " ++ Json.quoteLiteral host)
  else if host.startsWith "[" && host.endsWith "]" && host.length ≥ 2 then
    let inner := String.ofList ((host.toList.drop 1).dropLast)
    if isIPv6 inner then .ok inner else .error ("Invalid IPv6 address: " ++ Json.quoteLiteral host)
  else if host.toList.all (·.toNat < 128) then .ok (quote hostSafe (Text.toLower host))
  else
    match Idna.encode (Text.toLower host) with
    | .ok name => .ok name
    | .error _ => .error ("Invalid IDNA hostname: " ++ Json.quoteLiteral host)

/-- The default port of a scheme as written. -/
def defaultPort : String → Option Int
  | "ftp" => some 21
  | "http" => some 80
  | "https" => some 443
  | "ws" => some 80
  | "wss" => some 443
  | _ => none

/-- The port given, or the error for one that is not an integer; none when it is empty or the
scheme's default. -/
def normalizePort (port : Option String) (scheme : String) : Except String (Option Int) :=
  match port with
  | none => .ok none
  | some "" => .ok none
  | some p =>
    match Number.readIntIn? p 10 with
    | none => .error ("Invalid port: " ++ Json.quoteLiteral p)
    | some n => .ok (if defaultPort scheme == some n then none else some n)

/-- A path without `.` and `..` segments. -/
def normalizePath (path : String) : String :=
  let parts := path.splitOn "/"
  if !(parts.contains "." || parts.contains "..") then path
  else
    let kept := parts.foldl (fun (out : List String) part =>
      if part == "." then out
      else if part == ".." then (if out.isEmpty || out == [""] then out else out.dropLast)
      else out ++ [part]) []
    "/".intercalate kept

/-- The error for a path that cannot go with the rest of its URL, if any. -/
def pathProblem (path : String) (hasScheme hasAuthority : Bool) : Option String :=
  if hasAuthority && !path.isEmpty && !path.startsWith "/" then
    some "For absolute URLs, path must be empty or begin with '/'"
  else if !hasScheme && !hasAuthority && path.startsWith "//" then
    some "Relative URLs cannot have a path starting with '//'"
  else if !hasScheme && !hasAuthority && path.startsWith ":" then
    some "Relative URLs cannot have a path starting with ':'"
  else none

/-- The longest URL taken. -/
def maxUrlLength : Nat := 65536

/-- The first ASCII control character of a text and its position. -/
def firstControl (cs : List Char) : Option (Char × Nat) :=
  (cs.zip (List.range cs.length)).find? (fun (c, _) => c.toNat < 0x20 || c.toNat == 0x7F)

/-- Takes a URL apart, or gives the message of the error that makes it invalid. -/
def Url.parse (text : String) : Except String Url := do
  let cs := text.toList
  if cs.length > maxUrlLength then throw "URL too long"
  if let some (c, i) := firstControl cs then
    throw ("Invalid non-printable ASCII character in URL, " ++ Json.quoteLiteral c.toString ++
      " at position " ++ toString i ++ ".")
  let (scheme, rest) := splitScheme cs
  let (authority, rest) :=
    match rest with
    | '/' :: '/' :: more =>
      let a := more.takeWhile fun c => c != '/' && c != '?' && c != '#'
      (a, more.drop a.length)
    | _ => ([], rest)
  let path := rest.takeWhile fun c => c != '?' && c != '#'
  let rest := rest.drop path.length
  let (query, rest) :=
    match rest with
    | '?' :: more =>
      let q := more.takeWhile (· != '#')
      (some q, more.drop q.length)
    | _ => (none, rest)
  let fragment := match rest with
    | '#' :: more => some more
    | _ => none
  let parts := splitAuthority authority
  let userinfo := quote userinfoSafe parts.userinfo
  let host ← encodeHost parts.host
  let port ← normalizePort parts.port scheme
  let hasScheme := !scheme.isEmpty
  let hasAuthority := !userinfo.isEmpty || !host.isEmpty || port.isSome
  let path := String.ofList path
  if let some problem := pathProblem path hasScheme hasAuthority then throw problem
  let path := if hasScheme || hasAuthority then normalizePath path else path
  pure { scheme := String.ofList (scheme.toList.map Char.toLower), userinfo := userinfo, host := host
         port := port, path := quote pathSafe path
         query := query.map fun q => quote querySafe (String.ofList q)
         fragment := fragment.map fun f => quote fragmentSafe (String.ofList f) }

namespace Url

/-- The host as the client reports it: a host whose first label is in Punycode is decoded,
which fails for one that does not decode to a valid name. -/
def readableHost (u : Url) : Except Idna.Failure String :=
  if u.host.startsWith "xn--" then Idna.decode u.host else .ok u.host

/-- Whether a URL has both a scheme and a host. -/
def isAbsolute (u : Url) : Bool := !u.scheme.isEmpty && !u.host.isEmpty

/-- The URL a client with no base address sends to: an absolute URL as it is, a relative one's
path and query under the root of an empty address. -/
def resolve (u : Url) : Url :=
  if u.isAbsolute then u
  else { scheme := "", userinfo := "", host := "", port := none
         path := "/" ++ String.ofList (u.path.toList.dropWhile (· == '/')), query := u.query
         fragment := none }

/-- The text of a URL. -/
def text (u : Url) : String :=
  let host := if u.host.toList.contains ':' then "[" ++ u.host ++ "]" else u.host
  let authority := (if u.userinfo.isEmpty then "" else u.userinfo ++ "@") ++ host ++
    (match u.port with | some p => ":" ++ toString p | none => "")
  (if u.scheme.isEmpty then "" else u.scheme ++ ":") ++
    (if authority.isEmpty then "" else "//" ++ authority) ++ u.path ++
    (match u.query with | some q => "?" ++ q | none => "") ++
    (match u.fragment with | some f => "#" ++ f | none => "")

/-- The decoded path; an empty path is the root. -/
def decodedPath (u : Url) : String := unquote (if u.path.isEmpty then "/" else u.path)

/-- The decoded user name: the user information before its first colon. -/
def username (u : Url) : String := unquote ((u.userinfo.splitOn ":").headD "")

/-- The decoded password: the user information after its first colon. -/
def password (u : Url) : String :=
  match u.userinfo.splitOn ":" with
  | _ :: rest => unquote (":".intercalate rest)
  | [] => ""

end Url

/-- A text percent-encoded for a query, keeping only unreserved characters; a `%` is encoded
too. -/
def formEncode (s : String) : String :=
  String.ofList (s.toList.flatMap fun c => if isUnreserved c then [c] else percentOf c)

/-- Query parameters as a query string. -/
def encodeParams (params : List (String × String)) : String :=
  "&".intercalate (params.map fun (k, v) => formEncode k ++ "=" ++ formEncode v)

/-- Query parameters of a query string: pairs split at `&`, key and value at the first `=`, a
missing value empty, with `+` read as a space and escapes decoded. -/
def queryParams (query : String) : List (String × String) :=
  let decode (s : String) : String := unquote (s.map fun c => if c == '+' then ' ' else c)
  (query.splitOn "&").filterMap fun part =>
    if part.isEmpty then none
    else
      match part.splitOn "=" with
      | [key] => some (decode key, "")
      | key :: value => some (decode key, decode ("=".intercalate value))
      | [] => none

end SecScan.Http
