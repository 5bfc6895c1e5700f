import SecScan.Json.Literal

/-!
Taking a URL apart into its scheme and its network location, as the settings check needs it.
Leading control characters and spaces are dropped and tabs and line breaks removed first. The
scheme is what comes before the first colon when it starts with an ASCII letter and has only
letters, digits, `+`, `-` and `.`, in lower case. The network location follows a `//`, up to
the first `/`, `?` or `#`. A location with one square bracket but not the other is malformed, and
so is a bracketed host that is not an IPv6 address or a well-formed future address, and one
beyond ASCII holding a character whose compatibility form is or holds a `/`, `?`, `#`, `@` or
`:`, which it would gain when normalized.
-/

namespace SecScan.Address

/-- The parts of a URL the settings check looks at. -/
structure UrlParts where
  scheme : String
  netloc : String
  deriving Repr, BEq

/-- Whether a character is an ASCII letter. -/
def isAsciiLetter (c : Char) : Bool := ('a' ≤ c && c ≤ 'z') || ('A' ≤ c && c ≤ 'Z')

/-- Whether a character is an ASCII digit. -/
def isAsciiDigit (c : Char) : Bool := '0' ≤ c && c ≤ '9'

/-- Whether a character is a hexadecimal digit. -/
def isHexDigit (c : Char) : Bool :=
  isAsciiDigit c || ('a' ≤ c && c ≤ 'f') || ('A' ≤ c && c ≤ 'F')

/-- Whether a character may appear in a scheme. -/
def isSchemeChar (c : Char) : Bool :=
  isAsciiLetter c || isAsciiDigit c || c == '+' || c == '-' || c == '.'

/-- ASCII letters in lower case. -/
def lowerAscii (cs : List Char) : List Char :=
  cs.map fun c => if 'A' ≤ c && c ≤ 'Z' then Char.ofNat (c.toNat + 32) else c

/-- The text before the first `sep` and, if there is one, the text after it. -/
def splitFirst (sep : Char) (cs : List Char) : List Char × Option (List Char) :=
  match cs.splitOn sep with
  | [] => ([], none)
  | [whole] => (whole, none)
  | first :: rest => (first, some ((sep.toString).intercalate (rest.map String.ofList)).toList)

/-- The text after the last `@`, or all of it. -/
def afterLastAt (cs : List Char) : List Char := (cs.splitOn '@').getLast?.getD cs

/-- Whether text is a dotted IPv4 address: four decimal numbers up to 255, without leading
zeros. -/
def isIpv4 (cs : List Char) : Bool :=
  let octets := cs.splitOn '.'
  octets.length == 4 && octets.all fun o =>
    !o.isEmpty && o.all isAsciiDigit && o.length ≤ 3 && (o == ['0'] || o.head? != some '0') &&
      o.foldl (fun n d => n * 10 + (d.toNat - 48)) 0 ≤ 255

/-- Whether text is one group of an IPv6 address: one to four hexadecimal digits. -/
def isHextet (p : List Char) : Bool := !p.isEmpty && p.length ≤ 4 && p.all isHexDigit

/-- Whether colon-separated groups, with at most one empty group inside standing for a run of
zero groups, make up the eight groups of an IPv6 address. -/
def groupsFit (parts : List (List Char)) : Bool :=
  let n := parts.length
  let gaps := (List.range n).filter fun i => 0 < i && i + 1 < n && (parts.getD i []).isEmpty
  match gaps with
  | [] => n == 8 && parts.all isHextet
  | [k] =>
    let firstEmpty := (parts.headD []).isEmpty
    let lastEmpty := (parts.getLastD []).isEmpty
    let high := if firstEmpty then k - 1 else k
    let low := if lastEmpty then n - k - 2 else n - k - 1
    (!firstEmpty || k == 1) && (!lastEmpty || n - k - 1 == 1) && high + low < 8 &&
      (parts.take high).all isHextet && (parts.drop (n - low)).all isHextet
  | _ => false

/-- Whether text is an IPv6 address, possibly ending in a dotted IPv4 address and followed by a
`%` and a zone. -/
def isIpv6 (cs : List Char) : Bool :=
  let (addr, zone) := splitFirst '%' cs
  let zoneOk := match zone with
    | some z => !z.isEmpty && !z.contains '%'
    | none => true
  let parts := addr.splitOn ':'
  zoneOk && !addr.isEmpty && !addr.contains '/' && 3 ≤ parts.length &&
    match parts.getLast? with
    | some last =>
      if last.contains '.' then isIpv4 last && parts.length ≤ 8 && groupsFit (parts.dropLast ++ [['0'], ['0']])
      else parts.length ≤ 9 && groupsFit parts
    | none => false

/-- Checks a host written in square brackets. -/
def checkBracketedHost (host : List Char) : Except String Unit :=
  match host with
  | 'v' :: rest =>
    let digits := rest.takeWhile isHexDigit
    match rest.drop digits.length with
    | '.' :: _ :: _ => if digits.isEmpty then .error "IPvFuture address is invalid" else .ok ()
    | _ => .error "IPvFuture address is invalid"
  | _ =>
    if isIpv4 host then .error "An IPv4 address cannot be in brackets"
    else if isIpv6 host then .ok ()
    else .error (Json.quoteLiteral (String.ofList host) ++ " does not appear to be an IPv4 or IPv6 address")

/-- Checks a network location that has both square brackets. -/
def checkBracketed (netloc : List Char) : Except String Unit :=
  let hostAndPort := afterLastAt netloc
  match splitFirst '[' hostAndPort with
  | (before, some bracketed) =>
    if !before.isEmpty then .error "Invalid IPv6 URL"
    else
      let (host, port) := splitFirst ']' bracketed
      match port with
      | some p => if !p.isEmpty && p.head? != some ':' then .error "Invalid IPv6 URL" else checkBracketedHost host
      | none => checkBracketedHost host
  | (_, none) => checkBracketedHost (splitFirst ']' hostAndPort).1

/-- Closed intervals of the characters whose compatibility form holds a `/`, `?`, `#`, `@` or
`:` (Unicode 14). -/
def delimiterForming : List (Nat × Nat) :=
  [(8263, 8265), (8448, 8449), (8453, 8454), (10868, 10868), (65043, 65043), (65046, 65046),
    (65109, 65110), (65119, 65119), (65131, 65131), (65283, 65283), (65295, 65295),
    (65306, 65306), (65311, 65312)]

/-- Checks that a network location beyond ASCII gains no delimiter when normalized for
compatibility. -/
def checkNetloc (netloc : List Char) : Except String Unit :=
  let forms (c : Char) : Bool := delimiterForming.any fun (a, b) => a ≤ c.toNat && c.toNat ≤ b
  if netloc.any forms then
    .error ("netloc '" ++ String.ofList netloc ++
      "' contains invalid characters under NFKC normalization")
  else .ok ()

/-- Takes a URL apart; an error for a malformed bracketed host. -/
def split (url : String) : Except String UrlParts :=
  let cs := (url.toList.dropWhile (·.toNat ≤ 0x20)).filter fun c => c != '\t' && c != '\r' && c != '\n'
  let (scheme, rest) :=
    match cs.findIdx? (· == ':') with
    | some i =>
      match cs with
      | first :: _ =>
        if 0 < i && isAsciiLetter first && (cs.take i).all isSchemeChar then (lowerAscii (cs.take i), cs.drop (i + 1))
        else ([], cs)
      | [] => ([], cs)
    | none => ([], cs)
  match rest with
  | '/' :: '/' :: after =>
    let netloc := after.takeWhile fun c => c != '/' && c != '?' && c != '#'
    if netloc.contains '[' != netloc.contains ']' then .error "Invalid IPv6 URL"
    else do
      if netloc.contains '[' then checkBracketed netloc
      checkNetloc netloc
      pure ⟨String.ofList scheme, String.ofList netloc⟩
  | _ => .ok ⟨String.ofList scheme, ""⟩

/-- Whether a URL is a web address: an `http` or `https` scheme and a network location. -/
def isWebUrl (url : String) : Except String Bool :=
  (split url).map fun p => (p.scheme == "http" || p.scheme == "https") && !p.netloc.isEmpty

end SecScan.Address
