import SecScan.Regex.Basic

/-!
The pattern for requests over plain HTTP: `fetch` of an `http://` address that is not the local
host.
-/

namespace SecScan.Detector

open SecScan.Regex Regex

/-- `fetch("http://` to a host other than `localhost` or `127.0.0.1`; the call up to the quote
is group 1 and the quote group 2. -/
def fetchHttp : Pattern :=
  ⟨seq [.group 1 (seq [.wordEdge, lit "fetch", blanks, .char '(', blanks]),
    .group 2 (chars "\"'`"), lit "http://",
    .ahead true (oneOf [seq [lit "localhost", .wordEdge], seq [lit "127.0.0.1", .wordEdge]])],
   false⟩

end SecScan.Detector
