import SecScan.Regex.Basic

/-!
The pattern for credentials written into source: an identifier ending in a credential word,
an assignment or colon, and a quoted literal. Case is ignored.
-/

namespace SecScan.Detector

open SecScan.Regex Regex

/-- `password = "literal"`, also with `:=` or `:`. The identifier (group 1) may carry a prefix,
as in `dbPassword`; group 2 is the operator with its blanks and group 3 the quote. -/
def credentialLiteral : Pattern :=
  ⟨seq [.wordEdge,
    .group 1 (seq [.star false (.set false [.word]),
      oneOf [lit "password", lit "passwd", lit "pwd", lit "secret",
        seq [lit "api", opt (.char '_'), lit "key"]]]),
    .group 2 (oneOf [seq [blanks, opt (.char ':'), .char '=', blanks],
      seq [blanks, .char ':', blanks]]),
    .group 3 (chars "\"'`"), plus (noneOf "\"'`\n"), .backref 3], true⟩

end SecScan.Detector
