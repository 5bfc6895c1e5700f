import SecScan.Regex.Basic

/-!
Patterns for weak cryptography: MD5 and SHA-1 digests, and `Math.random`. The digest patterns
ignore case.
-/

namespace SecScan.Detector

open SecScan.Regex Regex

/-- The two weak digest names. -/
def weakDigestName : Regex := oneOf [lit "md5", lit "sha1"]

/-- A call of `md5(` or `sha1(`, bare or as an attribute; the name is group 1 and the blanks and
parenthesis group 2. -/
def weakHashCall : Pattern :=
  ⟨seq [.wordEdge, .group 1 weakDigestName, .group 2 (seq [blanks, .char '('])], true⟩

/-- `createHash("md5")`: the call up to the quote is group 1 and the quote group 2. -/
def createHashWeak : Pattern :=
  ⟨seq [.group 1 (seq [.wordEdge, lit "createHash", blanks, .char '(', blanks]),
    .group 2 (chars "\"'`"), weakDigestName, .backref 2], true⟩

/-- A weak digest call, or `createHash` with a weak digest name. -/
def weakHashUse : Pattern :=
  ⟨oneOf [seq [.wordEdge, weakDigestName, blanks, .char '('],
    seq [.wordEdge, lit "createHash", blanks, .char '(', blanks, chars "\"'`", weakDigestName,
      chars "\"'`"]], true⟩

/-- `MessageDigest.getInstance("MD5")` or with SHA-1; the call up to the quote is group 1. -/
def messageDigestWeak : Pattern :=
  ⟨seq [.group 1 (seq [.wordEdge, lit "MessageDigest.getInstance", blanks, .char '(', blanks]),
    .char '"', oneOf [lit "MD5", seq [lit "SHA", opt (.char '-'), .char '1']], .char '"'], true⟩

/-- `Math.random()`. -/
def mathRandom : Pattern :=
  ⟨seq [.wordEdge, lit "Math.random", blanks, .char '(', blanks, .char ')'], false⟩

end SecScan.Detector
