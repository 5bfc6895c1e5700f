/-!
Names of environment variables for credentials: `dbPassword` becomes `DB_PASSWORD`. A name is
split where a lower-case letter or digit meets an upper-case letter, every run of characters
other than ASCII letters and digits becomes one underscore, underscores at the ends are dropped,
and the rest is upper-cased. A name with nothing left becomes `SECRET`.
-/

namespace SecScan.Rule

/-- An ASCII letter or digit. -/
def isNameChar (c : Char) : Bool :=
  ('0' ≤ c && c ≤ '9') || ('a' ≤ c && c ≤ 'z') || ('A' ≤ c && c ≤ 'Z')

/-- Puts an underscore between a lower-case ASCII letter or digit and an upper-case ASCII letter
that follows it. -/
def splitCamel : List Char → List Char
  | a :: b :: rest =>
    if (('a' ≤ a && a ≤ 'z') || ('0' ≤ a && a ≤ '9')) && ('A' ≤ b && b ≤ 'Z') then
      a :: '_' :: splitCamel (b :: rest)
    else
      a :: splitCamel (b :: rest)
  | cs => cs

/-- Writes each run of characters other than ASCII letters and digits as one underscore;
`inGap` tells whether such a run was just written. -/
def squeezeGaps (inGap : Bool) : List Char → List Char
  | [] => []
  | c :: rest =>
    if isNameChar c then c :: squeezeGaps false rest
    else if inGap then squeezeGaps true rest
    else '_' :: squeezeGaps true rest

/-- Drops underscores from both ends. -/
def trimUnderscores (cs : List Char) : List Char :=
  ((cs.dropWhile (· == '_')).reverse.dropWhile (· == '_')).reverse

/-- The environment variable name for a credential identifier. -/
def envName (name : String) : String :=
  let cleaned := trimUnderscores (squeezeGaps false (splitCamel name.toList))
  if cleaned.isEmpty then "SECRET" else String.ofList (cleaned.map Char.toUpper)

end SecScan.Rule
