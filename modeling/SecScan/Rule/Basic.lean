import SecScan.Regex.Replace
import SecScan.Rule.EnvName

/-!
Detection rules. A rule names a weakness, a severity and a message, a pattern that flags a line,
and optionally a fix: a list of pattern substitutions applied to the flagged line in turn. The
scanner's confidence in a finding starts at 70, gains 15 for well-known rules, loses 5 on a line
longer than 100 characters, and never exceeds 95.
-/

namespace SecScan

open SecScan.Regex SecScan.Text

/-- How severe a weakness is, most severe first. -/
inductive Severity where
  | critical
  | high
  | medium
  | low
  deriving DecidableEq, Repr, Inhabited

namespace Severity

/-- The name of a severity. -/
def name : Severity → String
  | .critical => "critical"
  | .high => "high"
  | .medium => "medium"
  | .low => "low"

/-- 0 for critical through 3 for low. -/
def rank : Severity → Nat
  | .critical => 0
  | .high => 1
  | .medium => 2
  | .low => 3

/-- The severity with the given name, exactly as written. -/
def ofName? : String → Option Severity
  | "critical" => some .critical
  | "high" => some .high
  | "medium" => some .medium
  | "low" => some .low
  | _ => none

end Severity

/-- The classes of weakness the catalog reports. -/
inductive Weakness where
  | codeInjection
  | sqlInjection
  | crossSiteScripting
  | domScripting
  | hardcodedCredentials
  | weakHash
  | weakRandom
  | insecureHttp
  | commandInjection
  | insecureDeserialization
  deriving DecidableEq, Repr

namespace Weakness

/-- Every weakness, in the catalog's order. -/
def all : List Weakness :=
  [.codeInjection, .sqlInjection, .crossSiteScripting, .domScripting, .hardcodedCredentials,
   .weakHash, .weakRandom, .insecureHttp, .commandInjection, .insecureDeserialization]

/-- The title under which findings report a weakness. -/
def title : Weakness → String
  | .codeInjection => "Code Injection"
  | .sqlInjection => "SQL Injection"
  | .crossSiteScripting => "Cross-Site Scripting (XSS)"
  | .domScripting => "DOM-based XSS"
  | .hardcodedCredentials => "Hardcoded Credentials"
  | .weakHash => "Weak Cryptographic Hash"
  | .weakRandom => "Weak Random Number Generation"
  | .insecureHttp => "Insecure HTTP Request"
  | .commandInjection => "Command Injection"
  | .insecureDeserialization => "Insecure Deserialization"

/-- The constant-style key of a weakness. -/
def key : Weakness → String
  | .codeInjection => "CODE_INJECTION"
  | .sqlInjection => "SQL_INJECTION"
  | .crossSiteScripting => "XSS"
  | .domScripting => "DOM_XSS"
  | .hardcodedCredentials => "HARDCODED_CREDENTIALS"
  | .weakHash => "WEAK_HASH"
  | .weakRandom => "WEAK_RANDOM"
  | .insecureHttp => "INSECURE_HTTP"
  | .commandInjection => "COMMAND_INJECTION"
  | .insecureDeserialization => "INSECURE_DESERIALIZATION"

/-- The weakness with the given title, exactly as written. -/
def ofTitle? (s : String) : Option Weakness := all.find? (·.title == s)

end Weakness

/-- How a fix writes the replacement of one match. -/
inductive Rewrite where
  /-- A template of text and groups. -/
  | template (pieces : List Piece)
  /-- `SHA256` if group 1 is in upper case, else `sha256`, then group 2. -/
  | strongDigest
  /-- Groups 1 and 2, then `before`, the environment variable name of group 1, and `after`. -/
  | envLookup (before after : String)
  /-- The query of groups 1 and 2 with `mark` for the value; when the literal is a call argument,
  the value of group 3 follows in a parameter list between `argsOpen` and `argsClose`. -/
  | placeholder (mark argsOpen argsClose : String)

namespace Rewrite

/-- Writes the replacement of a match. -/
def render (t : Subject) (m : Match) : Rewrite → String
  | .template pieces => t.render m pieces
  | .strongDigest =>
    (if isUpperText (t.groupText m 1) then "SHA256" else "sha256") ++ t.groupText m 2
  | .envLookup before after =>
    t.groupText m 1 ++ t.groupText m 2 ++ before ++ Rule.envName (t.groupText m 1) ++ after
  | .placeholder mark argsOpen argsClose =>
    let quote := t.groupText m 1
    let query := quote ++ t.groupText m 2 ++ " " ++ mark ++ quote
    if (stripEnd (t.slice 0 m.start)).endsWith "(" then
      query ++ ", " ++ argsOpen ++ t.groupText m 3 ++ argsClose
    else
      query

end Rewrite

/-- One substitution of a fix: every match of the pattern is rewritten. -/
structure FixStep where
  pattern : Pattern
  rewrite : Rewrite

/-- Applies a substitution to a line. -/
def FixStep.apply (step : FixStep) (line : String) : String :=
  let t := Subject.ofText step.pattern line
  replaceAll t step.pattern.regex fun m => step.rewrite.render t m

/-- A catalog entry: what it flags, how it is reported, and how it is fixed. -/
structure Rule where
  id : String
  weakness : Weakness
  severity : Severity
  message : String
  detect : Pattern
  fix : List FixStep := []
  fixExplanation : String := ""
  fixConfidence : Nat := 75
  wellKnown : Bool := false

namespace Rule

/-- Whether the rule has a fix. -/
def hasFix (rule : Rule) : Bool := !rule.fix.isEmpty

/-- The line after the fix's substitutions, or `none` for a rule without a fix. -/
def applyFix (rule : Rule) (line : String) : Option String :=
  if rule.fix.isEmpty then none else some (rule.fix.foldl (fun l step => step.apply l) line)

/-- Whether the rule flags a line. -/
def flags (rule : Rule) (line : String) : Bool := rule.detect.occursIn line

/-- The scanner's confidence in a finding of this rule on a line. -/
def defaultConfidence (rule : Rule) (line : String) : Nat :=
  let base := if rule.wellKnown then 85 else 70
  min (if line.length > 100 then base - 5 else base) 95

end Rule

end SecScan
