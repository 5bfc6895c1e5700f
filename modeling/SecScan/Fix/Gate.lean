import SecScan.Fix.Result
import SecScan.Scan

/-!
The checks a replacement line passes before it is written. A suggestion from outside is usable
as code when it is not blank, has no code fence, does not open like advice ("Use ...",
"Consider ..."), has some code punctuation, and no line of it is flagged by the language's
rules. A proposed line is rejected if a line of it is still flagged, if it adds more than one
line, or if its length moves by more than the larger of 40 and the original length.
-/

namespace SecScan

open SecScan.Regex SecScan.Text

namespace Gate

/-- The words that open advice rather than code, followed by white space; case is ignored. -/
def proseStart : Pattern :=
  ⟨Regex.seq [.textStart,
    Regex.oneOf (["use", "replace", "avoid", "consider", "validate", "sanitize", "ensure",
      "switch", "change", "remove", "never", "always", "do not", "don't", "instead",
      "you should"].map Regex.lit),
    .set false [.blank]], true⟩

/-- Punctuation that only code has. -/
def codeChars : List Char := "=(){}[];:.'\"<>`".toList

/-- Extensions of files that comment with `#` rather than `//`. -/
def hashCommentSuffixes : List String :=
  [".py", ".pyw", ".rb", ".sh", ".bash", ".zsh", ".pl", ".pm", ".r", ".ps1", ".yaml", ".yml",
   ".toml", ".cfg", ".conf", ".tf"]

/-- The line comment token for a marker. -/
def commentPrefix (language : String) (fileName : String := "") : String :=
  if Language.normalize language == .python then "#"
  else if hashCommentSuffixes.contains (toLower (pathSuffix fileName)) then "#"
  else "//"

/-- The leading white space of a line. -/
def indentOf (line : String) : String := String.ofList (line.toList.takeWhile isBlank)

/-- Whether some rule flags some line of a text, each line without its carriage return. -/
def anyFlagged (rules : List Rule) (text : String) : Bool :=
  rules.any fun rule => (Scan.splitLines text).any fun l => rule.flags (Scan.dropCarriage l)

/-- Whether a text holds a code fence, three backticks in a row. -/
def hasFence : List Char → Bool
  | c :: rest => (c.toNat == 96 && rest.take 2 == [Char.ofNat 96, Char.ofNat 96]) || hasFence rest
  | [] => false

/-- Whether a suggested replacement may be applied as code. -/
def isUsableFix (suggestion : Option String) (language : String) : Bool :=
  match suggestion with
  | none => false
  | some s =>
    let text := strip s
    !text.isEmpty &&
      !hasFence text.toList &&
      (proseStart.matchStart text).isNone &&
      text.toList.any codeChars.contains &&
      !anyFlagged (Catalog.rulesFor language) text

/-- The rule's fix for a line, or `none` when the rule has no fix or the fix changes nothing. -/
def ruleFixFor (ruleId : String) (line : String) : Option String :=
  match Catalog.lookup ruleId with
  | some rule =>
    match rule.applyFix line with
    | some fixed => if fixed == line then none else some fixed
    | none => none
  | none => none

/-- Why a proposed line is rejected, or `none` when it passes. -/
def rejection (predicates : List Rule) (original proposed : String) : Option String :=
  if anyFlagged predicates proposed then some "fix still matches the vulnerable pattern"
  else if (Scan.splitLines proposed).length > 2 then some "fix adds more than one line"
  else if Int.natAbs ((proposed.length : Int) - original.length) > max 40 original.length then
    some "fix changes the line length disproportionately"
  else none

end Gate

end SecScan
