import SecScan.Regex.Basic

/-!
Patterns for markup written into a page: assignments to `innerHTML` or `outerHTML`, and
`document.write`.
-/

namespace SecScan.Detector

open SecScan.Regex Regex

/-- An assignment (`=` or `+=`, not a comparison) to `innerHTML` or `outerHTML`. -/
def htmlSink : Pattern :=
  ⟨seq [.char '.', oneOf [lit "innerHTML", lit "outerHTML"], blanks, opt (.char '+'), .char '=',
    .ahead true (.char '=')], false⟩

/-- An assignment to `innerHTML`: the blanks are group 1 and the operator group 2. -/
def innerHtmlAssignment : Pattern :=
  ⟨seq [lit ".innerHTML", .group 1 blanks, .group 2 (seq [opt (.char '+'), .char '=']),
    .ahead true (.char '=')], false⟩

/-- `document.write(` or `document.writeln(`. -/
def documentWrite : Pattern :=
  ⟨seq [.wordEdge, lit "document.write", opt (lit "ln"), blanks, .char '('], false⟩

end SecScan.Detector
