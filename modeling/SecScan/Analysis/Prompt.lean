import SecScan.Finding

/-!
The texts sent to the assistant: a system text for each kind of request, and the prompts for
explaining a finding, for a replacement line, and for a review of a whole file. Each prompt
shows the code in fences labelled with the language and ends with the JSON shape of the answer.
-/

namespace SecScan.Analysis

/-- The system text of the per-finding analysis. -/
def analysisSystem : String :=
  "You are a cybersecurity expert specializing in static code analysis and " ++
    "vulnerability remediation. Reply with JSON only."

/-- The system text of the fix request. -/
def fixSystem : String :=
  "You are a senior security engineer specializing in secure code " ++
    "remediation. Reply with JSON only."

/-- The system text of the whole-file review. -/
def fileSystem : String :=
  "You are an expert security analyst. Analyze code for security " ++
    "vulnerabilities and reply with a JSON array only."

/-- Three backticks. -/
def fence : String := "```"

/-- Code in a fence labelled with the language. -/
def fenced (language code : String) : String := fence ++ language ++ "\n" ++ code ++ "\n" ++ fence

/-- The prompt asking for an explanation, a replacement line and a confidence. -/
def findingPrompt (f : Finding) (context target language : String) : String :=
  "Analyze this security finding.\n\nFinding:\n- Type: " ++ f.kind ++ "\n- Severity: " ++
    f.severity.name ++ "\n- Line: " ++ f.lineText ++ "\n- Message: " ++ f.message ++
    "\n\nCode context:\n" ++ fenced language context ++ "\n\nFlagged line (" ++ f.lineText ++
    "):\n" ++ fenced language target ++ "\n\nRespond in JSON:\n\x7b\n" ++
    "  \"explanation\": \"Why this is a security risk\",\n" ++
    "  \"suggestedFix\": \"The flagged line rewritten securely, code only\",\n" ++
    "  \"confidence\": 85\n\x7d\n"

/-- The prompt asking for one secure replacement of the flagged line. -/
def fixPrompt (f : Finding) (context target language : String) : String :=
  "Generate a secure replacement for the flagged line.\n\nFinding:\n- Type: " ++ f.kind ++
    "\n- Severity: " ++ f.severity.name ++ "\n- Line: " ++ f.lineText ++ "\n- Description: " ++
    f.message ++ "\n- Suggested fix: " ++
    (match f.suggestedFix with
      | some s => if s.isEmpty then "None provided" else s
      | none => "None provided") ++
    "\n\nCode context:\n" ++ fenced language context ++ "\n\nFlagged line (" ++ f.lineText ++
    "):\n" ++ fenced language target ++
    "\n\nKeep the original behaviour and indentation. Replace only this line.\n\n" ++
    "Respond in JSON:\n\x7b\n  \"fixedLine\": \"The replacement line\",\n" ++
    "  \"explanation\": \"Why the replacement removes the vulnerability\",\n" ++
    "  \"confidence\": 90\n\x7d\n"

/-- The prompt asking for a review of a whole file. -/
def filePrompt (text fileName language : String) : String :=
  "Perform a security analysis of this " ++ language ++ " file.\n\nFile: " ++ fileName ++
    "\n\n" ++ fenced language text ++
    "\n\nReport injection, XSS, authentication, sensitive data exposure,\n" ++
    "cryptographic weaknesses, insecure deserialization and SSRF issues.\n\n" ++
    "Respond with a JSON array (empty when nothing is found):\n[\n  \x7b\n" ++
    "    \"line\": 10,\n    \"type\": \"SQL Injection\",\n    \"severity\": \"critical\",\n" ++
    "    \"description\": \"SQL query built with user input\",\n    \"confidence\": 90,\n" ++
    "    \"suggestedFix\": \"Use parameterized queries\"\n  \x7d\n]\n"

end SecScan.Analysis
