import SecScan.Rule.Basic
import SecScan.Detector.Injection
import SecScan.Detector.Markup
import SecScan.Detector.Secret
import SecScan.Detector.Crypto
import SecScan.Detector.Transport
import SecScan.Detector.Deserialization

/-!
The rules of each language, in the order they are tried on a line. Rule ids are the language
followed by a colon and the rule's name. The language-neutral rules (eval, weak digests and
credentials) serve every language the catalog does not list.
-/

namespace SecScan.Catalog

open SecScan.Regex SecScan.Detector

private def evalMessage : String := "Using eval can lead to code injection vulnerabilities"
private def weakHashMessage : String := "MD5 and SHA-1 are weak cryptographic hash functions"
private def weakHashExplanation : String := "Replaced the weak hash function with SHA-256"
private def credentialMessage : String := "Hardcoded credentials detected in source code"
private def credentialExplanation : String :=
  "Replaced hardcoded credential with an environment variable"
private def sqlConcatMessage : String :=
  "SQL query built from user input can lead to SQL injection"
private def placeholderExplanation : String :=
  "Replaced string concatenation with a parameterized query; " ++
    "bind the value where the query runs if it is not passed alongside"

/-- The language-neutral rules, with ids in the given language. -/
def neutralRules (language : String) : List Rule :=
  [ { id := language ++ ":eval", weakness := .codeInjection, severity := .critical
      message := evalMessage, detect := evalCall, wellKnown := true },
    { id := language ++ ":weak-hash", weakness := .weakHash, severity := .medium
      message := weakHashMessage, detect := weakHashCall
      fix := [⟨weakHashCall, .strongDigest⟩]
      fixExplanation := weakHashExplanation, fixConfidence := 75 },
    { id := language ++ ":hardcoded-credentials", weakness := .hardcodedCredentials
      severity := .critical, message := credentialMessage, detect := credentialLiteral } ]

/-- The rules for JavaScript and TypeScript, with ids in the given language. -/
def scriptRules (language : String) : List Rule :=
  [ { id := language ++ ":eval", weakness := .codeInjection, severity := .critical
      message := evalMessage, detect := evalCall
      fix := [⟨evalCall, .template [.text "JSON.parse("]⟩]
      fixExplanation := "Replaced eval() with JSON.parse() to prevent code injection"
      fixConfidence := 85, wellKnown := true },
    { id := language ++ ":function-constructor", weakness := .codeInjection
      severity := .critical
      message := "The Function constructor compiles code from strings like eval"
      detect := functionConstructor },
    { id := language ++ ":inner-html", weakness := .crossSiteScripting, severity := .high
      message := "Using innerHTML can expose the application to Cross-Site Scripting (XSS) attacks"
      detect := htmlSink
      fix := [⟨innerHtmlAssignment, .template [.text ".textContent", .group 1, .group 2]⟩]
      fixExplanation := "Replaced innerHTML with textContent to prevent XSS"
      fixConfidence := 90, wellKnown := true },
    { id := language ++ ":document-write", weakness := .domScripting, severity := .high
      message := "document.write can lead to DOM-based XSS vulnerabilities"
      detect := documentWrite },
    { id := language ++ ":hardcoded-credentials", weakness := .hardcodedCredentials
      severity := .critical, message := credentialMessage, detect := credentialLiteral
      fix := [⟨credentialLiteral, .envLookup "process.env." ""⟩]
      fixExplanation := credentialExplanation, fixConfidence := 80 },
    { id := language ++ ":sql-concatenation", weakness := .sqlInjection, severity := .critical
      message := sqlConcatMessage, detect := sqlConcat
      fix := [⟨sqlConcatOperand, .placeholder "?" "[" "]"⟩]
      fixExplanation := placeholderExplanation, fixConfidence := 85 },
    { id := language ++ ":weak-hash", weakness := .weakHash, severity := .medium
      message := weakHashMessage, detect := weakHashUse
      fix := [⟨createHashWeak, .template [.group 1, .group 2, .text "sha256", .group 2]⟩,
        ⟨weakHashCall, .strongDigest⟩]
      fixExplanation := weakHashExplanation, fixConfidence := 85 },
    { id := language ++ ":math-random", weakness := .weakRandom, severity := .low
      message := "Math.random is not cryptographically secure", detect := mathRandom },
    { id := language ++ ":insecure-fetch", weakness := .insecureHttp, severity := .medium
      message := "HTTP request over an unencrypted connection", detect := fetchHttp
      fix := [⟨fetchHttp, .template [.group 1, .group 2, .text "https://"]⟩]
      fixExplanation := "Switched the request to HTTPS", fixConfidence := 80 } ]

/-- The rules for Python. -/
def pythonRules : List Rule :=
  [ { id := "python:eval", weakness := .codeInjection, severity := .critical
      message := evalMessage, detect := evalCall
      fix := [⟨evalCall, .template [.text "ast.literal_eval("]⟩]
      fixExplanation := "Replaced eval() with ast.literal_eval() which only evaluates literals"
      fixConfidence := 85, wellKnown := true },
    { id := "python:exec", weakness := .codeInjection, severity := .critical
      message := "exec() runs arbitrary Python code", detect := execCall },
    { id := "python:hardcoded-credentials", weakness := .hardcodedCredentials
      severity := .critical, message := credentialMessage, detect := credentialLiteral
      fix := [⟨credentialLiteral, .envLookup "os.environ[\"" "\"]"⟩]
      fixExplanation := credentialExplanation, fixConfidence := 80 },
    { id := "python:sql-concatenation", weakness := .sqlInjection, severity := .critical
      message := sqlConcatMessage, detect := sqlConcat
      fix := [⟨sqlConcatOperand, .placeholder "%s" "(" ",)"⟩]
      fixExplanation := placeholderExplanation, fixConfidence := 85 },
    { id := "python:sql-fstring", weakness := .sqlInjection, severity := .critical
      message := "f-string used to build a SQL query with embedded values"
      detect := sqlFormatString },
    { id := "python:os-system", weakness := .commandInjection, severity := .critical
      message := "Executing shell commands with user input can lead to command injection"
      detect := osCommand },
    { id := "python:subprocess-shell", weakness := .commandInjection, severity := .high
      message := "subprocess call with shell=True passes input through the shell"
      detect := shellTrue
      fix := [⟨shellTrueArgument, .template [.text "shell", .group 1, .text "=", .group 2,
        .text "False"]⟩]
      fixExplanation := "Disabled shell interpretation for the subprocess call"
      fixConfidence := 75 },
    { id := "python:pickle", weakness := .insecureDeserialization, severity := .high
      message := "Unsafe pickle usage can lead to code execution", detect := pickleLoad
      fix := [⟨pickleLoad, .template [.text "json.", .group 1, .text "("]⟩]
      fixExplanation := "Replaced pickle with JSON deserialization", fixConfidence := 75 },
    { id := "python:yaml-load", weakness := .insecureDeserialization, severity := .medium
      message := "yaml.load without an explicit Loader can construct arbitrary objects"
      detect := yamlLoad
      fix := [⟨yamlLoadName, .template [.text "yaml.safe_load", .group 1]⟩]
      fixExplanation := "Replaced yaml.load with yaml.safe_load", fixConfidence := 90 },
    { id := "python:weak-hash", weakness := .weakHash, severity := .medium
      message := weakHashMessage, detect := weakHashCall
      fix := [⟨weakHashCall, .strongDigest⟩]
      fixExplanation := weakHashExplanation, fixConfidence := 85 } ]

/-- The rules for Java. -/
def javaRules : List Rule :=
  [ { id := "java:script-eval", weakness := .codeInjection, severity := .critical
      message := "Evaluating script text (ScriptEngine.eval) can lead to code injection"
      detect := evalCall, wellKnown := true },
    { id := "java:sql-concatenation", weakness := .sqlInjection, severity := .critical
      message := sqlConcatMessage, detect := sqlConcat },
    { id := "java:statement-execute", weakness := .sqlInjection, severity := .critical
      message := "Statement executed with a concatenated query; use PreparedStatement"
      detect := executeConcat },
    { id := "java:deserialization", weakness := .insecureDeserialization
      severity := .critical
      message := "Deserializing untrusted data can lead to remote code execution"
      detect := objectStream },
    { id := "java:runtime-exec", weakness := .commandInjection, severity := .critical
      message := "Runtime.exec with user input can lead to command injection"
      detect := runtimeExec },
    { id := "java:hardcoded-credentials", weakness := .hardcodedCredentials
      severity := .critical, message := credentialMessage, detect := credentialLiteral
      fix := [⟨credentialLiteral, .envLookup "System.getenv(\"" "\")"⟩]
      fixExplanation := credentialExplanation, fixConfidence := 80 },
    { id := "java:weak-hash", weakness := .weakHash, severity := .medium
      message := weakHashMessage, detect := messageDigestWeak
      fix := [⟨messageDigestWeak, .template [.group 1, .text "\"SHA-256\""]⟩]
      fixExplanation := "Switched MessageDigest to SHA-256", fixConfidence := 90 } ]

end SecScan.Catalog
