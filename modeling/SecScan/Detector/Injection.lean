import SecScan.Regex.Basic

/-!
Patterns for injection: code evaluated from text, shell commands, and SQL queries assembled from
strings. The SQL patterns ignore case.
-/

namespace SecScan.Detector

open SecScan.Regex Regex

/-- A call of `eval`; `literal_eval(` and `evaluate(` do not count. -/
def evalCall : Pattern :=
  ⟨seq [.wordEdge, lit "eval", blanks, .char '('], false⟩

/-- `new Function(`. -/
def functionConstructor : Pattern :=
  ⟨seq [.wordEdge, lit "new", plus (.set false [.blank]), lit "Function", blanks, .char '('], false⟩

/-- A call of `exec` that is neither a method nor part of a longer name. -/
def execCall : Pattern :=
  ⟨seq [.behind true (.set false [.word, .single '.']), lit "exec", blanks, .char '('], false⟩

/-- `os.system(` or `os.popen(`. -/
def osCommand : Pattern :=
  ⟨seq [.wordEdge, lit "os.", oneOf [lit "system", lit "popen"], blanks, .char '('], false⟩

/-- A `subprocess` call with `shell=True` later on the line. -/
def shellTrue : Pattern :=
  ⟨seq [.wordEdge, lit "subprocess.", plus (.set false [.word]), blanks, .char '(',
    .star true .dot, .wordEdge, lit "shell", blanks, .char '=', blanks, lit "True", .wordEdge],
   false⟩

/-- The `shell=True` argument, with the blanks around `=` as groups 1 and 2. -/
def shellTrueArgument : Pattern :=
  ⟨seq [.wordEdge, lit "shell", .group 1 blanks, .char '=', .group 2 blanks, lit "True",
    .wordEdge], false⟩

/-- `Runtime.getRuntime().exec(`. -/
def runtimeExec : Pattern :=
  ⟨seq [.wordEdge, lit "Runtime.getRuntime", blanks, .char '(', blanks, .char ')', blanks,
    lit ".exec", blanks, .char '('], false⟩

/-- The four SQL verbs that open a query. -/
def sqlVerb : Regex := oneOf [lit "SELECT", lit "INSERT", lit "UPDATE", lit "DELETE"]

/-- A string literal opening with a SQL verb, closed and followed by `+`. -/
def sqlConcat : Pattern :=
  ⟨seq [chars "\"'`", blanks, sqlVerb, .wordEdge, .star true (noneOf "\"`\n"), chars "\"'`",
    blanks, .char '+'], true⟩

/-- A SQL literal concatenated with one operand: the quote is group 1, the query text up to the
hole group 2, the operand group 3. A trailing `+ "'"` that closes an inline quote is taken
along (group 4 is its quote); anything else concatenated after the operand rules the match out. -/
def sqlConcatOperand : Pattern :=
  ⟨seq [.group 1 (chars "\"'`"),
    .group 2 (seq [sqlVerb, .wordEdge, .star false (noneOf "\"'`\n")]),
    blanks, opt (.char '\''), .backref 1, blanks, .char '+', blanks,
    .group 3 (seq [plus (.set false [.word, .single '.', .single '$']),
      opt (seq [.char '[', .star true (noneOf "]"), .char ']']), opt (lit "()")]),
    .ahead true (.set false [.word, .single '.', .single '$', .single '[', .single '(']),
    opt (seq [blanks, .char '+', blanks, .group 4 (chars "\"`'"), .char '\'', .backref 4]),
    .ahead true (seq [blanks, .char '+'])], true⟩

/-- An f-string whose text opens with a SQL verb and embeds a value. -/
def sqlFormatString : Pattern :=
  ⟨seq [.wordEdge, chars "fF", opt (chars "rR"), .group 1 (chars "\"'"), blanks, sqlVerb,
    .wordEdge, .star true (noneOf "\"'\n"), .char '\x7b'], true⟩

/-- `.execute(`, `.executeQuery(` or `.executeUpdate(` with a `+` before the next `;`. -/
def executeConcat : Pattern :=
  ⟨seq [lit ".execute", opt (oneOf [lit "Query", lit "Update"]), blanks, .char '(',
    .star true (noneOf ";"), .char '+'], false⟩

end SecScan.Detector
