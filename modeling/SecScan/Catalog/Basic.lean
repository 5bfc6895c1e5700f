import SecScan.Catalog.Rules

/-!
Languages and their rules. A language name is matched after trimming and lower-casing, through
a table of aliases (`js`, `tsx`, `py`, ...); a name the catalog does not list falls back to the
language-neutral rules. A file's language comes from the extension of its last path component.
-/

namespace SecScan

open SecScan.Text

/-- The languages the catalog knows, and the neutral fallback. -/
inductive Language where
  | javascript
  | typescript
  | python
  | java
  | generic
  deriving DecidableEq, Repr, Inhabited

namespace Language

/-- The name of a language. -/
def name : Language → String
  | .javascript => "javascript"
  | .typescript => "typescript"
  | .python => "python"
  | .java => "java"
  | .generic => "generic"

/-- The languages with rules of their own, in catalog order. -/
def supported : List Language := [.javascript, .typescript, .python, .java]

/-- Every language, the fallback last. -/
def all : List Language := supported ++ [.generic]

/-- The rules of a language, in the order they are tried. -/
def rules : Language → List Rule
  | .javascript => Catalog.scriptRules "javascript"
  | .typescript => Catalog.scriptRules "typescript"
  | .python => Catalog.pythonRules
  | .java => Catalog.javaRules
  | .generic => Catalog.neutralRules "generic"

/-- Other names under which languages are known. -/
def aliases : List (String × Language) :=
  [("js", .javascript), ("jsx", .javascript), ("javascriptreact", .javascript),
   ("node", .javascript), ("ts", .typescript), ("tsx", .typescript),
   ("typescriptreact", .typescript), ("py", .python), ("python3", .python)]

/-- The language a name stands for; an unknown name stands for the neutral rules. -/
def normalize (language : String) : Language :=
  let key := toLower (strip language)
  match aliases.lookup key with
  | some found => found
  | none => (all.find? (·.name == key)).getD .generic

/-- File extensions and their languages. -/
def extensions : List (String × Language) :=
  [(".js", .javascript), (".jsx", .javascript), (".mjs", .javascript), (".cjs", .javascript),
   (".ts", .typescript), (".tsx", .typescript), (".py", .python), (".java", .java)]

end Language

/-- The last component of a slash-separated path, skipping empty and `.` components. -/
def baseName (path : String) : String :=
  ((path.splitOn "/").filter (fun part => part != "" && part != ".")).getLast?.getD ""

/-- The extension of a path: its last component from the last dot, when that dot is neither the
first nor the last character. -/
def pathSuffix (path : String) : String :=
  let name := (baseName path).toList
  match (List.range name.length).reverse.find? (fun i => name[i]? == some '.') with
  | some i => if 0 < i && i + 1 < name.length then String.ofList (name.drop i) else ""
  | none => ""

namespace Language

/-- The language of a file, from its extension. -/
def ofPath (path : String) : Language :=
  ((extensions.lookup (toLower (pathSuffix path))).getD .generic)

end Language

namespace Catalog

/-- Every rule of every language. -/
def allRules : List Rule := Language.all.flatMap Language.rules

/-- The rule with a given id. -/
def lookup (ruleId : String) : Option Rule := allRules.find? (·.id == ruleId)

/-- The rules for a language name. -/
def rulesFor (language : String) : List Rule := (Language.normalize language).rules

end Catalog

end SecScan
