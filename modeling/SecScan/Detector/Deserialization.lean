import SecScan.Regex.Basic

/-!
Patterns for deserialization of untrusted data: `pickle`, `yaml.load` without a loader, and
object input streams.
-/

namespace SecScan.Detector

open SecScan.Regex Regex

/-- `pickle.load(`, `pickle.loads(` or the same on `cPickle`; the method is group 1. -/
def pickleLoad : Pattern :=
  ⟨seq [.wordEdge, opt (.char 'c'), chars "pP", lit "ickle.",
    .group 1 (seq [lit "load", opt (.char 's')]), blanks, .char '('], false⟩

/-- `yaml.load(` with no `Loader=` before the closing parenthesis. -/
def yamlLoad : Pattern :=
  ⟨seq [.wordEdge, lit "yaml.load", blanks, .char '(',
    .ahead true (seq [.star true (noneOf ")"), lit "Loader", blanks, .char '='])], false⟩

/-- The name `yaml.load`, with the blanks and parenthesis after it as group 1. -/
def yamlLoadName : Pattern :=
  ⟨seq [.wordEdge, lit "yaml.load", .group 1 (seq [blanks, .char '('])], false⟩

/-- `new ObjectInputStream(` or `.readObject()`. -/
def objectStream : Pattern :=
  ⟨oneOf [seq [.wordEdge, lit "new", plus (.set false [.blank]), lit "ObjectInputStream", blanks,
      .char '('],
    seq [lit ".readObject", blanks, .char '(', blanks, .char ')']], false⟩

end SecScan.Detector
