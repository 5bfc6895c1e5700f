import SecScan.Yaml.Construct

/-!
Safe loading of a YAML text: the value of its one document, built from the node graph the
composer reads, or nothing when the text holds no document.

A text that is not YAML safe loading takes gives the message of the problem, naming each place
by line and column in `<unicode string>`; a character that may not appear in a stream is named
by its code and position. A conversion that fails inside a scalar gives its own kind of error.
-/

namespace SecScan.Yaml

/-- Why a text could not be loaded. -/
inductive LoadError where
  /-- The text is not YAML that safe loading takes, with the message. -/
  | invalid (message : String)
  /-- Loading stopped with an error of another kind, with its kind and message. -/
  | crash (kind message : String)
  deriving Repr, BEq, Inhabited

/-- The message for a character that may not appear in a stream. -/
def unprintableText (c : Char) (position : Nat) : String :=
  let code := (Text.surrogateCode? c).getD c.toNat
  "unacceptable character #x" ++ Json.hexPadded 4 code ++
    ": special characters are not allowed\n  in \"<unicode string>\", position " ++ toString position

/-- Loads the one document of a text, if it has one, nested at most as deep as `room` allows
(see `ComposeM.composeSingle`). -/
def load (room : Nat) (text : String) : Except LoadError (Option Data.Document) :=
  match Source.firstUnprintable text.toList 0 with
  | some (c, position) => .error (.invalid (unprintableText c position))
  | none =>
    let src := Source.ofText text
    let failed (f : Failure) : LoadError := match f with
      | .problem p => .invalid (p.text src)
      | .crash kind message => .crash kind message
    match ComposeM.composeSingle room src {} with
    | .error f => .error (failed f)
    | .ok (none, _) => .ok none
    | .ok (some root, c) =>
      match buildDocument c.nodes root with
      | .ok doc => .ok (some doc)
      | .error f => .error (failed f)

end SecScan.Yaml
