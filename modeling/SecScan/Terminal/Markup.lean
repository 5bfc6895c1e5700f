import SecScan.Terminal.Style
import SecScan.Terminal.Emoji
import SecScan.Terminal.Handler

/-!
Console markup: text with style tags in square brackets, such as `[red]alert[/red]`. A tag is a
bracket holding a lower-case letter, `#`, `/` or `@` first and no opening bracket before its
closing one. Styles do not change the characters shown, so reading markup gives its plain text:
the text with every tag removed and emoji codes such as `:thumbs_up:` replaced by their emoji. A
tag preceded by an odd number of backslashes is text, each pair of backslashes before a tag
stands for one backslash, and `\[` elsewhere stands for `[`.

A closing tag must close a tag that is open, or the markup is refused; `[/]` closes the last one,
and a named closing tag the last one open with the same style, styles compared by their normal
form. A handler tag, one whose name starts with `@`, is checked as it closes: its parameters
must be a literal. Bell, backspace, vertical tab, form feed and carriage return are left out of
the plain text.
-/

namespace SecScan.Terminal

/-- Whether a character may start a tag's name. -/
def isTagStart (c : Char) : Bool := ('a' ≤ c && c ≤ 'z') || c == '#' || c == '/' || c == '@'

/-- The inside of a tag that starts right after an opening bracket: the characters up to the
first closing bracket, with the rest after it; none when an opening bracket or the end comes
first. -/
def tagBody : List Char → Option (List Char × List Char)
  | [] => none
  | ']' :: rest => some ([], rest)
  | '[' :: _ => none
  | c :: rest => (tagBody rest).map fun (body, after) => (c :: body, after)

/-- A tag starting at the head of `cs`: the number of backslashes before it, its inside and what
follows it. -/
def tagAt (cs : List Char) : Option (Nat × List Char × List Char) :=
  let slashes := (cs.takeWhile (· == '\\')).length
  match cs.drop slashes with
  | '[' :: c :: rest =>
    if isTagStart c then (tagBody (c :: rest)).map fun (body, after) => (slashes, body, after)
    else none
  | _ => none

/-- A piece of markup: text, or a tag with its position. -/
inductive Piece where
  | text (s : List Char)
  | tag (position : Nat) (body : List Char)
  deriving Repr, Inhabited

/-- The text that stands for itself in a piece of plain markup: `\[` reads as `[`. -/
def unescapeBrackets : List Char → List Char
  | '\\' :: '[' :: rest => '[' :: unescapeBrackets rest
  | c :: rest => c :: unescapeBrackets rest
  | [] => []

/-- Splits markup into pieces; `pending` is the text read since the last tag, reversed, and
`pos` the position of the head of `cs`. Each step reads at least one character, so `fuel` at
least the length of `cs` suffices. -/
def pieces : Nat → List Char → Nat → List Char → List Piece
  | 0, _, _, pending => if pending.isEmpty then [] else [.text pending.reverse]
  | _, [], _, pending => if pending.isEmpty then [] else [.text pending.reverse]
  | fuel + 1, c :: rest, pos, pending =>
    match tagAt (c :: rest) with
    | some (slashes, body, after) =>
      let before := if pending.isEmpty then [] else [Piece.text pending.reverse]
      let literal := if slashes / 2 > 0 then [Piece.text (List.replicate (slashes / 2) '\\')] else []
      let here :=
        if slashes % 2 == 1 then [Piece.text ('[' :: body ++ [']'])]
        else [Piece.tag (pos + 2 * (slashes / 2)) body]
      before ++ literal ++ here ++ pieces fuel after (pos + slashes + body.length + 2) []
    | none => pieces fuel rest (pos + 1) (c :: pending)

/-- Why markup cannot be printed: the kind of error and its message. A tag that does not fit is a
markup error; a style whose color has a component that is not a number is a value error. -/
structure MarkupProblem where
  kind : String
  message : String
  deriving Repr, Inhabited, BEq

/-- A markup error with its message. -/
def markupError (message : String) : MarkupProblem := ⟨"MarkupError", message⟩

/-- The normal form of a style named in a tag. -/
def tagStyle (name : String) : Except MarkupProblem String :=
  (normalStyle name).mapError (⟨"ValueError", ·⟩)

/-- The end of an emoji code whose name starts at the head of `cs`, with the name read so far
reversed in `name`: the shortest name of non-blank characters followed by `-emoji:`, `-text:` or
`:`. Gives the name, the variation selector the suffix asks for, and the text after the closing
colon; none when a blank or the end comes first. -/
def codeEnd (name : List Char) : List Char → Option (List Char × List Char × List Char)
  | [] => none
  | c :: rest =>
    if (c :: rest).take 7 == "-emoji:".toList then some (name.reverse, ['\uFE0F'], rest.drop 6)
    else if (c :: rest).take 6 == "-text:".toList then some (name.reverse, ['\uFE0E'], rest.drop 5)
    else if c == ':' then some (name.reverse, [], rest)
    else if Text.isBlank c then none
    else codeEnd (c :: name) rest

/-- Text with its emoji codes, such as `:thumbs_up:`, replaced by the emoji they name; a code
naming none stays as it is. The text is read left to right, and a code found is passed over as a
whole. Each step reads at least one character, so `fuel` at least the length of `cs` suffices. -/
def replaceEmoji : Nat → List Char → List Char
  | 0, cs => cs
  | _, [] => []
  | fuel + 1, ':' :: rest =>
    match codeEnd [] rest with
    | some (name, selector, after) =>
      match emojiNamed? (String.ofList name) with
      | some e => e.toList ++ selector ++ replaceEmoji fuel after
      | none => ':' :: rest.take (rest.length - after.length) ++ replaceEmoji fuel after
    | none => ':' :: replaceEmoji fuel rest
  | fuel + 1, c :: rest => c :: replaceEmoji fuel rest

/-- The plain text a piece of markup text stands for: escaped brackets read as brackets, and emoji
codes replaced. -/
def pieceText (cs : List Char) : List Char :=
  let cs := unescapeBrackets cs
  replaceEmoji (cs.length + 1) cs

/-- Control characters that printed text leaves out: bell, backspace, vertical tab, form feed and
carriage return. -/
def isDropped (c : Char) : Bool :=
  c.toNat == 7 || c.toNat == 8 || c.toNat == 11 || c.toNat == 12 || c.toNat == 13

/-- A tag that is open: the normal form of its style, and its parameters when it has any. -/
abbrev OpenTag := String × Option (List Char)

/-- Checks a handler tag as it closes: its parameters must be a literal. -/
def closeTag (tag : OpenTag) : Except MarkupProblem Unit :=
  match tag with
  | (name, some parameters) =>
    if name.startsWith "@" && !parameters.isEmpty then
      match Handler.handlerProblem? parameters with
      | some m => .error (markupError m)
      | none => .ok ()
    else .ok ()
  | _ => .ok ()

/-- The plain text of markup, or why it is refused: a closing tag that closes nothing open, a
handler whose parameters are no literal, or a style that raises an error. -/
def plainText (markup : String) : Except MarkupProblem String := do
  let cs := markup.toList
  let (out, _) ← (pieces (cs.length + 1) cs 0 []).foldlM (fun (acc : List Char × List OpenTag) piece =>
    let (out, open_) := acc
    match piece with
    | .text s => pure (out ++ pieceText s, open_)
    | .tag position body => do
      let name := body.takeWhile (· != '=')
      let parameters := if body.contains '=' then some (body.drop (name.length + 1)) else none
      match name with
      | '/' :: closing =>
        let closing := Text.strip (String.ofList closing)
        if closing.isEmpty then
          match open_ with
          | tag :: rest => do closeTag tag; pure (out, rest)
          | [] => throw (markupError ("closing tag '[/]' at position " ++ toString position ++
              " has nothing to close"))
        else
          let key ← tagStyle closing
          match open_.findIdx? (·.1 == key) with
          | some i => do
            closeTag (open_.getD i ("", none))
            pure (out, open_.eraseIdx i)
          | none =>
            throw (markupError ("closing tag '[" ++ String.ofList body ++ "]' at position " ++
              toString position ++ " doesn't match any open tag"))
      | _ => do
        let key ← tagStyle (String.ofList name)
        pure (out, (key, parameters) :: open_)) ([], [])
  pure (String.ofList (out.filter (!isDropped ·)))

end SecScan.Terminal
