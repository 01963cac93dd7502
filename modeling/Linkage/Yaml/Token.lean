import Linkage.Yaml.Text

/-!
# The tokens of a document

A document is cut into tokens: its texts, the names and tags in front of them, the signs
of the flow style, and the signs of the block style. Of the latter some are not written
but follow from the columns: where a block begins and where it ends, and that what was
read is a key.

Here are the tokens, and how those are read that begin with a sign of their own: names,
tags and directives. What the columns say is found in `Linkage.Yaml.Queue`.

## Main definitions

* `Linkage.Yaml.Token`: the tokens.
* `Linkage.Yaml.anchorName`, `Linkage.Yaml.tag`, `Linkage.Yaml.directive`: readers. Each takes
  the place where the token begins and gives the token with the place after it.
-/

namespace Linkage.Yaml

/-- **A directive**, which stands in front of a document. -/
inductive Directive where
  | version (major minor : Nat)
  | handle (handle start : String)
  | other
  deriving Repr, DecidableEq, Inhabited

/-- **A token.** A tag is a handle, if it has one, and a suffix. A text is *plain* or
not. -/
inductive Token where
  | streamEnd
  | directive (d : Directive)
  | documentStart
  | documentEnd
  | blockSequence
  | blockMapping
  | blockEnd
  | blockEntry
  | flowSequence
  | flowSequenceEnd
  | flowMapping
  | flowMappingEnd
  | flowEntry
  | key
  | value
  | reference (name : String)
  | anchor (name : String)
  | tag (handle : Option String) (suffix : String)
  | text (isPlain : Bool) (text : String)
  deriving Repr, DecidableEq, Inhabited

/-! ### Names -/

/-- What may follow the name of an anchor. -/
def endsName (c : Char) : Bool := isBlankEnd c || "?:,]\x7d%@\x60".contains c

/-- **The name of an anchor**, after the sign in front of it. -/
def anchorName (c : Cursor) : Scanned :=
  let letters := c.run isWordChar
  let c := c.skip letters.length
  if letters.isEmpty || !endsName c.here then c.refuse else .ok (letters, c)

/-! ### Tags -/

/-- The characters that the suffix of a tag is written with. -/
def isTagChar (c : Char) : Bool := c.isAlphanum || "-;/?:@&=+$,_.!~*\x27()[]%".contains c

/-- The bytes that a row of escapes stands for, each a percent sign and two hexadecimal
digits. -/
def escapedBytes : (fuel : Nat) → Cursor → Except (Fault Float) (List UInt8 × Cursor)
  | 0, c => .ok ([], c)
  | fuel + 1, c =>
    if c.here == '%' then
      match hexNumber? c.next 2 with
      | none => (c.next.skipWhile fun d => (hexValue? d).isSome).refuse
      | some n => do
        let (bytes, c) ← escapedBytes fuel (c.skip 3)
        return (n.toUInt8 :: bytes, c)
    else .ok ([], c)

/-- The characters of a suffix, its escapes resolved. -/
def tagChars : (fuel : Nat) → Cursor → Scanned
  | 0, c => .ok ([], c)
  | fuel + 1, c =>
    if c.here == '%' then do
      let (bytes, c) ← escapedBytes fuel c
      match String.fromUTF8? ⟨bytes.toArray⟩ with
      | none => c.refuse
      | some text => do
        let (rest, c) ← tagChars fuel c
        return (text.toList ++ rest, c)
    else if isTagChar c.here then do
      let (rest, c') ← tagChars fuel c.next
      return (c.here :: rest, c')
    else .ok ([], c)

/-- A suffix, which has at least one character. -/
def tagSuffix (c : Cursor) : Scanned := do
  let (text, c') ← tagChars (c.rest.length + 1) c
  if c'.index == c.index then c'.refuse else return (text, c')

/-- A handle: a word between exclamation marks, or one mark in front of a space. -/
def tagHandle (c : Cursor) : Scanned :=
  if c.here != '!' then c.refuse
  else if c.peek 1 == ' ' then .ok (['!'], c.next)
  else
    let word := c.next.run isWordChar
    let c := c.skip (1 + word.length)
    if c.here == '!' then .ok ('!' :: word ++ ['!'], c.next) else c.refuse

/-- **A tag**: a suffix in angle brackets, a lone mark, a suffix after a handle, or one
after a mark. -/
def tag (c : Cursor) : Except (Fault Float) (Token × Cursor) := do
  let (t, c) ←
    if c.peek 1 == '<' then do
      let (suffix, c) ← tagSuffix (c.skip 2)
      if c.here == '>' then pure (Token.tag none (String.ofList suffix), c.next) else c.refuse
    else if isBlankEnd (c.peek 1) then pure (Token.tag none "!", c.next)
    else if (c.next.run fun x => !isSpaceEnd x).contains '!' then do
      let (handle, c) ← tagHandle c
      let (suffix, c) ← tagSuffix c
      pure (Token.tag (some (String.ofList handle)) (String.ofList suffix), c)
    else do
      let (suffix, c) ← tagSuffix c.next
      pure (Token.tag (some "!") (String.ofList suffix), c)
  if isSpaceEnd c.here then return (t, c) else c.refuse

/-! ### Directives -/

/-- A number of a version. -/
def versionPart (c : Cursor) : Except (Fault Float) (Nat × Cursor) :=
  let digits := c.run Char.isDigit
  if digits.isEmpty then c.refuse
  else .ok (digits.foldl (fun n d => 10 * n + (d.toNat - 48)) 0, c.skip digits.length)

/-- The version that a document asks for. -/
def version (c : Cursor) : Except (Fault Float) (Directive × Cursor) := do
  let (major, c) ← versionPart (c.skipWhile (· == ' '))
  if c.here != '.' then c.refuse
  else do
    let (minor, c) ← versionPart c.next
    if isSpaceEnd c.here then return (.version major minor, c) else c.refuse

/-- The handle that a document declares, and what it stands for. -/
def handleDirective (c : Cursor) : Except (Fault Float) (Directive × Cursor) := do
  let (handle, c) ← tagHandle (c.skipWhile (· == ' '))
  if c.here != ' ' then c.refuse
  else do
    let (start, c) ← tagSuffix (c.skipWhile (· == ' '))
    if isSpaceEnd c.here then return (.handle (String.ofList handle) (String.ofList start), c)
    else c.refuse

/-- **A directive**, with the rest of its line. -/
def directive (c : Cursor) : Except (Fault Float) (Directive × Cursor) := do
  let c := c.next
  let word := c.run isWordChar
  let c := c.skip word.length
  if word.isEmpty || !isSpaceEnd c.here then c.refuse
  else do
    let (d, c) ←
      match String.ofList word with
      | "YAML" => version c
      | "TAG" => handleDirective c
      | _ => pure (Directive.other, c.skipWhile fun x => !isLineEnd x)
    match c.endOfLine? with
    | none => c.refuse
    | some c => return (d, c)

end Linkage.Yaml
