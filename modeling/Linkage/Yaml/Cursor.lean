import Linkage.Fault

/-!
# A place in a document

Documents of the indented kind are read with an eye on the column: what belongs
together begins in one. A cursor is a place in such a document, with the line and the
column it is in, and the characters from there on. Beyond the end there is a character
that no document holds.

A document is read in blocks, and one that holds a character it must not hold is cut in
front of the block with that character. Whoever comes to such an end has met the
character; whoever stops before it has not.

Five characters end a line. Two of them, the separators of lines and of paragraphs, are
kept as they are where a line end is part of a text; the others all become one.

## Main definitions

* `Linkage.Yaml.Cursor`, with `Linkage.Yaml.Cursor.peek` and
  `Linkage.Yaml.Cursor.skip`.
* `Linkage.Yaml.Cursor.lineBreak`: takes the end of a line.
* `Linkage.Yaml.Cursor.refuse`: the failure of a reading that stops at a place.
* `Linkage.Yaml.isPrintable`: the characters that documents may hold.
-/

namespace Linkage.Yaml

/-! ### Characters -/

/-- The character beyond the end. -/
def beyond : Char := '\x00'

/-- The characters that end a line. -/
def isBreak (c : Char) : Bool :=
  c == '\n' || c == '\r' || c == '\x85' || c == '\u2028' || c == '\u2029'

/-- The end of a line, or of the document. -/
def isLineEnd (c : Char) : Bool := isBreak c || c == beyond

/-- A space, or the end of a line. -/
def isSpaceEnd (c : Char) : Bool := c == ' ' || isLineEnd c

/-- A space, a tabulator, or the end of a line. -/
def isBlankEnd (c : Char) : Bool := c == '\t' || isSpaceEnd c

/-- A space or a tabulator. -/
def isBlank (c : Char) : Bool := c == ' ' || c == '\t'

/-- The characters of the names of anchors, handles and directives. -/
def isWordChar (c : Char) : Bool := c.isAlphanum || c == '-' || c == '_'

/-- **The characters that documents may hold.** -/
def isPrintable (c : Char) : Bool :=
  let n := c.toNat
  n == 0x09 || n == 0x0a || n == 0x0d || (0x20 ≤ n && n ≤ 0x7e) || n == 0x85
    || (0xa0 ≤ n && n ≤ 0xd7ff) || (0xe000 ≤ n && n ≤ 0xfffd) || 0x10000 ≤ n

/-! ### Cursors -/

/-- **A place in a document**, which may be cut. -/
structure Cursor where
  isCut : Bool
  rest : List Char
  index : Nat
  line : Nat
  column : Nat
  deriving Inhabited

namespace Cursor

/-- How many characters a block has. -/
def blockSize : Nat := 4096

/-- **The beginning of a document.** The first two blocks are read at once. -/
def start (cs : List Char) : Except (Fault Float) Cursor :=
  match cs.findIdx? fun c => !isPrintable c with
  | none => .ok ⟨false, cs, 0, 0, 0⟩
  | some b =>
    if b < 2 * blockSize then .error .badCharacter
    else .ok ⟨true, cs.take (blockSize * (b / blockSize)), 0, 0, 0⟩

/-- Whether the document is cut here. -/
def isTorn (c : Cursor) : Bool := c.isCut && c.rest.isEmpty

/-- **The failure of a reading that stops here.** -/
def refuse {β : Type} (c : Cursor) : Except (Fault Float) β :=
  .error (if c.isTorn then .badCharacter else .badToken)

/-- The character so many places further on. -/
def peek (c : Cursor) (k : Nat) : Char := (c.rest.drop k).headD beyond

/-- The character here. -/
def here (c : Cursor) : Char := c.rest.headD beyond

/-- Whether a text stands here. -/
def sees (c : Cursor) (text : String) : Bool := text.toList.isPrefixOf c.rest

/-- The next place. The mark of the byte order takes no room. -/
def next (c : Cursor) : Cursor :=
  match c.rest with
  | [] => c
  | x :: rest =>
    if isBreak x && !(x == '\r' && rest.head? == some '\n') then
      ⟨c.isCut, rest, c.index + 1, c.line + 1, 0⟩
    else
      ⟨c.isCut, rest, c.index + 1, c.line, if x == '\ufeff' then c.column else c.column + 1⟩

/-- The place so many characters further on. -/
def skip (c : Cursor) : Nat → Cursor
  | 0 => c
  | k + 1 => c.next.skip k

/-- The characters of a kind from here on. -/
def run (c : Cursor) (p : Char → Bool) : List Char := c.rest.takeWhile p

/-- The place after the characters of a kind. -/
def skipWhile (c : Cursor) (p : Char → Bool) : Cursor := c.skip (c.run p).length

/-- **Takes the end of a line**, if there is one: what it is in a text, and the place
after it. -/
def lineBreak (c : Cursor) : List Char × Cursor :=
  if c.sees "\r\n" then (['\n'], c.skip 2)
  else if c.here == '\u2028' || c.here == '\u2029' then ([c.here], c.next)
  else if isBreak c.here then (['\n'], c.next)
  else ([], c)

/-- Whether the line here separates documents. -/
def atSeparator (c : Cursor) : Bool := (c.sees "---" || c.sees "...") && isBlankEnd (c.peek 3)

/-- The place after the spaces and the comment that a line may end with, which must be
its end, and after that. -/
def endOfLine? (c : Cursor) : Option Cursor :=
  let c := c.skipWhile (· == ' ')
  let c := if c.here == '#' then c.skipWhile fun x => !isLineEnd x else c
  if isLineEnd c.here then some c.lineBreak.2 else none

end Cursor

end Linkage.Yaml
