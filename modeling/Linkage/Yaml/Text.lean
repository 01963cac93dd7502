import Linkage.Text.Half
import Linkage.Yaml.Cursor

/-!
# Texts in a document

A text is written in one of five ways. A *plain* one stands as it is, and ends where
something else begins. A *quoted* one stands between single or double quotes, the latter
with escapes. In all three, lines are folded: a single line end becomes a space, and of
several all but the first are kept. A *literal* one is a block of indented lines, and a
*folded* one such a block whose lines are folded where neither begins with a blank.

Every function here takes the place where the text begins and gives the text with the
place where it ends. `fuel` bounds the steps; as every step moves on, the number of
characters left is enough.

## Main definitions

* `Linkage.Yaml.plain`, `Linkage.Yaml.singleQuoted`, `Linkage.Yaml.doubleQuoted`,
  `Linkage.Yaml.block`.
-/

namespace Linkage.Yaml

/-- A text and the place after it. -/
abbrev Scanned := Except (Fault Float) (List Char × Cursor)

/-! ### Plain texts -/

/-- Whether a plain text ends before the characters `x` and `y`. -/
def endsPlain (inFlow : Bool) (x y : Char) : Bool :=
  isBlankEnd x || (x == ':' && (isBlankEnd y || (inFlow && ",[]\x7b\x7d".contains y)))
    || (inFlow && ",?[]\x7b\x7d".contains x)

/-- The characters of a plain text up to the next blank or its end. -/
def plainRun (inFlow : Bool) : List Char → List Char
  | [] => []
  | x :: cs => if endsPlain inFlow x (cs.headD beyond) then [] else x :: plainRun inFlow cs

/-- The line ends after the first one between two lines of a plain text, and the place
after them; nothing if documents are separated there. -/
def plainBreaks : (fuel : Nat) → Cursor → Option (List Char × Cursor)
  | 0, c => some ([], c)
  | fuel + 1, c =>
    if c.here == ' ' then plainBreaks fuel c.next
    else if isBreak c.here then
      let (b, c) := c.lineBreak
      if c.atSeparator then none
      else (plainBreaks fuel c).map fun (bs, c) => (b ++ bs, c)
    else some ([], c)

/-- What stands for the line ends between two lines: one is a space, and of several the
first is dropped. -/
def folded (first rest : List Char) : List Char :=
  if first != ['\n'] then first ++ rest else if rest.isEmpty then [' '] else rest

/-- What stands for the blanks after a part of a plain text; whether a line ended there;
and the place after them. -/
def plainSpaces (c : Cursor) : List Char × Bool × Cursor :=
  let spaces := c.run (· == ' ')
  let c := c.skip spaces.length
  if isBreak c.here then
    let (b, c) := c.lineBreak
    if c.atSeparator then ([], true, c)
    else
      match plainBreaks c.rest.length c with
      | none => ([], true, c)
      | some (bs, c) => (folded b bs, true, c)
  else (spaces, false, c)

/-- **A plain text**, with what stands for the blanks in front of its next part; whether
the last of it is followed by a line end; and the place after it. A text goes on in the
next line only if that is indented far enough. -/
def plainFrom (inFlow : Bool) (indent : Int) :
    (fuel : Nat) → (spaces : List Char) → (lineEnded : Bool) → Cursor → List Char × Bool × Cursor
  | 0, _, ended, c => ([], ended, c)
  | fuel + 1, spaces, ended, c =>
    if c.here == '#' then ([], ended, c)
    else
      let part := plainRun inFlow c.rest
      if part.isEmpty then ([], ended, c)
      else
        let (spaces', ended', c) := plainSpaces (c.skip part.length)
        if spaces'.isEmpty || c.here == '#' || (!inFlow && (c.column : Int) < indent) then
          (spaces ++ part, ended', c)
        else
          let (text, ended, c) := plainFrom inFlow indent fuel spaces' ended' c
          (spaces ++ part ++ text, ended, c)

/-- **A plain text.** -/
def plain (inFlow : Bool) (indent : Int) (c : Cursor) : List Char × Bool × Cursor :=
  plainFrom inFlow indent c.rest.length [] false c

/-! ### Quoted texts -/

/-- The line ends after the first one between two lines of a quoted text. No documents
may be separated there. -/
def quotedBreaks : (fuel : Nat) → Cursor → Scanned
  | 0, c => .ok ([], c)
  | fuel + 1, c =>
    if c.atSeparator then c.refuse
    else
      let c := c.skipWhile isBlank
      if isBreak c.here then do
        let (b, c) := c.lineBreak
        let (bs, c) ← quotedBreaks fuel c
        return (b ++ bs, c)
      else .ok ([], c)

/-- What stands for the blanks inside a quoted text. -/
def quotedSpaces (c : Cursor) : Scanned :=
  let blanks := c.run isBlank
  let c := c.skip blanks.length
  if c.here == beyond then c.refuse
  else if isBreak c.here then do
    let (b, c) := c.lineBreak
    let (bs, c) ← quotedBreaks (c.rest.length + 1) c
    return (folded b bs, c)
  else .ok (blanks, c)

/-- The characters that end a run of a quoted text. -/
def endsQuotedRun (x : Char) : Bool := x == '\x27' || x == '"' || x == '\\' || isBlankEnd x

/-- **A text in single quotes**, after the first. A quote inside is written twice. -/
def singleQuoted : (fuel : Nat) → Cursor → Scanned
  | 0, c => c.refuse
  | fuel + 1, c =>
    if c.here == '\x27' then
      if c.peek 1 == '\x27' then do
        let (text, c) ← singleQuoted fuel (c.skip 2)
        return ('\x27' :: text, c)
      else .ok ([], c.next)
    else if isBlankEnd c.here then do
      let (spaces, c) ← quotedSpaces c
      let (text, c) ← singleQuoted fuel c
      return (spaces ++ text, c)
    else do
      let (text, c') ← singleQuoted fuel c.next
      return (c.here :: text, c')

/-- The characters that escapes of one letter stand for. -/
def escapes : List (Char × Char) :=
  [('0', '\x00'), ('a', '\x07'), ('b', '\x08'), ('t', '\t'), ('\t', '\t'), ('n', '\n'),
    ('v', '\x0b'), ('f', '\x0c'), ('r', '\r'), ('e', '\x1b'), (' ', ' '), ('"', '"'),
    ('\\', '\\'), ('/', '/'), ('N', '\x85'), ('_', '\u00a0'), ('L', '\u2028'), ('P', '\u2029')]

/-- How many hexadecimal digits follow the letter of an escape. -/
def escapeWidth? : Char → Option Nat
  | 'x' => some 2
  | 'u' => some 4
  | 'U' => some 8
  | _ => none

/-- The value of a hexadecimal digit. -/
def hexValue? (c : Char) : Option Nat :=
  if c.isDigit then some (c.toNat - 48)
  else if 'a' ≤ c && c ≤ 'f' then some (c.toNat - 87)
  else if 'A' ≤ c && c ≤ 'F' then some (c.toNat - 55)
  else none

/-- The number that the next so many hexadecimal digits write. -/
def hexNumber? (c : Cursor) (width : Nat) : Option Nat :=
  let digits := c.rest.take width
  if digits.length < width then none
  else digits.foldlM (fun n d => (hexValue? d).map (16 * n + ·)) 0

/-- **A text in double quotes**, after the first. -/
def doubleQuoted : (fuel : Nat) → Cursor → Scanned
  | 0, c => c.refuse
  | fuel + 1, c =>
    if c.here == '"' then .ok ([], c.next)
    else if c.here == '\\' then
      let letter := c.peek 1
      let c := c.skip 2
      match escapes.lookup letter, escapeWidth? letter with
      | some x, _ => do
        let (text, c) ← doubleQuoted fuel c
        return (x :: text, c)
      | none, some width =>
        match hexNumber? c width with
        | none => (c.skipWhile fun d => (hexValue? d).isSome).refuse
        | some n =>
          if n < 0x110000 then do
            let (text, c) ← doubleQuoted fuel (c.skip width)
            return (Text.ofCode n :: text, c)
          else .error (if n < 0x80000000 then .noCharacter else .codeTooLarge)
      | none, none =>
        if isBreak letter then do
          let c := if letter == '\r' && c.here == '\n' then c.next else c
          let (breaks, c) ← quotedBreaks (c.rest.length + 1) c
          let (text, c) ← doubleQuoted fuel c
          return (breaks ++ text, c)
        else c.refuse
    else if isBlankEnd c.here then do
      let (spaces, c) ← quotedSpaces c
      let (text, c) ← doubleQuoted fuel c
      return (spaces ++ text, c)
    else do
      let (text, c') ← doubleQuoted fuel c.next
      return (c.here :: text, c')

/-! ### Blocks -/

/-- What is kept of the line ends after a block: the first of them by default. -/
inductive Chomping where
  | clip
  | strip
  | keep
  deriving Repr, DecidableEq, Inhabited

/-- The chomping that a sign asks for. -/
def chomping? : Char → Option Chomping
  | '+' => some .keep
  | '-' => some .strip
  | _ => none

/-- The indentation that a digit asks for. Zero is none. -/
def indentation? (x : Char) : Option Nat :=
  if x.isDigit then some (x.toNat - 48) else none

/-- What stands after the mark of a block: a sign and a digit, in any order, each if it
is there. -/
def blockHeader (c : Cursor) : Except (Fault Float) (Chomping × Option Nat × Cursor) := do
  let (chomping, indentation, c) :=
    match chomping? c.here, indentation? c.here with
    | some s, _ =>
      let c := c.next
      match indentation? c.here with
      | some n => (s, some n, c.next)
      | none => (s, none, c)
    | none, some n =>
      let c := c.next
      match chomping? c.here with
      | some s => (s, some n, c.next)
      | none => (.clip, some n, c)
    | none, none => (.clip, none, c)
  if indentation == some 0 || !isSpaceEnd c.here then c.refuse
  else return (chomping, indentation, c)

/-- The empty lines in front of a block, and how far the longest of them or the first
line of the block is indented. -/
def leadingLines : (fuel : Nat) → (deepest : Nat) → Cursor → List Char × Nat × Cursor
  | 0, deepest, c => ([], deepest, c)
  | fuel + 1, deepest, c =>
    if c.here == ' ' then
      let c := c.next
      leadingLines fuel (max deepest c.column) c
    else if isBreak c.here then
      let (b, c) := c.lineBreak
      let (bs, deepest, c) := leadingLines fuel deepest c
      (b ++ bs, deepest, c)
    else ([], deepest, c)

/-- The place after the spaces here, but not beyond a column. -/
def skipIndentation (indent : Nat) (c : Cursor) : Cursor :=
  c.skip (min (indent - c.column) (c.run (· == ' ')).length)

/-- The empty lines here, the indentation of each skipped. -/
def emptyLines (indent : Nat) : (fuel : Nat) → Cursor → List Char × Cursor
  | 0, c => ([], c)
  | fuel + 1, c =>
    let c := skipIndentation indent c
    if isBreak c.here then
      let (b, c) := c.lineBreak
      let (bs, c) := emptyLines indent fuel c
      (b ++ bs, c)
    else ([], c)

/-- Whether a line of a block begins here. -/
def atBlockLine (indent : Nat) (c : Cursor) : Bool := c.column == indent && c.here != beyond

/-- The lines of a block, `breaks` being the empty lines in front; with the last line end
and the empty lines after it. -/
def blockLines (isFolded : Bool) (indent : Nat) :
    (fuel : Nat) → (breaks : List Char) → Cursor → List Char × List Char × List Char × Cursor
  | 0, breaks, c => ([], [], breaks, c)
  | fuel + 1, breaks, c =>
    if atBlockLine indent c then
      let beginsBlank := isBlank c.here
      let line := c.run fun x => !isLineEnd x
      let (ended, c) := (c.skip line.length).lineBreak
      let (after, c) := emptyLines indent (c.rest.length + 1) c
      if atBlockLine indent c then
        let joint :=
          if isFolded && ended == ['\n'] && !beginsBlank && !isBlank c.here then
            if after.isEmpty then [' '] else []
          else ended
        let (text, last, rest, c) := blockLines isFolded indent fuel after c
        (breaks ++ line ++ joint ++ text, last, rest, c)
      else (breaks ++ line, ended, after, c)
    else ([], [], breaks, c)

/-- **A block**, after its mark, inside something indented by `parent`. -/
def block (isFolded : Bool) (parent : Int) (c : Cursor) : Scanned := do
  let (chomping, indentation, c) ← blockHeader c
  match c.endOfLine? with
  | none => c.refuse
  | some c => do
    let least := (max (parent + 1) 1).toNat
    let (indent, breaks, c) := match indentation with
      | none =>
        let (breaks, deepest, c) := leadingLines (c.rest.length + 1) 0 c
        (max least deepest, breaks, c)
      | some n =>
        let indent := least + n - 1
        let (breaks, c) := emptyLines indent (c.rest.length + 1) c
        (indent, breaks, c)
    let (text, last, after, c) := blockLines isFolded indent (c.rest.length + 1) breaks c
    match chomping with
    | .strip => return (text, c)
    | .clip => return (text ++ last, c)
    | .keep => return (text ++ last ++ after, c)

end Linkage.Yaml
