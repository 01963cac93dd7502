import Linkage.Yaml.Token

/-!
# Tokens in the order of their meaning

A key is written before the sign that makes it one. Whoever reads a document needs to
know of the key first, and of the mapping that begins with it. So tokens wait in a
queue until it is certain that none of them is the beginning of a key: the queue
remembers the places where one may have begun, one for each level of flow collections.
A key must end in the line in which it begins, and within 1024 characters.

The other thing a queue knows is how far the blocks around it are indented. A text
further to the left ends them, and a sign further to the right begins a new one.

## Main definitions

* `Linkage.Yaml.Queue`: the tokens read ahead, with what comes after them.
* `Linkage.Yaml.Queue.fetch`: reads one more token, with what follows from it.
* `Linkage.Yaml.Queue.peek`, `Linkage.Yaml.Queue.take`: the first token, once it is
  certain.
-/

namespace Linkage.Yaml

/-- The place where a key may have begun. `place` is the number of its token, counted
from the first of the document. Where a key is required, it is a failure if none turns
out to be there. -/
structure PendingKey where
  level : Int
  place : Nat
  isRequired : Bool
  index : Nat
  line : Nat
  column : Nat
  deriving Repr, Inhabited

/-- **The tokens read ahead.** `taken` counts those already taken, `level` is how many
flow collections are open, and `indents` are the columns of the open blocks, the
innermost first. -/
structure Queue where
  cursor : Cursor
  tokens : List Token
  taken : Nat
  isDone : Bool
  level : Int
  indents : List Nat
  allowsKey : Bool
  keys : List PendingKey
  deriving Inhabited

/-- Steps that may fail. -/
abbrev Fetched := Except (Fault Float) Queue

namespace Queue

/-- The queue at the beginning of a document. -/
def start (c : Cursor) : Queue := ⟨c, [], 0, false, 0, [], true, []⟩

/-- Whether a flow collection is open. -/
def inFlow (q : Queue) : Bool := q.level != 0

/-- The column of the innermost block. Outside all blocks it is one to the left of the
first. -/
def indent (q : Queue) : Int :=
  match q.indents with
  | [] => -1
  | n :: _ => n

/-- A token at the end of the queue. -/
def push (t : Token) (q : Queue) : Queue := { q with tokens := q.tokens ++ [t] }

/-- Goes on to another place. -/
def movedTo (c : Cursor) (q : Queue) : Queue := { q with cursor := c }

/-! ### Blocks -/

/-- **Ends the blocks** that are indented further than `column`. -/
def unwind (column : Int) (q : Queue) : Queue :=
  if q.inFlow then q
  else
    let ended := q.indents.takeWhile fun (n : Nat) => column < n
    { q with
      indents := q.indents.drop ended.length
      tokens := q.tokens ++ ended.map fun _ => Token.blockEnd }

/-- Begins a block if `column` is further to the right than the innermost one. The sign
of its beginning takes the given place in the queue. -/
def beginBlock (t : Token) (column place : Nat) (q : Queue) : Queue :=
  if q.indent < column then
    { q with indents := column :: q.indents, tokens := q.tokens.insertIdx place t }
  else q

/-! ### Keys -/

/-- Whether a place is too far away for a key that ends here. -/
def isStale (c : Cursor) (k : PendingKey) : Bool := k.line != c.line || c.index - k.index > 1024

/-- Forgets the places of keys that are too far away. -/
def dropStale (q : Queue) : Fetched :=
  if q.keys.any fun k => isStale q.cursor k && k.isRequired then q.cursor.refuse
  else .ok { q with keys := q.keys.filter fun k => !isStale q.cursor k }

/-- Forgets the place of a key at this level. -/
def dropKey (q : Queue) : Fetched :=
  if q.keys.any fun k => k.level == q.level && k.isRequired then q.cursor.refuse
  else .ok { q with keys := q.keys.filter fun k => k.level != q.level }

/-- Remembers that a key may begin with the next token. One is required where a line
begins in the column of the block. -/
def noteKey (q : Queue) : Fetched :=
  if q.allowsKey then do
    let c := q.cursor
    let isRequired := !q.inFlow && q.indent == c.column
    let place := q.taken + q.tokens.length
    let q ← q.dropKey
    return { q with keys := ⟨q.level, place, isRequired, c.index, c.line, c.column⟩ :: q.keys }
  else .ok q

/-! ### One more token -/

/-- The place of the next token, spaces, comments and line ends being skipped. In a new
line of the block style a key may begin. -/
def skipBlanks : (fuel : Nat) → Queue → Queue
  | 0, q => q
  | fuel + 1, q =>
    let c := q.cursor.skipWhile (· == ' ')
    let c := if c.here == '#' then c.skipWhile fun x => !isLineEnd x else c
    if isBreak c.here then
      skipBlanks fuel { q with cursor := c.lineBreak.2, allowsKey := q.allowsKey || !q.inFlow }
    else { q with cursor := c }

/-- The end of the document. -/
def fetchEnd (q : Queue) : Fetched := do
  let q ← (q.unwind (-1)).dropKey
  return { q.push .streamEnd with allowsKey := false, keys := [], isDone := true }

/-- A directive. -/
def fetchDirective (q : Queue) : Fetched := do
  let q ← (q.unwind (-1)).dropKey
  let (d, c) ← directive q.cursor
  return { (q.push (.directive d)).movedTo c with allowsKey := false }

/-- The sign that separates documents. -/
def fetchSeparator (t : Token) (q : Queue) : Fetched := do
  let q ← (q.unwind (-1)).dropKey
  return { (q.push t).movedTo (q.cursor.skip 3) with allowsKey := false }

/-- The beginning of a flow collection. -/
def fetchOpening (t : Token) (q : Queue) : Fetched := do
  let q ← q.noteKey
  return { (q.push t).movedTo q.cursor.next with level := q.level + 1, allowsKey := true }

/-- The end of a flow collection. -/
def fetchClosing (t : Token) (q : Queue) : Fetched := do
  let q ← q.dropKey
  return { (q.push t).movedTo q.cursor.next with level := q.level - 1, allowsKey := false }

/-- The sign between the entries of a flow collection. -/
def fetchComma (q : Queue) : Fetched := do
  let q ← q.dropKey
  return { (q.push .flowEntry).movedTo q.cursor.next with allowsKey := true }

/-- The sign in front of an item. -/
def fetchDash (q : Queue) : Fetched :=
  if !q.inFlow && !q.allowsKey then q.cursor.refuse
  else do
    let q := if q.inFlow then q else q.beginBlock .blockSequence q.cursor.column q.tokens.length
    let q ← q.dropKey
    return { (q.push .blockEntry).movedTo q.cursor.next with allowsKey := true }

/-- The sign in front of a key. -/
def fetchKey (q : Queue) : Fetched :=
  if !q.inFlow && !q.allowsKey then q.cursor.refuse
  else do
    let q := if q.inFlow then q else q.beginBlock .blockMapping q.cursor.column q.tokens.length
    let q ← q.dropKey
    return { (q.push .key).movedTo q.cursor.next with allowsKey := !q.inFlow }

/-- **The sign between a key and its value.** What was read since the place of the
pending key is that key, and the sign of that goes into the queue in front of it. -/
def fetchValue (q : Queue) : Fetched :=
  match q.keys.find? fun k => k.level == q.level with
  | some k =>
    let place := k.place - q.taken
    let q := { q with
      keys := q.keys.filter fun k => k.level != q.level
      tokens := q.tokens.insertIdx place .key
      allowsKey := false }
    let q := if q.inFlow then q else q.beginBlock .blockMapping k.column place
    .ok ((q.push .value).movedTo q.cursor.next)
  | none =>
    if !q.inFlow && !q.allowsKey then q.cursor.refuse
    else
      let q := if q.inFlow then q else q.beginBlock .blockMapping q.cursor.column q.tokens.length
      .ok { (q.push .value).movedTo q.cursor.next with allowsKey := !q.inFlow }

/-- A token that a key may begin with. -/
def fetchWith (read : Cursor → Except (Fault Float) (Token × Cursor)) (q : Queue) : Fetched := do
  let q ← q.noteKey
  let (t, c) ← read q.cursor
  return { (q.push t).movedTo c with allowsKey := false }

/-- The name of an anchor, after a sign. -/
def readName (make : String → Token) (c : Cursor) : Except (Fault Float) (Token × Cursor) := do
  let (letters, c) ← anchorName c.next
  return (make (String.ofList letters), c)

/-- A text in quotes. -/
def readQuoted (quoted : Nat → Cursor → Scanned) (c : Cursor) :
    Except (Fault Float) (Token × Cursor) := do
  let (letters, c) ← quoted c.rest.length c.next
  return (.text false (String.ofList letters), c)

/-- A block of lines. -/
def fetchBlock (isFolded : Bool) (q : Queue) : Fetched := do
  let q ← q.dropKey
  let (letters, c) ← block isFolded q.indent q.cursor.next
  return { (q.push (.text false (String.ofList letters))).movedTo c with allowsKey := true }

/-- A plain text. After one that a line end follows, a key may begin. -/
def fetchPlain (q : Queue) : Fetched := do
  let q ← q.noteKey
  let (letters, lineEnded, c) := plain q.inFlow (q.indent + 1) q.cursor
  return { (q.push (.text true (String.ofList letters))).movedTo c with allowsKey := lineEnded }

/-- Whether a plain text begins here. -/
def beginsPlain (q : Queue) : Bool :=
  let x := q.cursor.here
  let y := q.cursor.peek 1
  !(isBlankEnd x || "-?:,[]\x7b\x7d#&*!|>\x27\"%@\x60".contains x)
    || (!isBlankEnd y && (x == '-' || (!q.inFlow && (x == '?' || x == ':'))))

/-- The queue, unless the document is cut at its place. -/
def unlessTorn (q : Queue) : Fetched := if q.cursor.isTorn then q.cursor.refuse else .ok q

/-- The token that begins here. -/
def fetchHere (q : Queue) : Fetched :=
  let c := q.cursor
  let isSign := isBlankEnd (c.peek 1)
  match c.here with
  | '[' => q.fetchOpening .flowSequence
  | '\x7b' => q.fetchOpening .flowMapping
  | ']' => q.fetchClosing .flowSequenceEnd
  | '\x7d' => q.fetchClosing .flowMappingEnd
  | ',' => q.fetchComma
  | '*' => q.fetchWith (readName .reference)
  | '&' => q.fetchWith (readName .anchor)
  | '!' => q.fetchWith tag
  | '\x27' => q.fetchWith (readQuoted singleQuoted)
  | '"' => q.fetchWith (readQuoted doubleQuoted)
  | x =>
    if x == beyond then q.fetchEnd
    else if c.column == 0 && x == '%' then q.fetchDirective
    else if c.column == 0 && c.atSeparator then
      q.fetchSeparator (if x == '-' then .documentStart else .documentEnd)
    else if x == '-' && isSign then q.fetchDash
    else if x == '?' && (q.inFlow || isSign) then q.fetchKey
    else if x == ':' && (q.inFlow || isSign) then q.fetchValue
    else if (x == '|' || x == '>') && !q.inFlow then q.fetchBlock (x == '>')
    else if q.beginsPlain then q.fetchPlain
    else c.refuse

/-- **Reads one more token**, with what follows from it. -/
def fetch (q : Queue) : Fetched := do
  let atStart := q.cursor.index == 0 && q.cursor.here == '\ufeff'
  let q := if atStart then q.movedTo q.cursor.next else q
  let q ← (← (q.skipBlanks (q.cursor.rest.length + 1)).unlessTorn).dropStale
  (← (q.unwind q.cursor.column).fetchHere).unlessTorn

/-! ### The first token -/

/-- Whether the first token is not certain yet. -/
def isWaiting (q : Queue) : Bool :=
  !q.isDone && (q.tokens.isEmpty || q.keys.any fun k => k.place == q.taken)

/-- Reads on until the first token is certain. -/
def fill : (fuel : Nat) → Queue → Fetched
  | 0, q => .ok q
  | fuel + 1, q => do
    let q ← if q.isDone || q.tokens.isEmpty then pure q else q.dropStale
    if q.isWaiting then (← q.fetch).fill fuel else return q

/-- **The first token**, which stays in the queue. -/
def peek (q : Queue) : Except (Fault Float) (Token × Queue) := do
  let q ← q.fill (q.cursor.rest.length + 2)
  return (q.tokens.headD .streamEnd, q)

/-- **Takes the first token.** -/
def take (q : Queue) : Except (Fault Float) (Token × Queue) := do
  let (t, q) ← q.peek
  return (t, { q with tokens := q.tokens.tail, taken := q.taken + 1 })

end Queue

end Linkage.Yaml
