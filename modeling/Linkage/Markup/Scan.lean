import Linkage.Markup.Address
import Linkage.Markup.Character
import Linkage.Markup.Element
import Linkage.Markup.Report

/-!
# Scanning

Reading a document from front to back: small readers that take something off the front
of what is left, or refuse. Beside the characters that are left a reader keeps what has
been reported, and what has to be known of the document as a whole: the identifiers that
elements have been given, and the entities that have been read.

Entities are replaced by their text, and a short document could unfold into an endless
one. So every use of an entity has a price, its length and a fixed amount; what a text
has spent may not go beyond a limit unless it is in proportion to what was read of it.

## Main definitions

* `Linkage.Markup.Source`: what is left, and what is known.
* `Linkage.Markup.Scan`: a reader, with `Linkage.Markup.report` and
  `Linkage.Markup.charge`.
* `Linkage.Markup.literal`, `Linkage.Markup.through`: fixed text, and all up to one.
* `Linkage.Markup.name`: a name, colons and all.
-/

namespace Linkage.Markup

/-- **What an entity unfolds into** as content: the elements in it, and its price. -/
structure Expansion where
  elements : List Element
  price : Nat
  deriving Inhabited

/-- **The state of the reading**: the characters left of a text, the length of that text
in bytes, and what its entities have cost; the reports; the identifiers in use; and the
entities read so far. -/
structure Source where
  rest : List Char
  size : Nat
  spent : Nat
  reports : Reports
  identifiers : List String
  expansions : List (String × Expansion)
  deriving Inhabited

/-- **A reader**: takes something off the front, or refuses. -/
abbrev Scan (β : Type) := StateT Source Option β

/-- How many bytes a text has. -/
def byteLength (cs : List Char) : Nat := cs.foldl (fun n c => n + c.utf8Size) 0

/-- The beginning of a text. -/
def Source.ofText (cs : List Char) : Source := ⟨cs, byteLength cs, 0, .none, [], []⟩

/-- Refuses. -/
def refuse {β : Type} : Scan β := failure

/-- Goes on only if something holds. -/
def require (b : Bool) : Scan Unit := if b then pure () else refuse

/-- **Reports something** and goes on. -/
def report (s : Severity) : Scan Unit :=
  modify fun source => { source with reports := source.reports.add s }

/-! ### Taking characters -/

/-- What is left. -/
def remaining : Scan (List Char) := return (← get).rest

/-- Sets what is left. -/
def setRemaining (cs : List Char) : Scan Unit := modify fun s => { s with rest := cs }

/-- Whether a text begins with another. -/
def startsWith (text : String) (cs : List Char) : Bool := text.toList.isPrefixOf cs

/-- The next character, left where it is. -/
def peek? : Scan (Option Char) := return (← remaining).head?

/-- The next character. -/
def anyChar : Scan Char := do
  match ← remaining with
  | [] => refuse
  | c :: cs => do
    setRemaining cs
    return c

/-- Takes a text off the front if it is there. -/
def optional (text : String) : Scan Bool := do
  let cs ← remaining
  if startsWith text cs then
    setRemaining (cs.drop text.length)
    return true
  else return false

/-- **Takes a text off the front**, where it must be. -/
def literal (text : String) : Scan Unit := do require (← optional text)

/-- Takes characters off the front as long as they are of a kind. -/
def charsWhile (p : Char → Bool) : Scan (List Char) := do
  let cs ← remaining
  setRemaining (cs.dropWhile p)
  return cs.takeWhile p

/-- Takes blanks off the front; whether there were any. -/
def blanks : Scan Bool := return !(← charsWhile isSpace).isEmpty

/-- Takes blanks off the front. -/
def spaces : Scan Unit := discard blanks

/-- Takes blanks off the front, of which there must be some. -/
def someSpaces : Scan Unit := do require (← blanks)

/-- The parts of a text before and after the first place where a mark stands, the first
part with its last character in front, after what was seen before. -/
def splitFrom (mark : String) (seen : List Char) : List Char → Option (List Char × List Char)
  | [] => if mark.isEmpty then some (seen, []) else none
  | c :: cs =>
    if startsWith mark (c :: cs) then some (seen, (c :: cs).drop mark.length)
    else splitFrom mark (c :: seen) cs

/-- The parts of a text before and after the first place where a mark stands. -/
def splitAtMark (mark : String) (cs : List Char) : Option (List Char × List Char) :=
  (splitFrom mark [] cs).map fun (before, after) => (before.reverse, after)

/-- **Takes everything up to a mark off the front**, and the mark. -/
def through (mark : String) : Scan (List Char) := do
  match splitAtMark mark (← remaining) with
  | none => refuse
  | some (before, after) => do
    setRemaining after
    return before

/-- Whether a quote is next. -/
def atQuote : Scan Bool := do
  let c ← peek?
  return c == some '"' || c == some '\x27'

/-- A text between two quotes of one kind. -/
def quotedText : Scan (List Char) := do
  match ← anyChar with
  | '"' => through "\""
  | '\x27' => through "\x27"
  | _ => refuse

/-! ### Names -/

/-- The characters that continue a name, the colon among them. -/
def isFullNameChar (c : Char) : Bool := isNameChar c || c == ':'

/-- How long a name may be, in bytes. -/
def maxNameLength : Nat := 50000

/-- Whether a name is not too long. -/
def fitsName (cs : List Char) : Bool := byteLength cs ≤ maxNameLength

/-- The name in front of a text, colons and all, and what follows it. -/
def nameOf? (cs : List Char) : Option (String × List Char) :=
  let letters := cs.takeWhile isFullNameChar
  if (cs.head?.any fun c => isNameStart c || c == ':') && fitsName letters then
    some (String.ofList letters, cs.dropWhile isFullNameChar)
  else none

/-- A name, if one is next. -/
def name? : Scan (Option String) := do
  match nameOf? (← remaining) with
  | none => return none
  | some (n, cs) => do
    setRemaining cs
    return some n

/-- **A name**, colons and all. -/
def name : Scan String := do
  match ← name? with
  | none => refuse
  | some n => return n

/-- A name that should have no colon; one that does is reported. -/
def plainName : Scan String := do
  let n ← name
  if n.contains ':' then report .error
  return n

/-- A name of name characters, which any of them may begin. -/
def token : Scan String := do
  let cs ← charsWhile isFullNameChar
  require (!cs.isEmpty && fitsName cs)
  return String.ofList cs

/-! ### References -/

/-- The value of some digits of a base. -/
def digitsIn (base : Nat) (digit? : Char → Option Nat) (cs : List Char) : Option Nat :=
  if cs.isEmpty then none
  else cs.foldlM (fun n c => (digit? c).map (base * n + ·)) 0

/-- The character of a number, which must be one that documents may hold. -/
def charOf? (n : Nat) : Option Char :=
  if h : n.isValidChar then
    let c := Char.ofNatAux n h
    if isLegal c then some c else none
  else none

/-- The character that a number names, given what stands between the number sign and the
semicolon. -/
def numberedChar? : List Char → Option Char
  | 'x' :: cs => (digitsIn 16 hexDigit? cs).bind charOf?
  | cs => (digitsIn 10 (fun c => if c.isDigit then some (c.toNat - 48) else none) cs).bind charOf?

/-- **What a reference names**: a character, or an entity. -/
inductive Reference where
  | char (c : Char)
  | entity (name : String)
  deriving Repr, DecidableEq, Inhabited

/-- **The reference in front of a text**, after the sign it begins with, and what follows
the semicolon it ends with. -/
def reference? : List Char → Option (Reference × List Char)
  | '#' :: cs => do
    let (digits, cs) ← splitAtMark ";" cs
    return (.char (← numberedChar? digits), cs)
  | cs => do
    let (n, cs) ← nameOf? cs
    match cs with
    | ';' :: cs => return (.entity n, cs)
    | _ => none

/-- The characters that need no declaration to be referred to by name. -/
def predefined? : String → Option Char
  | "lt" => some '<'
  | "gt" => some '>'
  | "amp" => some '&'
  | "quot" => some '"'
  | "apos" => some '\x27'
  | _ => none

/-! ### Prices -/

/-- What a text may spend in any case. -/
def freeSpending : Nat := 1000000

/-- What every use of an entity costs beside its length. -/
def fixedPrice : Nat := 20

/-- How often more than was read of a text may be spent on its entities. -/
def maxRatio : Nat := 5

/-- **Pays for the use of an entity.** -/
def charge (price : Nat) : Scan Unit := do
  let s ← get
  let spent := s.spent + price + fixedPrice
  require (spent ≤ freeSpending || spent / maxRatio ≤ s.size - byteLength s.rest)
  set { s with spent }

end Linkage.Markup
