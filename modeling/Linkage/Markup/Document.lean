import Linkage.Markup.Encoding
import Linkage.Markup.Tag

/-!
# Documents

A marked-up document is read in three passes. Its first line says in which encoding it
is written, and it is read in that one; the mark of the byte order, if it is there, says
so already. The declarations come next, if there are any. Then the one element is read
with all that is inside it.

A document is either accepted as a whole or refused; nothing is repaired. Elements may
lie only so deep in one another, and so may entities. What an entity brings in as content
has to be content by itself, also as to its prefixes: of the namespaces around it knows
nothing. It is read only once, and stands for the same elements wherever it is used.

## Main definitions

* `Linkage.Markup.content`, `Linkage.Markup.element`: what is inside an element.
* `Linkage.Markup.read?`: a document.
-/

namespace Linkage.Markup

/-! ### Elements -/

/-- How deep elements may lie in one another, the entities around them among them. -/
def maxDepth : Nat := 256

/-- How deep entities may lie in one another. -/
def maxEntityDepth : Nat := 20

/-- Where the reading is: how many elements and entities are around, how many of them are
entities, and what prefixes stand for. -/
structure Place where
  around : Nat
  entities : Nat
  scope : Scope
  deriving Inhabited

/-- The place inside an element. -/
def Place.inside (p : Place) (scope : Scope) : Place := { p with around := p.around + 1, scope }

/-- The place inside an entity. -/
def Place.insideEntity (p : Place) : Place := ⟨p.around + 1, p.entities + 1, []⟩

/-- Characters that are content and nothing else. -/
def isPlainContent (c : Char) : Bool := c != '<' && c != '&' && c != ']'

mutual

/-- **The elements inside an element**, up to its closing tag or to the end of the text, in
reverse order after those before. `fuel` bounds the steps. -/
def content (d : Declarations) :
    (fuel : Nat) → Place → (before : List Element) → Scan (List Element)
  | 0, _, _ => refuse
  | fuel + 1, p, before => do
    discard (charsWhile isPlainContent)
    let cs ← remaining
    if cs.isEmpty || startsWith "</" cs then return before
    else if ← optional "<!--" then
      comment
      content d fuel p before
    else if ← optional "<![CDATA[" then
      discard (through "]]>")
      content d fuel p before
    else if ← optional "<?" then
      instruction
      content d fuel p before
    else if ← optional "<" then
      let e ← element d fuel p
      content d fuel p (e :: before)
    else if ← optional "&" then
      match reference? (← remaining) with
      | none => refuse
      | some (.char _, cs) =>
        setRemaining cs
        content d fuel p before
      | some (.entity n, cs) =>
        setRemaining cs
        content d fuel p ((← entityElements d fuel p n).reverse ++ before)
    else if startsWith "]]>" cs then refuse
    else
      discard anyChar
      content d fuel p before

/-- **An element**, after the bracket that opens its tag. -/
def element (d : Declarations) : (fuel : Nat) → Place → Scan Element
  | 0, _ => refuse
  | fuel + 1, p => do
    require (p.around < maxDepth)
    let t ← tag d (fuel + 1) p.entities p.scope
    if t.isEmpty then return t.element
    else
      let children ← content d fuel (p.inside t.scope) []
      literal "</"
      literal t.written.full
      spaces
      literal ">"
      return { t.element with children := children.reverse }

/-- **The elements that an entity brings in.** Its text is read when it is first used. -/
def entityElements (d : Declarations) : (fuel : Nat) → Place → String → Scan (List Element)
  | 0, _, _ => refuse
  | fuel + 1, p, n => do
    let outer ← get
    match predefined? n, outer.expansions.lookup n, d.entities.lookup n with
    | some _, _, _ => return []
    | none, some x, _ => do
      charge x.price
      return x.elements
    | none, none, none => do
      undeclared d
      return []
    | none, none, some .outside => refuse
    | none, none, some (.inside text) => do
      require (p.around < maxDepth && p.entities < maxEntityDepth)
      let size := byteLength text
      set { outer with rest := text, size, spent := 0 }
      let elements := (← content d fuel p.insideEntity []).reverse
      let inner ← get
      require inner.rest.isEmpty
      let price := inner.spent + size
      set { inner with
        rest := outer.rest
        size := outer.size
        spent := outer.spent
        expansions := (n, ⟨elements, price⟩) :: inner.expansions }
      charge price
      return elements

end

/-! ### Documents -/

/-- Blanks, comments and instructions. -/
def surroundings : (fuel : Nat) → Scan Unit
  | 0 => refuse
  | fuel + 1 => do
    spaces
    if ← optional "<!--" then
      comment
      surroundings fuel
    else if ← optional "<?" then
      instruction
      surroundings fuel

/-- The equals sign and the quoted word after it. -/
def equalsWord : Scan (List Char) := do
  spaces
  literal "="
  spaces
  quotedText

/-- Reads the version, which is a one, a point and digits. Any but the first brings a
warning. -/
def version : Scan Unit := do
  literal "version"
  match ← equalsWord with
  | '1' :: '.' :: ds => do
    require (ds.all Char.isDigit)
    if ds != ['0'] then report .warning
  | _ => refuse

/-- What the first line of a document says: its encoding, and whether all declarations are
in the document. -/
structure Opening where
  encoding? : Option String
  isComplete : Bool
  deriving Inhabited

/-- **The first line of a document**, if it has one. -/
def opening : Scan Opening := do
  let cs ← remaining
  if !(startsWith "<?xml" cs && (cs.drop 5).head?.any isSpace) then return ⟨none, false⟩
  literal "<?xml"
  someSpaces
  version
  let blank ← blanks
  let mut encoding? := none
  let mut blank := blank
  if ← optional "encoding" then
    require blank
    let word ← equalsWord
    require (Encoding.isName word)
    encoding? := some (String.ofList word)
    blank ← blanks
  let mut isComplete := false
  if ← optional "standalone" then
    require blank
    let word ← equalsWord
    require (word == "yes".toList || word == "no".toList)
    isComplete := word == "yes".toList
    spaces
  literal "?>"
  return ⟨encoding?, isComplete⟩

/-- How many steps a document of so many characters takes at most. Every step takes a
character off a text, and of the entities that lie in one another none is longer than the
document. -/
def stepsFor (length : Nat) : Nat := 50 * (length + 10)

/-- What follows the first line: the declarations and the one element. -/
def body (isComplete : Bool) : Scan Element := do
  let fuel := stepsFor (← remaining).length
  surroundings fuel
  let d ←
    if ← optional "<!DOCTYPE" then do
      let d ← doctype isComplete fuel
      surroundings fuel
      pure d
    else pure (Declarations.none isComplete)
  literal "<"
  let e ← element d fuel ⟨0, 0, []⟩
  surroundings fuel
  require (← remaining).isEmpty
  return e

/-- **The element of a document**, if the document is accepted. -/
def read? (text : String) : Option Element := do
  let (isMarked, cs) := match text.toList with
    | '\ufeff' :: cs => (true, cs)
    | cs => (false, cs)
  let (first, s) ← opening.run (.ofText cs)
  let encoding ← if isMarked then some .usual else match first.encoding? with
    | none => some .usual
    | some name => Encoding.ofName? name
  let rest ← encoding.decode? s.rest
  guard (rest.all isLegal)
  let (e, s) ← (body first.isComplete).run { s with rest, size := byteLength rest }
  guard s.reports.isAccepted
  return e

end Linkage.Markup
