import Linkage.Markup.Declarations

/-!
# Tags

An element begins with a tag: its name, and its attributes with their values. A name can
have a prefix, which stands for a namespace that some attribute declares, of this element
or of one around it. Reading a tag means to read what is written, to add the attributes
that the declarations supply, and to resolve the prefixes.

Much that is wrong here is reported and read on. A prefix that nobody declares makes a
plain name of the whole, colon and all; an address that is none still names a namespace.
What ends the reading is an attribute given twice.

## Main definitions

* `Linkage.Markup.Written`: a name as it is written, with `Linkage.Markup.writtenName`.
* `Linkage.Markup.Scope`: the namespaces that prefixes stand for.
* `Linkage.Markup.tag`: reads a tag.
-/

namespace Linkage.Markup

/-! ### Names as they are written -/

/-- **A name as it is written**: a prefix, if it has one, and the rest. -/
structure Written where
  space? : Option String
  base : String
  deriving Repr, DecidableEq, Inhabited

/-- All of a name, its prefix and the colon among it. -/
def Written.full (w : Written) : String :=
  match w.space? with
  | some p => p ++ ":" ++ w.base
  | none => w.base

/-- The parts of a name that was declared. One with a colon at either end has no parts. -/
def Written.ofDeclared (n : String) : Written :=
  let start := n.toList.takeWhile (· != ':')
  match n.toList.drop start.length with
  | _ :: rest =>
    if start.isEmpty || rest.isEmpty then ⟨none, n⟩
    else ⟨some (String.ofList start), String.ofList rest⟩
  | [] => ⟨none, n⟩

/-- A name without a colon, if one is next. -/
def part? : Scan (Option String) := do
  if (← peek?).any isNameStart then
    let letters ← charsWhile isNameChar
    require (fitsName letters)
    return some (String.ofList letters)
  else return none

/-- **Reads a name with its prefix.** Colons that separate nothing, or too much, are
reported. -/
def writtenName : Scan Written := do
  match ← part? with
  | none => do
    let n ← name
    report .error
    return ⟨none, n⟩
  | some first => do
    if !(← optional ":") then return ⟨none, first⟩
    match ← part? with
    | none => do
      report .error
      return ⟨none, first ++ ":" ++ String.ofList (← charsWhile isFullNameChar)⟩
    | some second => do
      if !(← optional ":") then return ⟨some first, second⟩
      report .error
      return ⟨some first, second ++ ":" ++ (← name?).getD ""⟩

/-! ### Namespaces -/

/-- **The namespaces that prefixes stand for**, the innermost first. The empty prefix is
the one of elements that have none, and an empty namespace takes a prefix away. -/
abbrev Scope := List (String × String)

/-- The prefix of the names that belong to markup itself. -/
def markupPrefix : String := "xml"

/-- The prefix that declares others. -/
def declaringPrefix : String := "xmlns"

/-- The address that a server knows a place by. -/
def webAddress (server : List String) (place : List String) : String :=
  "/".intercalate ("http:" :: "" :: ".".intercalate server :: place)

/-- The namespace of the names that belong to markup itself. -/
def markupSpace : String := webAddress ["www", "w3", "org"] ["XML", "1998", "namespace"]

/-- The namespace of declarations, which nothing may be put into. -/
def declaringSpace : String := webAddress ["www", "w3", "org"] ["2000", "xmlns", ""]

/-- **The scope inside a tag**, while the tag is read: what prefixes stand for, and which
of them the tag itself declares. -/
structure TagScope where
  scope : Scope
  declared : List String
  deriving Inhabited

/-- Declares a prefix. Twice in one tag is too often. -/
def TagScope.declare (t : TagScope) (space address : String) : Scan TagScope := do
  require !(t.declared.contains space)
  return ⟨(space, address) :: t.scope, space :: t.declared⟩

/-- Declares a prefix unless the tag does so itself. -/
def TagScope.supply (t : TagScope) (space address : String) : TagScope :=
  if space == markupPrefix || t.declared.contains space then t
  else ⟨(space, address) :: t.scope, space :: t.declared⟩

/-- **Declares the namespace of names without a prefix.** An address should be one, and one
with a scheme; those of markup itself cannot be taken. -/
def TagScope.declareBare (t : TagScope) (address : String) : Scan TagScope := do
  let cs := address.toList
  if !isAddress cs then report .error
  else if !cs.isEmpty && !isAbsolute cs then report .warning
  if address == markupSpace || address == declaringSpace then
    report .error
    return t
  else t.declare "" address

/-- **Declares the namespace of a prefix.** That of markup itself has its own, and no other
prefix can have that. -/
def TagScope.declarePrefix (t : TagScope) (space address : String) : Scan TagScope := do
  if space == markupPrefix then
    if address != markupSpace then report .error
    return t
  else if address == markupSpace || space == declaringPrefix || address == declaringSpace
      || address.isEmpty then
    report .error
    return t
  else
    if !isAddress address.toList then report .error
    t.declare space address

/-- What a prefix stands for, if anything. -/
def namespaceOf? (scope : Scope) (space : String) : Option String :=
  if space == markupPrefix then some markupSpace else scope.lookup space

/-! ### Attributes -/

/-- An attribute as it is written, and its value. -/
abbrev Given := Written × String

/-- An attribute with the name that it has been found to have. Without a namespace, the
prefix it was written with is part of the name. -/
structure Found where
  written : Written
  space : String
  value : String
  deriving Inhabited

/-- The name of an attribute. -/
def Found.name (a : Found) : Name :=
  if a.space.isEmpty then Name.plain a.written.full else ⟨a.space, a.written.base⟩

/-- The values of the attribute that says how blanks are to be treated. -/
def blankHandlings : List String := ["default", "preserve"]

/-- **The attributes of a tag**, up to its end, in the reverse order after those before;
whether the tag is also the end of the element; and the scope inside. -/
def attributes (d : Declarations) (around : Nat) (element : Written) :
    (fuel : Nat) → TagScope → (before : List Given) → Scan (List Given × Bool × TagScope)
  | 0, _, _ => refuse
  | fuel + 1, t, before => do
    let blank ← blanks
    if ← optional "/>" then return (before, true, t)
    else if ← optional ">" then return (before, false, t)
    else
      require blank
      let n ← writtenName
      spaces
      literal "="
      spaces
      let rule? := d.rules.find? fun r => r.element == element.full && r.key == n.full
      let value ← attributeValue d ((rule?.map (·.kind)).getD .text) fuel around
      if n == ⟨some markupPrefix, "space"⟩ && !blankHandlings.contains value then
        report .warning
      if n == ⟨none, declaringPrefix⟩ then
        attributes d around element fuel (← t.declareBare value) before
      else if n.space? == some declaringPrefix then
        attributes d around element fuel (← t.declarePrefix n.base value) before
      else attributes d around element fuel t ((n, value) :: before)

/-- The attributes that the declarations supply to an element, and their values. -/
def suppliedTo (d : Declarations) (element : Written) : List Given :=
  d.rules.filterMap fun r =>
    if Written.ofDeclared r.element == element then
      r.default?.map fun v => (Written.ofDeclared r.key, v)
    else none

/-- Whether an attribute declares a namespace. -/
def isDeclaration (a : Given) : Bool :=
  a.1 == ⟨none, declaringPrefix⟩ || a.1.space? == some declaringPrefix

/-- What an attribute costs that the declarations supply. -/
def supplyPrice (a : Given) : Nat :=
  a.1.base.utf8ByteSize + (a.1.space?.getD "").utf8ByteSize + a.2.utf8ByteSize

/-- The scope with the namespaces that the declarations supply. These are not checked. -/
def supplySpaces (t : TagScope) : List Given → Scan TagScope
  | [] => return t
  | a :: as => do
    charge (supplyPrice a)
    supplySpaces (t.supply (if a.1.space?.isSome then a.1.base else "") a.2) as

/-- The namespace of an attribute. A prefix that nobody declares is reported. -/
def resolveAttribute (scope : Scope) (a : Given) : Scan Found := do
  match a.1.space? with
  | none => return ⟨a.1, "", a.2⟩
  | some p =>
    match namespaceOf? scope p with
    | some space => return ⟨a.1, space, a.2⟩
    | none => do
      report .error
      return ⟨a.1, "", a.2⟩

/-- The attribute that one with the same name was before. -/
def twin? (a : Found) (as : List Found) : Option Found :=
  as.find? fun b => b.space == a.space && b.written.base == a.written.base

/-- Checks that no attribute is given twice, and reports two that only come to the same;
how many those are. -/
def checkTwins : List Found → (before : List Found) → (twins : Nat) → Scan Nat
  | [], _, twins => return twins
  | a :: as, before, twins => do
    match twin? a before with
    | none => checkTwins as (before ++ [a]) twins
    | some b => do
      require (b.written.space? != a.written.space?)
      report .error
      checkTwins as before (twins + 1)

/-- Whether no member of a list occurs twice. -/
def allDistinct {β : Type} [BEq β] : List β → Bool
  | [] => true
  | x :: xs => !xs.contains x && allDistinct xs

/-- The attributes that are supplied where they are not given. -/
def supplyRest (scope : Scope) : List Given → List Found → Scan (List Found)
  | [], found => return found
  | a :: as, found => do
    let a ← resolveAttribute scope a
    match twin? a found with
    | some b =>
      if b.written.space? == a.written.space? then supplyRest scope as found
      else
        report .error
        charge (supplyPrice (a.written, a.value))
        supplyRest scope as (found ++ [a])
    | none => do
      charge (supplyPrice (a.written, a.value))
      supplyRest scope as (found ++ [a])

/-- **All attributes of a tag** in its scope: the given ones, and those that are
supplied. -/
def resolveAttributes (scope : Scope) (given supplied : List Given) : Scan (List Found) := do
  let given ← given.mapM (resolveAttribute scope)
  let twins ← checkTwins given [] 0
  if 1 < twins then
    require (allDistinct ((given.filter (·.written.space?.isSome)).map (·.written)))
  supplyRest scope supplied given

/-! ### Identifiers -/

/-- Notes the identifier of an element, which no other may have. -/
def noteIdentifier (value : String) : Scan Unit := do
  if !value.isEmpty then
    if (← get).identifiers.contains value then report .error
    else modify fun s => { s with identifiers := value :: s.identifiers }

/-- Whether a text is a name without a colon, with blanks around it. -/
def isIdentifier (value : String) : Bool :=
  let cs := ((value.toList.dropWhile isSpace).reverse.dropWhile isSpace).reverse
  isName cs && !cs.contains ':'

/-- Notes what an attribute says of the identity of its element. -/
def noteIdentity (d : Declarations) (element : Written) (a : Found) : Scan Unit := do
  if a.written.full == identifierKey then
    if !isIdentifier a.value then report .error
    noteIdentifier a.value
  else
    let isRule (r : AttributeRule) : Bool :=
      r.element == element.full && r.kind == .identifier
        && Written.ofDeclared r.key == (if a.space.isEmpty then ⟨none, a.written.full⟩
          else a.written)
    if d.rules.any isRule then noteIdentifier a.value

/-! ### Tags -/

/-- **A tag**: the name as it is written, which the closing tag has to repeat; the element
that begins, with nothing inside yet; whether it ends here; and the scope inside. -/
structure Tag where
  written : Written
  element : Element
  isEmpty : Bool
  scope : Scope
  deriving Inhabited

/-- The name of an element in a scope. -/
def resolveElement (scope : Scope) (w : Written) : Scan Name := do
  match w.space? with
  | none => return ⟨(scope.lookup "").getD "", w.base⟩
  | some p =>
    match (namespaceOf? scope p).filter (!·.isEmpty) with
    | some space => return ⟨space, w.base⟩
    | none => do
      report .error
      return Name.plain w.full

/-- **Reads a tag**, after its bracket. -/
def tag (d : Declarations) (fuel around : Nat) (scope : Scope) : Scan Tag := do
  let w ← writtenName
  let (given, isEmpty, t) ← attributes d around w fuel ⟨scope, []⟩ []
  let supplied := suppliedTo d w
  let t ← supplySpaces t (supplied.filter isDeclaration)
  let found ←
    resolveAttributes t.scope given.reverse (supplied.filter fun a => !isDeclaration a)
  let n ← resolveElement t.scope w
  found.forM (noteIdentity d w)
  return ⟨w, ⟨n, found.map fun a => (a.name, a.value), []⟩, isEmpty, t.scope⟩

end Linkage.Markup
