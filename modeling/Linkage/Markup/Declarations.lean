import Linkage.Markup.Scan

/-!
# Declarations

A document may begin with declarations of its own: entities, which stand for text that
is referred to by name, and attributes that an element has even where it does not give
them. Of several declarations of one thing the first counts. Declarations of elements
and notations change nothing, but none of them may come twice, and what is declared of
an attribute has to agree with itself.

The text of an entity is kept with its character references resolved and its entity
references as they are; those are resolved where the entity is used. Declarations can be
kept in other places, which are not read: parameters, and a document of their own.
Once a document mentions such a place, an entity that is not declared may be declared
there, and is reported but not refused.

## Main definitions

* `Linkage.Markup.Entity`, `Linkage.Markup.AttributeRule`, `Linkage.Markup.Declarations`.
* `Linkage.Markup.attributeText`: the value of an attribute from what stands between the
  quotes.
* `Linkage.Markup.doctype`: reads the declarations of a document.
-/

namespace Linkage.Markup

/-- **What an entity stands for**: a text, or something outside the document. -/
inductive Entity where
  | inside (text : List Char)
  | outside
  deriving Repr, DecidableEq, Inhabited

/-- **The kind of an attribute**, which says what its values are made of. -/
inductive AttributeKind where
  | text
  | identifier
  | reference
  | references
  | entity
  | entities
  | token
  | tokens
  | choice
  | notationName
  deriving Repr, DecidableEq, Inhabited

/-- **What is declared of an attribute of an element**: its kind, and the value it has
where none is given. -/
structure AttributeRule where
  element : String
  key : String
  kind : AttributeKind
  default? : Option String
  deriving Repr, DecidableEq, Inhabited

/-- **All declarations of a document**: entities, attributes, and the names of elements
and notations; whether the document says that there are no others, and whether it
mentions a place where others may be. -/
structure Declarations where
  entities : List (String × Entity)
  rules : List AttributeRule
  elements : List String
  notations : List String
  isComplete : Bool
  mentionsOthers : Bool
  deriving Inhabited

/-- No declarations. -/
def Declarations.none (isComplete : Bool) : Declarations := ⟨[], [], [], [], isComplete, false⟩

/-- A reference to an entity that is not declared. -/
def undeclared (d : Declarations) : Scan Unit :=
  if d.mentionsOthers && !d.isComplete then report .error else refuse

/-! ### Values of attributes -/

/-- How deep entities may lie in one another in the value of an attribute. -/
def maxValueDepth : Nat := 19

/-- Line ends brought to one character. -/
def unifyLines : List Char → List Char
  | [] => []
  | '\r' :: '\n' :: cs => '\n' :: unifyLines cs
  | '\r' :: cs => '\n' :: unifyLines cs
  | c :: cs => c :: unifyLines cs

/-- **The value of an attribute**, from what stands between the quotes or what an entity
brings in, put in front of what was read before, the last character first. Blanks become
spaces, and references what they name, which for an entity is its text under the same
rules. `fuel` bounds the steps, and `around` counts the entities around. -/
def attributeText (d : Declarations) :
    (fuel around : Nat) → List Char → (before : List Char) → Scan (List Char)
  | _, _, [], before => return before
  | 0, _, _ :: _, _ => refuse
  | fuel + 1, around, '&' :: cs, before =>
    match reference? cs with
    | none => refuse
    | some (.char c, cs) => attributeText d fuel around cs (c :: before)
    | some (.entity n, cs) =>
      match predefined? n, d.entities.lookup n with
      | some c, _ => attributeText d fuel around cs (c :: before)
      | none, some (.inside text) => do
        require (around < maxValueDepth)
        charge (byteLength text)
        let before ← attributeText d fuel (around + 1) text before
        attributeText d fuel around cs before
      | none, some .outside => refuse
      | none, none => do
        undeclared d
        attributeText d fuel around cs before
  | fuel + 1, around, c :: cs, before =>
    if c == '<' then refuse
    else attributeText d fuel around cs ((if isSpace c then ' ' else c) :: before)

/-- A value as a list of tokens: spaces at its ends are dropped, and runs of them become
one. -/
def tokensText (cs : List Char) : List Char :=
  let words := (cs.splitOn ' ').filter fun w => !w.isEmpty
  (words.intersperse [' ']).flatten

/-- **Reads the value of an attribute**, quotes and all, and brings it to the form of its
kind. -/
def attributeValue (d : Declarations) (kind : AttributeKind) (fuel around : Nat) :
    Scan String := do
  let value := (← attributeText d fuel around (unifyLines (← quotedText)) []).reverse
  return String.ofList (if kind == .text then value else tokensText value)

/-! ### Entities -/

/-- **The text of an entity**, from what stands between the quotes of its declaration, put
in front of what was read before, the last character first; whether a parameter was
mentioned, which ends the text. -/
def entityText (isComplete : Bool) :
    (fuel : Nat) → List Char → (before : List Char) → Scan (List Char × Bool)
  | _, [], before => return (before, false)
  | 0, _ :: _, _ => refuse
  | _ + 1, '%' :: cs, before =>
    match nameOf? cs with
    | some (_, ';' :: _) => do
      if isComplete then refuse
      report .error
      return (before, true)
    | _ => refuse
  | fuel + 1, '&' :: cs, before =>
    match reference? cs with
    | none => refuse
    | some (.char c, cs) => entityText isComplete fuel cs (c :: before)
    | some (.entity n, cs) =>
      entityText isComplete fuel cs (';' :: n.toList.reverse ++ '&' :: before)
  | fuel + 1, c :: cs, before => entityText isComplete fuel cs (c :: before)

/-- What follows the word for something outside the document: its address, if it has one.
A public identifier is followed by an address, except in a notation. -/
def externalId (isNotation : Bool) : Scan (List Char) := do
  if ← optional "SYSTEM" then
    someSpaces
    quotedText
  else
    literal "PUBLIC"
    someSpaces
    let identifier ← quotedText
    require (identifier.all isPublicChar)
    let blank ← blanks
    if ← atQuote then
      require blank
      quotedText
    else
      require isNotation
      return []

/-- The two digits of a number below a hundred. -/
def twoDigits (base n : Nat) : List Char := [Nat.digitChar (n / base), Nat.digitChar (n % base)]

/-- Whether a text may stand for a character that needs no declaration: it is that
character, unless the character is a sign of markup, or the reference to its number. -/
def restates (c : Char) (text : List Char) : Bool :=
  (text == [c] && c != '<' && c != '&')
    || text == "&#".toList ++ twoDigits 10 c.toNat ++ [';']
    || (startsWith "&#x" text
      && (text.drop 3).map Char.toLower == twoDigits 16 c.toNat ++ [';'])

/-- The declarations with an entity, unless there is one of its name. An entity that needs
no declaration cannot be given another meaning, and whoever tries is warned. -/
def declareEntity (n : String) (e : Entity) (d : Declarations) : Scan Declarations := do
  let isRestated := match predefined? n, e with
    | some c, .inside text => restates c text
    | some _, .outside => false
    | none, _ => true
  if !isRestated then
    report .warning
    return d
  else if (d.entities.lookup n).isSome then return d
  else return { d with entities := d.entities ++ [(n, e)] }

/-- The declaration of an entity, after its first word. A parameter is read and forgotten,
and an address should have no fragment. -/
def entityDeclaration (d : Declarations) : Scan Declarations := do
  someSpaces
  let isParameter ← optional "%"
  if isParameter then someSpaces
  let n ← plainName
  someSpaces
  if ← atQuote then
    let raw ← quotedText
    let (text, mentionsOthers) ← entityText d.isComplete (raw.length + 1) raw []
    let d := { d with mentionsOthers := d.mentionsOthers || mentionsOthers }
    let d ← if isParameter then pure d else declareEntity n (.inside text.reverse) d
    spaces
    literal ">"
    return d
  else
    let address ← externalId false
    if address.contains '#' then report .error
    let blank ← blanks
    let isUnparsed ← if isParameter then pure false else optional "NDATA"
    if isUnparsed then
      require blank
      someSpaces
      discard name
      spaces
    literal ">"
    if isParameter then return d else declareEntity n .outside d

/-! ### Attributes -/

/-- The names of a choice, after its opening bracket. -/
def choiceNames (item : Scan String) : (fuel : Nat) → Scan Unit
  | 0 => refuse
  | fuel + 1 => do
    spaces
    discard item
    spaces
    if ← optional "|" then choiceNames item fuel else literal ")"

/-- The kinds of attributes that are named by a word. -/
def kindNames : List (String × AttributeKind) :=
  [("CDATA", .text), ("ID", .identifier), ("IDREF", .reference), ("IDREFS", .references),
    ("ENTITY", .entity), ("ENTITIES", .entities), ("NMTOKEN", .token), ("NMTOKENS", .tokens)]

/-- The kind of an attribute. -/
def attributeKind : Scan AttributeKind := do
  if ← optional "(" then
    choiceNames token (← remaining).length
    return .choice
  else
    let word ← name
    if word == "NOTATION" then
      someSpaces
      literal "("
      choiceNames name (← remaining).length
      return .notationName
    else
      match kindNames.lookup word with
      | some kind => return kind
      | none => refuse

/-- What is said of the value of an attribute that is not given. -/
def attributeDefault (d : Declarations) (kind : AttributeKind) (fuel : Nat) :
    Scan (Option String) := do
  if ← optional "#REQUIRED" then return none
  else if ← optional "#IMPLIED" then return none
  else
    if ← optional "#FIXED" then someSpaces
    return some (← attributeValue d kind fuel 0)

/-- Whether a text is a name. -/
def isName (cs : List Char) : Bool :=
  match nameOf? cs with
  | some (_, []) => true
  | _ => false

/-- Whether a text is made of name characters. -/
def isToken (cs : List Char) : Bool := !cs.isEmpty && cs.all isFullNameChar

/-- **Whether an attribute of a kind can have a value.** Which names exist, and which of
them may be chosen, is not asked. -/
def AttributeKind.allows (kind : AttributeKind) (value : String) : Bool :=
  let words := value.toList.splitOn ' '
  match kind with
  | .text => true
  | .identifier | .reference | .entity | .notationName => isName value.toList
  | .references | .entities => words.all isName
  | .token => isToken value.toList
  | .tokens | .choice => words.all isToken

/-- The attribute that identifies an element in every document. -/
def identifierKey : String := "xml:id"

/-- **The declarations with one more of an attribute.** An element can be identified by
one attribute only, and a default value must be one of the attribute's kind. A second
declaration of one attribute brings a warning. -/
def declareAttribute (rule : AttributeRule) (d : Declarations) : Scan Declarations := do
  if rule.key == identifierKey && rule.kind != .identifier then report .error
  if rule.default?.any fun value => !rule.kind.allows value then report .error
  let others := d.rules.filter (·.element == rule.element)
  if others.any (·.key == rule.key) then
    report .warning
    return d
  else
    if rule.kind == .identifier && others.any (·.kind == .identifier) then report .error
    return { d with rules := d.rules ++ [rule] }

/-- The rules of the attributes of an element, up to the end of the declaration. -/
def attributeRules (element : String) : (fuel : Nat) → Declarations → Scan Declarations
  | 0, _ => refuse
  | fuel + 1, d => do
    let blank ← blanks
    if ← optional ">" then return d
    else
      require blank
      let key ← name
      someSpaces
      let kind ← attributeKind
      someSpaces
      let default? ← attributeDefault d kind fuel
      attributeRules element fuel (← declareAttribute ⟨element, key, kind, default?⟩ d)

/-! ### Elements and notations -/

/-- How deep the brackets around the parts of an element may lie in one another. -/
def maxGroupDepth : Nat := 256

/-- The mark of how often a part of an element may occur. -/
def occurrence : Scan Unit := do
  let c ← peek?
  if c == some '?' || c == some '*' || c == some '+' then discard anyChar

mutual

/-- One part of the content of an element: a name, or a group in brackets. `depth` counts
the brackets around. -/
def contentPart : (fuel depth : Nat) → Scan Unit
  | 0, _ => refuse
  | fuel + 1, depth => do
    if ← optional "(" then contentGroup fuel (depth + 1) none else discard name
    occurrence

/-- A group of parts after its opening bracket, all separated by one mark. -/
def contentGroup : (fuel depth : Nat) → Option String → Scan Unit
  | 0, _, _ => refuse
  | fuel + 1, depth, mark? => do
    require (depth ≤ maxGroupDepth)
    spaces
    contentPart fuel depth
    spaces
    if ← optional ")" then return ()
    match mark? with
    | some mark => do
      literal mark
      contentGroup fuel depth (some mark)
    | none => do
      if ← optional "|" then contentGroup fuel depth (some "|")
      else
        literal ","
        contentGroup fuel depth (some ",")

end

/-- The names that text may be mixed with, after the word for text. -/
def mixedNames (hasNames : Bool) : (fuel : Nat) → Scan Unit
  | 0 => refuse
  | fuel + 1 => do
    spaces
    if ← optional "|" then
      spaces
      discard name
      mixedNames true fuel
    else
      literal ")"
      let starred ← optional "*"
      require (starred || !hasNames)

/-- A list of names with one more, which should not be there already. -/
def declareOnce (n : String) (names : List String) : Scan (List String) := do
  if names.contains n then
    report .error
    return names
  else return n :: names

/-- The declaration of an element, after its first word. -/
def elementDeclaration (d : Declarations) : Scan Declarations := do
  someSpaces
  let n ← name
  someSpaces
  if ← optional "EMPTY" then pure ()
  else if ← optional "ANY" then pure ()
  else
    literal "("
    spaces
    let fuel := (← remaining).length
    if ← optional "#PCDATA" then mixedNames false fuel
    else
      contentGroup fuel 1 none
      occurrence
  spaces
  literal ">"
  return { d with elements := ← declareOnce n d.elements }

/-- The declaration of a notation, after its first word. -/
def notationDeclaration (d : Declarations) : Scan Declarations := do
  someSpaces
  let n ← plainName
  someSpaces
  discard (externalId true)
  spaces
  literal ">"
  return { d with notations := ← declareOnce n d.notations }

/-! ### Comments and instructions -/

/-- **A comment**, after its opening. Two hyphens end it. -/
def comment : Scan Unit := do
  discard (through "--")
  literal ">"

/-- The reserved names of instructions that anybody may use. -/
def reservedTargets : List String := ["xml-stylesheet", "xml-model"]

/-- **An instruction** to somebody else, after its opening. It may not be for the reader
of markup itself, and one for a name like that brings a warning. -/
def instruction : Scan Unit := do
  let target ← name
  let isReserved := target.toLower.startsWith "xml"
  require (target.toLower != "xml")
  if isReserved && !reservedTargets.contains target then report .warning
  if !reservedTargets.contains target && target.contains ':' then report .error
  if ← optional "?>" then return ()
  someSpaces
  discard (through "?>")

/-! ### The declarations of a document -/

/-- Declarations one after the other, up to the bracket that ends them. -/
def declarations : (fuel : Nat) → Declarations → Scan Declarations
  | 0, _ => refuse
  | fuel + 1, d => do
    spaces
    if ← optional "<!ENTITY" then declarations fuel (← entityDeclaration d)
    else if ← optional "<!ATTLIST" then
      someSpaces
      let element ← name
      declarations fuel (← attributeRules element fuel d)
    else if ← optional "<!ELEMENT" then declarations fuel (← elementDeclaration d)
    else if ← optional "<!NOTATION" then declarations fuel (← notationDeclaration d)
    else if ← optional "<!--" then
      comment
      declarations fuel d
    else if ← optional "<?" then
      instruction
      declarations fuel d
    else if ← optional "%" then
      discard name
      literal ";"
      let d := { d with mentionsOthers := true }
      undeclared d
      declarations fuel d
    else
      literal "]"
      return d

/-- **Reads the declarations of a document**, after their first word. -/
def doctype (isComplete : Bool) (fuel : Nat) : Scan Declarations := do
  someSpaces
  discard name
  let blank ← blanks
  let next ← peek?
  let hasAddress := next == some 'S' || next == some 'P'
  if hasAddress then
    require blank
    discard (externalId false)
    spaces
  let d := { Declarations.none isComplete with mentionsOthers := hasAddress }
  let d ← if ← optional "[" then declarations fuel d else pure d
  spaces
  literal ">"
  return d

end Linkage.Markup
