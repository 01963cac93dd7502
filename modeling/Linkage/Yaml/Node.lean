import Linkage.Yaml.Queue
import Linkage.Yaml.Tag

/-!
# The nodes of a document

A document is one node: a text, a list of nodes, or a mapping of nodes to nodes. A node
can be named by an anchor and then stand again, as an alias, anywhere after that, even
inside itself. So the nodes of a document form no tree but a graph, and every node has a
number by which those around it refer to it.

Nodes are read off the tokens by recursive descent, one function for each kind of
collection. An entry, a key or a value that is missing is an empty plain text. The order
in which tokens are asked for matters: a document that goes wrong in several ways
reports the first thing that is met.

## Main definitions

* `Linkage.Yaml.Node`, `Linkage.Yaml.Graph`: the nodes, and all nodes of a document.
* `Linkage.Yaml.node`: reads one, after its anchor and tag.
* `Linkage.Yaml.document`: reads all of a document, which may hold no node at all.
* `Linkage.Yaml.Graph.ofText?`: the nodes that a text is.
-/

namespace Linkage.Yaml

/-- **A node**, which refers to its parts by their numbers. -/
inductive Node where
  | text (tag : Tag) (text : String)
  | list (tag : Tag) (items : List Nat)
  | mapping (tag : Tag) (entries : List (Nat × Nat))
  deriving Inhabited

/-- The tag of a node. -/
def Node.tag : Node → Tag
  | .text t _ | .list t _ | .mapping t _ => t

/-- A node with another tag. -/
def Node.withTag (t : Tag) : Node → Node
  | .text _ s => .text t s
  | .list _ items => .list t items
  | .mapping _ entries => .mapping t entries

/-- The node that stands for what is missing. -/
def Node.missing : Node := .text .null ""

/-- **The nodes of a document**, by number, and the one that the document is. -/
structure Graph where
  nodes : Array Node
  root : Nat
  deriving Inhabited

/-! ### State of the reading -/

/-- **What is known while reading**: the tokens to come, what the handles of tags stand
for, the nodes read so far, and the numbers of those with a name. -/
structure Reader where
  queue : Queue
  handles : List (String × String)
  nodes : Array Node
  anchors : List (String × Nat)
  deriving Inhabited

/-- Steps of the reading. -/
abbrev Reading := StateT Reader (Except (Fault Float))

namespace Reading

/-- The next token, which stays. -/
def peek : Reading Token := do
  let r ← get
  let (t, queue) ← (r.queue.peek : Except _ _)
  set { r with queue }
  return t

/-- Takes the next token. -/
def skip : Reading Unit := do
  let r ← get
  let (_, queue) ← (r.queue.take : Except _ _)
  set { r with queue }

/-- Takes the next token if it is the given one. -/
def accept (t : Token) : Reading Bool := do
  if (← peek) == t then
    skip
    return true
  else return false

/-- The tokens do not form a document. -/
def refuse {β : Type} : Reading β := throw .badGrammar

/-- Takes the sign between two entries of a flow collection, which must be there except in
front of the first. -/
def separator (isFirst : Bool) : Reading Unit := do
  if !isFirst then
    if !(← accept .flowEntry) then refuse

/-- **A new node.** No other may have its name. -/
def add (anchor : Option String) (n : Node) : Reading Nat := do
  if let some a := anchor then
    if ((← get).anchors.lookup a).isSome then throw .badComposition
  modifyGet fun r =>
    let k := r.nodes.size
    (k, { r with
      nodes := r.nodes.push n
      anchors := (anchor.map fun a => (a, k)).toList ++ r.anchors })

/-- **A new collection.** It has a number before its parts are read, for they may refer to
it. -/
def collect {β : Type} (anchor : Option String) (make : List β → Node)
    (parts : Reading (List β)) : Reading Nat := do
  let k ← add anchor (make [])
  let ps ← parts
  modify fun r => { r with nodes := r.nodes.setIfInBounds k (make ps) }
  return k

/-- The number of the node with a name. -/
def named (a : String) : Reading Nat := do
  match (← get).anchors.lookup a with
  | some k => return k
  | none => throw .badComposition

/-- A node for what is missing. -/
def addMissing : Reading Nat := add none .missing

end Reading

open Reading

/-! ### Anchors and tags -/

/-- An anchor, if one is next. -/
def anchor? : Reading (Option String) := do
  match ← peek with
  | .anchor a =>
    skip
    return some a
  | _ => return none

/-- The name of a tag, if one is next. The handle must be known. -/
def tagName? : Reading (Option (Option String × String)) := do
  match ← peek with
  | .tag handle suffix =>
    skip
    return some (handle, suffix)
  | _ => return none

/-- The name that a tag is short for. -/
def fullName : Option (Option String × String) → Reading (Option String)
  | none => return none
  | some (none, suffix) => return some suffix
  | some (some handle, suffix) => do
    match (← get).handles.lookup handle with
    | some start => return some (start ++ suffix)
    | none => refuse

/-- **What stands in front of a node**: an anchor and a tag, in any order, each if it is
there. -/
def properties : Reading (Option String × Option String) := do
  let anchor ← anchor?
  let tag ← tagName?
  let anchor ← if anchor.isNone && tag.isSome then anchor? else pure anchor
  return (anchor, ← fullName tag)

/-- The tag with a name. A lone mark stands for no tag. -/
def tagOr (fallback : Tag) : Option String → Tag
  | none => fallback
  | some name => if name == "!" then fallback else Tag.ofName name

/-- The node that a text is. A lone mark makes it a plain one. -/
def textNode (isPlain : Bool) (tag : Option String) (text : String) : Node :=
  let isPlain := (isPlain && tag.isNone) || tag == some "!"
  .text (tagOr (if isPlain then .ofPlain text.toList else .text) tag) text

/-- A node of which there is nothing but its anchor and tag, at least one of them. -/
def bareNode (anchor tag : Option String) : Reading Nat := do
  if anchor.isNone && tag.isNone then refuse else add anchor (textNode true tag "")

/-! ### Nodes -/

/-- Where a node stands, which decides what it may be: inside a flow collection, in a
block, or in the value of a mapping, where a list need not be indented. -/
inductive Place where
  | flow
  | block
  | value
  deriving DecidableEq

mutual

/-- **Reads a node.** -/
def node : (fuel : Nat) → Place → Reading Nat
  | 0, _ => refuse
  | fuel + 1, place => do
    match ← peek with
    | .reference a =>
      skip
      named a
    | _ => do
      let (anchor, tag) ← properties
      let list := Node.list (tagOr .list tag)
      let mapping := Node.mapping (tagOr .mapping tag)
      match ← peek with
      | .text isPlain text =>
        skip
        add anchor (textNode isPlain tag text)
      | .flowSequence => collect anchor list (do skip; flowItems fuel true)
      | .flowMapping => collect anchor mapping (do skip; flowEntries fuel true)
      | .blockSequence =>
        if place == .flow then bareNode anchor tag
        else collect anchor list (do skip; blockItems fuel)
      | .blockMapping =>
        if place == .flow then bareNode anchor tag
        else collect anchor mapping (do skip; blockEntries fuel)
      | .blockEntry =>
        if place == .value then collect anchor list (looseItems fuel) else bareNode anchor tag
      | _ => bareNode anchor tag

/-- The items of an indented list. -/
def blockItems : (fuel : Nat) → Reading (List Nat)
  | 0 => refuse
  | fuel + 1 => do
    match ← peek with
    | .blockEntry =>
      skip
      let item ← match ← peek with
        | .blockEntry | .blockEnd => addMissing
        | _ => node fuel .block
      return item :: (← blockItems fuel)
    | .blockEnd =>
      skip
      return []
    | _ => refuse

/-- The items of a list that is not indented. Whatever is no item ends it. -/
def looseItems : (fuel : Nat) → Reading (List Nat)
  | 0 => refuse
  | fuel + 1 => do
    match ← peek with
    | .blockEntry =>
      skip
      let item ← match ← peek with
        | .blockEntry | .key | .value | .blockEnd => addMissing
        | _ => node fuel .block
      return item :: (← looseItems fuel)
    | _ => return []

/-- The entries of an indented mapping. Each begins with the sign of a key. -/
def blockEntries : (fuel : Nat) → Reading (List (Nat × Nat))
  | 0 => refuse
  | fuel + 1 => do
    match ← peek with
    | .key => do
      skip
      let key ← blockPart fuel
      return (key, ← blockValue fuel) :: (← blockEntries fuel)
    | .blockEnd =>
      skip
      return []
    | _ => refuse

/-- The value after a key, if there is one. -/
def blockValue : (fuel : Nat) → Reading Nat
  | 0 => refuse
  | fuel + 1 => do
    if ← accept .value then blockPart fuel else addMissing

/-- A key or a value in an indented mapping, after its sign. -/
def blockPart : (fuel : Nat) → Reading Nat
  | 0 => refuse
  | fuel + 1 => do
    match ← peek with
    | .key | .value | .blockEnd => addMissing
    | _ => node fuel .value

/-- The items of a list in brackets. A single entry of a mapping may stand as an item
without brackets of its own. -/
def flowItems : (fuel : Nat) → (isFirst : Bool) → Reading (List Nat)
  | 0, _ => refuse
  | fuel + 1, isFirst => do
    if ← accept .flowSequenceEnd then return []
    else
      separator isFirst
      match ← peek with
      | .key =>
        skip
        let key ← flowPart fuel .flowSequenceEnd true
        let value ← flowValue fuel .flowSequenceEnd
        let entry ← add none (.mapping .mapping [(key, value)])
        return entry :: (← flowItems fuel false)
      | .flowSequenceEnd =>
        skip
        return []
      | _ => return (← node fuel .flow) :: (← flowItems fuel false)

/-- The entries of a mapping in brackets. -/
def flowEntries : (fuel : Nat) → (isFirst : Bool) → Reading (List (Nat × Nat))
  | 0, _ => refuse
  | fuel + 1, isFirst => do
    if ← accept .flowMappingEnd then return []
    else
      separator isFirst
      match ← peek with
      | .key =>
        skip
        let key ← flowPart fuel .flowMappingEnd true
        return (key, ← flowValue fuel .flowMappingEnd) :: (← flowEntries fuel false)
      | .flowMappingEnd =>
        skip
        return []
      | _ => return (← node fuel .flow, ← addMissing) :: (← flowEntries fuel false)

/-- The value after a key in brackets, if there is one. -/
def flowValue : (fuel : Nat) → (closing : Token) → Reading Nat
  | 0, _ => refuse
  | fuel + 1, closing => do
    if ← accept .value then flowPart fuel closing false else addMissing

/-- A key or a value in brackets, after its sign. After that of a key, the sign of the
value may come next. -/
def flowPart : (fuel : Nat) → (closing : Token) → (isKey : Bool) → Reading Nat
  | 0, _, _ => refuse
  | fuel + 1, closing, isKey => do
    let t ← peek
    if t == .flowEntry || t == closing || (isKey && t == .value) then addMissing
    else node fuel .flow

end

/-! ### Documents -/

/-- The handles that need no declaration. -/
def defaultHandles : List (String × String) := [("!", "!"), ("!!", Tag.standard)]

/-- Takes the directives in front of a document. There may be one version, the first, and
each handle is declared once. -/
def directives : (fuel : Nat) → (hasVersion : Bool) → (handles : List (String × String)) →
    Reading (List (String × String))
  | 0, _, _ => refuse
  | fuel + 1, hasVersion, handles => do
    match ← peek with
    | .directive (.version major _) =>
      skip
      if hasVersion || major != 1 then refuse else directives fuel true handles
    | .directive (.handle handle start) =>
      skip
      if (handles.lookup handle).isSome then refuse
      else directives fuel hasVersion ((handle, start) :: handles)
    | .directive .other =>
      skip
      directives fuel hasVersion handles
    | _ => return handles

/-- Takes the signs that end documents. -/
def skipEnds : (fuel : Nat) → Reading Unit
  | 0 => refuse
  | fuel + 1 => do if ← accept .documentEnd then skipEnds fuel

/-- Takes the beginning of a document. It must be marked, unless there is none. -/
def opening (fuel : Nat) : Reading Bool := do
  skipEnds fuel
  if (← peek) == .streamEnd then return false
  else
    let handles ← directives fuel false []
    modify fun r => { r with handles := handles ++ defaultHandles }
    if ← accept .documentStart then return true else refuse

/-- The node of a document, after its beginning. -/
def content (fuel : Nat) : Reading Nat := do
  match ← peek with
  | .directive _ | .documentStart | .documentEnd | .streamEnd => addMissing
  | _ => node fuel .block

/-- The end of a document, after which there must not be another. -/
def closing (fuel : Nat) : Reading Unit := do
  let _ ← accept .documentEnd
  if ← opening fuel then throw .badComposition

/-- **Reads a document.** It need not be marked if no directives stand in front. -/
def document (fuel : Nat) : Reading (Option Nat) := do
  match ← peek with
  | .directive _ | .documentStart | .streamEnd =>
    if ← opening fuel then
      let n ← content fuel
      closing fuel
      return some n
    else return none
  | _ =>
    let n ← node fuel .block
    closing fuel
    return some n

/-- **The nodes that a text is**, if it holds any. As every token has at least one
character or ends a block, the number of steps is bounded by that of the characters. -/
def Graph.ofText? (text : List Char) : Except (Fault Float) (Option Graph) := do
  let start ← Cursor.start text
  let (root, r) ← (document (20 * (text.length + 10))).run ⟨.start start, defaultHandles, #[], []⟩
  return root.map fun k => ⟨r.nodes, k⟩

end Linkage.Yaml
