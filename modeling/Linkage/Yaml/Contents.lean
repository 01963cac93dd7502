import Linkage.Yaml.Bytes
import Linkage.Yaml.Merge

/-!
# What the nodes of a document stand for

A node stands for a value as its tag says. A text stands for a value of its own, a list
and a mapping for a collection, whose parts are what its parts stand for. A node that
stands in several places stands for one and the same thing in all of them.

The collections are there before anything is in them, and are filled round by round: a
document can hold several nodes that stand for nothing, and reported is the one with the
fewest collections around it, and of several the first. What a collection takes over
from others is found out when it is filled, not earlier.

A mapping keeps the order of its entries, and a key that is repeated has the last of its
values.

## Main definitions

* `Linkage.Yaml.Atom`, `Linkage.Yaml.Part`, `Linkage.Yaml.Contents`: the values that hold
  no others; what a collection has in it; and the collections.
* `Linkage.Yaml.Graph.contents`: all collections of a document.
-/

namespace Linkage.Yaml

/-! ### Values that hold no others -/

/-- The value of a text. -/
def textValue (tag : Tag) (text : String) : Except (Fault Float) Value :=
  match tag with
  | .null => .ok .null
  | .truth =>
    let word := String.ofList (Text.lower text.toList)
    match Tag.truths.lookup word with
    | some b => .ok (.bool b)
    | none => .error (.notTruth word)
  | .whole => (wholeValue text.toList).map .int
  | .real => (realValue text.toList).map .float
  | .stamp =>
    match stamp? (Tag.chomped text.toList) with
    | some s => s.value
    | none => .error .notMoment
  | .bytes =>
    if text.toList.all fun c => c.toNat < 0x80 then
      match bytes? text.toList with
      | some bs => .ok (.bytes bs)
      | none => .error .badConstruction
    else .error .badConstruction
  | .text => .ok (.text text)
  | .list | .mapping | .set | .ordered | .pairs | .merge | .content | .other =>
    .error .badConstruction

/-- **A value that holds no other**, and the node that it comes from. The word for what is
no number stands for one thing wherever it is written, which comes from no node. -/
structure Atom where
  origin : Option Nat
  value : Value
  deriving Inhabited

/-- **Whether two keys are one**: they come from one node, or look the same. -/
def Atom.same (a b : Atom) : Bool := a.origin == b.origin || a.value.sameKey b.value

/-- A key is the same as itself, even if it is no number. -/
theorem Atom.same_self (a : Atom) : a.same a = true := by simp [Atom.same]

/-- The value of a node, its text being known. -/
def Atom.ofText (k : Nat) (tag : Tag) (text : String) : Except (Fault Float) Atom := do
  let isShared := tag == .real && isNoNumber text.toList
  return ⟨if isShared then none else some k, ← textValue tag text⟩

/-! ### Collections -/

/-- **What a collection has in it**: values, and collections by their numbers. -/
inductive Part where
  | atom (a : Atom)
  | whole (collection : Nat)
  deriving Inhabited

/-- **A collection.** -/
inductive Contents where
  | list (items : List Part)
  | pair (first second : Part)
  | mapping (entries : List (Atom × Part))
  | set (members : List Atom)
  deriving Inhabited

/-- **Writes an entry.** A key that is there already keeps its place and its spelling
and gets the new value. -/
def putEntry (key : Atom) (value : Part) : List (Atom × Part) → List (Atom × Part)
  | [] => [(key, value)]
  | (k, v) :: rest =>
    if k.same key then (k, value) :: rest else (k, v) :: putEntry key value rest

/-- What was just written is found under its key. -/
theorem find?_putEntry_self (key : Atom) (value : Part) (entries : List (Atom × Part)) :
    ((putEntry key value entries).find? fun e => e.1.same key).map Prod.snd = some value := by
  induction entries with
  | nil => simp [putEntry, Atom.same_self]
  | cons e rest ih =>
    obtain ⟨k, v⟩ := e
    by_cases h : k.same key <;> simp [putEntry, h, ih]

/-! ### Filling collections -/

/-- **What is known of a document while it is filled**: its nodes, what those stand for that
were met, the collections, and those that are still empty, each with its node, the latest
first. -/
structure Filling where
  nodes : Nodes
  met : Array (Option Part)
  collections : Array Contents
  pending : List (Nat × Nat)
  deriving Inhabited

/-- Steps of the filling. -/
abbrev Fill := StateT Filling (Except (Fault Float))

namespace Fill

/-- A new collection. -/
def addCollection (c : Contents) : Fill Nat :=
  modifyGet fun f => (f.collections.size, { f with collections := f.collections.push c })

/-- A new collection that is still empty. -/
def addPending (k : Nat) : Fill Part := do
  let c ← addCollection (.list [])
  modify fun f => { f with pending := (k, c) :: f.pending }
  return .whole c

/-- What a node stands for that is no collection. The text of a mapping is no moment. -/
def single (k : Nat) : Fill Part := do
  let nodes := (← get).nodes
  let tag := nodes.tagOf k
  match nodes.contentText? (nodes.size + 1) k, nodes.node k with
  | none, _ => throw .badConstruction
  | some text, .text .. => return .atom (← Atom.ofText k tag text)
  | some text, _ =>
    if tag == .stamp then throw (.notText "list") else return .atom (← Atom.ofText k tag text)

/-- **What a node stands for.** -/
def part (k : Nat) : Fill Part := do
  match (← get).met.getD k none with
  | some p => return p
  | none =>
    let p ← if ((← get).nodes.tagOf k).isCollection then addPending k else single k
    modify fun f => { f with met := f.met.setIfInBounds k (some p) }
    return p

/-- A step that changes nodes. -/
def change {β : Type} (step : Changing β) : Fill β := fun f => do
  let (b, nodes) ← step f.nodes
  return (b, { f with nodes })

/-- The entries of a mapping with all that it takes over. A collection is no key. -/
def entries (steps k : Nat) : Fill (List (Atom × Part)) := do
  (← change (Nodes.flatten steps k)).foldlM (fun done (key, value) => do
    match ← part key with
    | .whole _ => throw .badConstruction
    | .atom a => return putEntry a (← part value) done) []

/-- The pair that a mapping of one entry is. -/
def pair (k : Nat) : Fill Part := do
  match (← get).nodes.node k with
  | .mapping _ [(first, second)] =>
    let a ← part first
    let b ← part second
    return .whole (← addCollection (.pair a b))
  | _ => throw .badConstruction

/-- **What is in the collection** that a node stands for. -/
def contents (steps k : Nat) : Fill Contents := do
  match (← get).nodes.node k with
  | .list .list items => return .list (← items.mapM part)
  | .list .ordered items | .list .pairs items => return .list (← items.mapM pair)
  | .mapping .mapping _ => return .mapping (← entries steps k)
  | .mapping .set _ => return .set ((← entries steps k).map Prod.fst)
  | _ => throw .badConstruction

/-- Fills the collections that are still empty, round by round. As every node is filled
only once, the number of nodes bounds that of the rounds. -/
def rounds (steps : Nat) : (fuel : Nat) → Fill Unit
  | 0 => return ()
  | fuel + 1 => do
    let round := (← get).pending.reverse
    if round.isEmpty then return ()
    else
      modify fun f => { f with pending := [] }
      round.forM fun (k, c) => do
        let filled ← contents steps k
        modify fun f => { f with collections := f.collections.setIfInBounds c filled }
      rounds steps fuel

end Fill

/-- **All collections of a document**, and what the document itself is. -/
def Graph.contents (g : Graph) : Except (Fault Float) (Part × Array Contents) := do
  let steps := 2 * Nodes.entryCount g.nodes + 3
  let fill : Fill Part := do
    let p ← Fill.part g.root
    Fill.rounds steps (g.nodes.size + 1)
    return p
  let (p, f) ← fill.run ⟨g.nodes, Array.replicate g.nodes.size none, #[], []⟩
  return (p, f.collections)

end Linkage.Yaml
