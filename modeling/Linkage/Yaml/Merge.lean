import Linkage.Yaml.Node

/-!
# What mappings take over

Under the merge key a mapping takes over the entries of another one, or of a list of
them of which the first counts most. Here the nodes of a document are changed such that
no merge key is left: the entries that a mapping takes over come in front of its own,
so that of two under one key its own is the later, which counts.

A mapping that is taken over is changed first, and a mapping may take over itself, since
the nodes form a graph. So a merge key is gone before anyone looks at what stands under
it: no key is seen twice, and the changes come to an end.

## Main definitions

* `Linkage.Yaml.Nodes.flatten`: the entries of a mapping with all that it takes over.
* `Linkage.Yaml.Nodes.contentText?`: the text that stands for all of a mapping.
-/

namespace Linkage.Yaml

/-- The nodes of a document by number. -/
abbrev Nodes := Array Node

/-- Steps that change nodes. -/
abbrev Changing := StateT Nodes (Except (Fault Float))

namespace Nodes

/-- The node with a number. -/
def node (nodes : Nodes) (k : Nat) : Node := nodes.getD k .missing

/-- The tag of a node. -/
def tagOf (nodes : Nodes) (k : Nat) : Tag := (nodes.node k).tag

/-- The entries of a mapping; other nodes have none. -/
def entriesOf (nodes : Nodes) (k : Nat) : List (Nat × Nat) :=
  match nodes.node k with
  | .mapping _ entries => entries
  | _ => []

/-- How many entries all mappings have together. -/
def entryCount (nodes : Nodes) : Nat :=
  (List.range nodes.size).foldl (fun n k => n + (nodes.entriesOf k).length) 0

/-- The nodes, one mapping with other entries. -/
def withEntries (nodes : Nodes) (k : Nat) (entries : List (Nat × Nat)) : Nodes :=
  nodes.setIfInBounds k (.mapping (nodes.tagOf k) entries)

/-! ### Merge keys -/

/-- Takes the first merge key out of a mapping, and gives what stands under it. -/
def takeMerge? (k : Nat) : Changing (Option Nat) :=
  modifyGet fun nodes =>
    let entries := nodes.entriesOf k
    match entries.findIdx? fun (key, _) => nodes.tagOf key == .merge with
    | none => (none, nodes)
    | some i => ((entries[i]?).map Prod.snd, nodes.withEntries k (entries.eraseIdx i))

/-- As a key, the sign for the content of a mapping is an ordinary text. -/
def plainKey (nodes : Nodes) (key : Nat) : Nodes :=
  if nodes.tagOf key == .content then
    nodes.setIfInBounds key ((nodes.node key).withTag .text)
  else nodes

/-- A mapping without merge keys: the entries that it takes over come in front. -/
def settle (k : Nat) (taken : List (Nat × Nat)) (nodes : Nodes) : Nodes :=
  let own := nodes.entriesOf k
  (own.foldl (fun nodes (key, _) => nodes.plainKey key) nodes).withEntries k (taken ++ own)

mutual

/-- The entries that a mapping takes over, merge key by merge key. -/
def takenOver : (fuel : Nat) → Nat → Changing (List (Nat × Nat))
  | 0, _ => return []
  | fuel + 1, k => do
    match ← takeMerge? k with
    | none => return []
    | some source =>
      let taken ← match (← get).node source with
        | .mapping .. => flatten fuel source
        | .list _ items => do
          let parts ← items.mapM fun i => do
            match (← get).node i with
            | .mapping .. => flatten fuel i
            | _ => throw .badConstruction
          pure parts.reverse.flatten
        | .text .. => throw .badConstruction
      return taken ++ (← takenOver fuel k)

/-- **The entries of a mapping** with all that it takes over. Two steps for each merge key
are enough. -/
def flatten : (fuel : Nat) → Nat → Changing (List (Nat × Nat))
  | 0, _ => return []
  | fuel + 1, k => do
    let taken ← takenOver fuel k
    modify (settle k taken)
    return (← get).entriesOf k

end

/-! ### Content -/

/-- **The text that a node is**, or that stands for all of a mapping. -/
def contentText? (nodes : Nodes) : (fuel : Nat) → Nat → Option String
  | 0, _ => none
  | fuel + 1, k =>
    match nodes.node k with
    | .text _ text => some text
    | .list .. => none
    | .mapping _ entries =>
      match entries.find? fun (key, _) => nodes.tagOf key == .content with
      | some (_, value) => nodes.contentText? fuel value
      | none => none

end Nodes

end Linkage.Yaml
