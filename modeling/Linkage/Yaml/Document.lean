import Linkage.Yaml.Contents
import Linkage.Yaml.SetOrder

/-!
# The value of a document

The collections of a document are found by number, and may hold themselves. A value is
written from them: a collection that holds itself, at whatever distance, becomes a knot
labelled with its number, and in it a loop stands where it comes again.

## Main definitions

* `Linkage.Yaml.tiedIn`: the value that a part of the document is.
* `Linkage.Yaml.read`: the value of a document. An empty one is nothing.
-/

namespace Linkage.Yaml

/-! ### Tying knots -/

/-- The brackets that a collection is written in. -/
def Contents.brackets : Contents → Brackets
  | .list _ => .square
  | .pair .. => .round
  | .mapping _ | .set _ => .curly

/-- A value, and the numbers of the collections around it that it comes back to. -/
abbrev Tied := Value × List Nat

/-- The values of the collections that do not hold themselves, as far as they are known.
Such a value is the same wherever the collection stands. -/
abbrev Tying := StateM (Array (Option Value))

/-- The values of some parts together, as one value. -/
def Tied.join (make : List Value → Value) (parts : List Tied) : Tied :=
  (make (parts.map Prod.fst), (parts.map Prod.snd).flatten.eraseDups)

/-- The value that a collection is, `tie` being what comes of a part of it. -/
def Contents.tied (tie : Part → Tying Tied) : Contents → Tying Tied
  | .list items => return .join .list (← items.mapM tie)
  | .pair first second => do
    let (a, cs) ← tie first
    let (b, ds) ← tie second
    return (.pair a b, (cs ++ ds).eraseDups)
  | .mapping entries => do
    let values ← entries.mapM fun (_, p) => tie p
    let keys := entries.map fun (a, _) => a.value
    return .join (fun vs => .mapping (keys.zip vs)) values
  | .set members => return (.set (inPlaces (members.map Atom.value)), [])

/-- **The value that a part is**, inside the collections with the numbers `around`, which
are so many fewer than all as `fuel` says. -/
def tiedIn (collections : Array Contents) : (fuel : Nat) → (around : List Nat) → Part → Tying Tied
  | _, _, .atom a => return (a.value, [])
  | 0, _, .whole _ => return (.null, [])
  | fuel + 1, around, .whole c => do
    let contents := collections.getD c (.list [])
    if around.contains c then return (.loop c contents.brackets, [c])
    else
      match (← get).getD c none with
      | some v => return (v, [])
      | none =>
        let (v, backs) ← contents.tied (tiedIn collections fuel (c :: around))
        if backs.isEmpty then
          modify fun known => known.setIfInBounds c (some v)
          return (v, [])
        else return (.knot c v, backs.erase c)

/-! ### Documents -/

/-- The characters of a document, every line end in the one form. -/
def lines : List Char → List Char
  | [] => []
  | '\r' :: '\n' :: cs => '\n' :: lines cs
  | c :: cs => (if c == '\r' then '\n' else c) :: lines cs

/-- **The value of a document.** -/
def read (document : String) : Except (Fault Float) Value := do
  match ← Graph.ofText? (lines document.toList) with
  | none => return .null
  | some g =>
    let (p, collections) ← g.contents
    let n := collections.size
    return ((tiedIn collections (n + 1) [] p).run (Array.replicate n none)).1.1

end Linkage.Yaml
