import Linkage.Value

/-!
# The order of a set

The members of a set stand in a row of places, and are gone through place by place. A
number has a *mark*, by which it is given its place: two numbers that count the same have
the same mark. A member whose place is taken goes on to others, which its mark decides as
well. Only numbers have marks; a set with a member of another kind, or with one that is
not a number, keeps the order in which it was written.

## Main definitions

* `Linkage.Yaml.mark?`: the mark of a number.
* `Linkage.Yaml.placeCount`: how many places a set has.
* `Linkage.Yaml.inPlaces`: the members of a set in their order.
-/

namespace Linkage.Yaml

/-- The marks of whole numbers are remainders by this prime. -/
def markModulus : Nat := 0x1fffffffffffffff

/-- The mark that a remainder is, with the sign of its number. The mark `-1` is in no use. -/
def signedMark (isNegative : Bool) (remainder : Nat) : Int :=
  if isNegative then (if remainder = 1 then -2 else -remainder) else remainder

/-- The remainder of a number times a power of two. As sixty-one doublings change no
remainder, halves are doublings too. -/
def dyadicRemainder (m : Nat) (e : Int) : Nat :=
  m * Nat.pow 2 (e % 61).toNat % markModulus

/-- **The mark of a number.** -/
def mark? (v : Value) : Option Int :=
  match v.number? with
  | none => none
  | some (.int n) => some (signedMark (n < 0) (n.natAbs % markModulus))
  | some (.real x) =>
    match x.toModel.unpack with
    | .notANumber => none
    | .infinity .positive => some 314159
    | .infinity .negative => some (-314159)
    | .zero _ => some 0
    | .finite .positive m e _ => some (signedMark false (dyadicRemainder m e))
    | .finite .negative m e _ => some (signedMark true (dyadicRemainder m e))

/-- The least power of two beyond a number, from a given one on. -/
def doubledBeyond (n : Nat) : (fuel : Nat) → Nat → Nat
  | 0, size => size
  | fuel + 1, size => if n < size then size else doubledBeyond n fuel (2 * size)

/-- **How many places a set has**: eight for up to four members, and for more of them the
least power of two beyond their double. -/
def placeCount (members : Nat) : Nat :=
  if members ≤ 4 then 8 else doubledBeyond (2 * members) members 8

/-- The free place of the first ten from a place on, if those are all in the row; else the
place itself, if it is free. -/
def freeNear? (places : Array (Option Value)) (i : Nat) : Option Nat :=
  let reach := if i + 9 < places.size then 10 else 1
  ((List.range reach).map (i + ·)).find? fun k => (places.getD k none).isNone

/-- The place for a mark, looked for from place `i` on. With every step `rest`, which is
what is left of the mark, loses five bits; after the last of them every place is met. -/
def freePlace (places : Array (Option Value)) : (fuel : Nat) → (rest i : Nat) → Nat
  | 0, _, i => i
  | fuel + 1, rest, i =>
    match freeNear? places i with
    | some k => k
    | none =>
      let rest := rest / 32
      freePlace places fuel rest ((5 * i + 1 + rest) % places.size)

/-- **The members of a set in their order.** -/
def inPlaces (members : List Value) : List Value :=
  match members.mapM mark? with
  | none => members
  | some marks =>
    let size := placeCount members.length
    let places := (members.zip marks).foldl (fun places (v, mark) =>
        let word := (mark % 0x10000000000000000).toNat
        places.setIfInBounds (freePlace places (size + 14) word (word % size)) (some v))
      (Array.replicate size none)
    places.toList.filterMap id

end Linkage.Yaml
