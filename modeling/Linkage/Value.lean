import Linkage.Decimal.Layout
import Linkage.Moment
import Linkage.Scalar
import Linkage.Text.Quoted

/-!
# Values of a configuration

A configuration arrives as a value of no particular shape: what stands under a key may
be a number, a text, a list or anything else that a document can hold, and finding out
is the reader's work (`Linkage.Config`). This module holds those values, what can be
asked of one without knowing its shape, and how messages write it.

A document can put a collection inside itself. Such a value has no end, and is written
down as a *knot*: a collection with a label, in which a loop with the label stands for
the collection itself. Whoever takes a member out of a knot gets that member with the
knot tied anew, so that nobody meets a loop whose knot is elsewhere.

## Main definitions

* `Linkage.Value`: the values.
* `Linkage.Value.untied`: the collection that a knot is, each member a value of its own.
* `Linkage.Value.isVoid`: the values that count as absent – nothing, no, zero, and
  everything empty.
* `Linkage.Value.items?`, `Linkage.Value.length?`: what the value holds, if it is of a
  kind that holds something.
* `Linkage.Value.shown`, `Linkage.Value.plain`: the value inside and outside another;
  `Linkage.Value.isWritable`: whether it can be written at all.
* `Linkage.Value.sameKey`: when two keys of a mapping are one. Numbers are compared by
  what they count, so `1`, `1.0` and *true* are the same key.
-/

namespace Linkage

/-- The kinds of collections that can hold themselves. -/
inductive Brackets where
  | square
  | round
  | curly
  deriving Repr, DecidableEq, Inhabited

/-- **A value of any shape.** A mapping keeps the order in which it was written. In a `knot`
that goes by a label, a `loop` with the label stands for the knot. -/
inductive Value where
  | null
  | bool (b : Bool)
  | int (n : Int)
  | float (x : Float)
  | text (s : String)
  | bytes (bs : List UInt8)
  | date (year month day : Nat)
  | moment (m : Moment)
  | list (xs : List Value)
  | pair (first second : Value)
  | mapping (entries : List (Value × Value))
  | set (members : List Value)
  | knot (label : Nat) (collection : Value)
  | loop (label : Nat) (brackets : Brackets)
  deriving Inhabited

namespace Value

/-! ### Knots -/

/-- The brackets that a collection is written in. -/
def brackets : Value → Brackets
  | list _ => .square
  | pair .. => .round
  | knot _ v => v.brackets
  | loop _ b => b
  | _ => .curly

mutual

/-- A value less the knots that go by one of some labels: each becomes a loop. -/
def cut (labels : List Nat) : Value → Value
  | knot l v => if labels.contains l then loop l v.brackets else knot l (cut labels v)
  | list xs => list (cutAll labels xs)
  | pair a b => pair (cut labels a) (cut labels b)
  | mapping entries => mapping (cutEntries labels entries)
  | v => v

/-- The values of a list, each cut. -/
def cutAll (labels : List Nat) : List Value → List Value
  | [] => []
  | v :: vs => cut labels v :: cutAll labels vs

/-- The entries of a mapping, each value cut. -/
def cutEntries (labels : List Nat) : List (Value × Value) → List (Value × Value)
  | [] => []
  | (k, v) :: rest => (k, cut labels v) :: cutEntries labels rest

end

mutual

/-- **Ties a knot anew** in a part of it: the loops with its label become the knot, less
the knots around them, which `around` lists. -/
def tie (label : Nat) (whole : Value) (around : List Nat) : Value → Value
  | loop l b => if l == label then cut around whole else loop l b
  | knot l v => knot l (tie label whole (l :: around) v)
  | list xs => list (tieAll label whole around xs)
  | pair a b => pair (tie label whole around a) (tie label whole around b)
  | mapping entries => mapping (tieEntries label whole around entries)
  | v => v

/-- The values of a list, the knot tied in each. -/
def tieAll (label : Nat) (whole : Value) (around : List Nat) : List Value → List Value
  | [] => []
  | v :: vs => tie label whole around v :: tieAll label whole around vs

/-- The entries of a mapping, the knot tied in each value. -/
def tieEntries (label : Nat) (whole : Value) (around : List Nat) :
    List (Value × Value) → List (Value × Value)
  | [] => []
  | (k, v) :: rest => (k, tie label whole around v) :: tieEntries label whole around rest

end

/-- **The collection that a knot is**, with the knot tied anew in every member. Any other
value is what it is. -/
def untied : Value → Value
  | knot l v => tie l (knot l v) [] v
  | v => v

/-! ### Questions that any value answers -/

/-- **The values that count as absent.** -/
def isVoid : Value → Bool
  | null => true
  | bool b => !b
  | int n => n == 0
  | float x => x == 0
  | text s => s.isEmpty
  | bytes bs => bs.isEmpty
  | list xs => xs.isEmpty
  | mapping entries => entries.isEmpty
  | set members => members.isEmpty
  | knot _ v => v.isVoid
  | date .. | moment _ | pair .. | loop .. => false

/-- A value that is not absent. -/
def present? : Option Value → Option Value
  | some v => if v.isVoid then none else some v
  | none => none

/-- **What a value holds**, if it can be gone through: a text its characters, a mapping
its keys. -/
def items? (v : Value) : Option (List Value) :=
  match v.untied with
  | text s => some (s.toList.map fun c => text c.toString)
  | bytes bs => some (bs.map fun b => int b.toNat)
  | list xs => some xs
  | pair a b => some [a, b]
  | mapping entries => some (entries.map Prod.fst)
  | set members => some members
  | null | bool _ | int _ | float _ | date .. | moment _ | knot .. | loop .. => none

/-- How many items a value holds, if it can be counted. -/
def length? (v : Value) : Option Nat :=
  v.items?.map List.length

/-- The text that a value is, if it is one. -/
def text? : Value → Option String
  | text s => some s
  | _ => none

/-- The entries of a mapping. -/
def entries? (v : Value) : Option (List (Value × Value)) :=
  match v.untied with
  | mapping entries => some entries
  | _ => none

/-- The kind of a value, as messages call it. -/
def kindName : Value → String
  | null => "NoneType"
  | bool _ => "bool"
  | int _ => "int"
  | float _ => "float"
  | text _ => "str"
  | bytes _ => "bytes"
  | date .. => "date"
  | moment _ => "datetime"
  | list _ | loop _ .square => "list"
  | pair .. | loop _ .round => "tuple"
  | mapping _ | loop _ .curly => "dict"
  | set _ => "set"
  | knot _ v => v.kindName

/-- The kind of a value with the family it belongs to in front, for the two kinds that
have one. -/
def longKindName : Value → String
  | date .. => "datetime.date"
  | moment _ => "datetime.datetime"
  | v => v.kindName

/-! ### Keys of a mapping -/

/-- The number that a value counts as, *true* being one and *false* zero. -/
def number? : Value → Option (Number Float)
  | bool b => some (.int b.toNat)
  | int n => some (.int n)
  | float x => some (.real x)
  | _ => none

/-- **Whether two keys are one key.** Numbers are compared by what they count. -/
def sameKey (k l : Value) : Bool :=
  match k.number?, l.number? with
  | some m, some n => m.le n && n.le m
  | none, none =>
    match k, l with
    | null, null => true
    | text s, text t => s == t
    | bytes bs, bytes cs => bs == cs
    | date y m d, date y' m' d' => y == y' && m == m' && d == d'
    | moment m, moment n => m.same n
    | _, _ => false
  | _, _ => false

/-- What stands under a key that is a text. -/
def under? (key : String) : List (Value × Value) → Option Value
  | [] => none
  | (text k, v) :: rest => if k == key then some v else under? key rest
  | _ :: rest => under? key rest

/-! ### Values in messages -/

/-- One byte between quotes. -/
def byteText (quote : Char) (b : UInt8) : String :=
  let c := Char.ofNat b.toNat
  if c == quote || c == '\\' then String.ofList ['\\', c]
  else if c == '\n' then "\\n"
  else if c == '\t' then "\\t"
  else if c == '\r' then "\\r"
  else if 0x20 ≤ c.toNat && c.toNat < 0x7f then c.toString
  else "\\x" ++ Text.hex 2 b.toNat

/-- Bytes as messages write them. -/
def bytesText (bs : List UInt8) : String :=
  let quote := if bs.contains 0x27 && !bs.contains 0x22 then '"' else '\x27'
  "b" ++ quote.toString ++ String.join (bs.map (byteText quote)) ++ quote.toString

mutual

/-- **A value inside a message**: texts quoted, lists in square and mappings in curly
brackets. -/
def shown : Value → String
  | null => "None"
  | bool b => if b then "True" else "False"
  | int n => toString n
  | float x => Decimal.shown x
  | text s => Text.quoted s
  | bytes bs => bytesText bs
  | date y m d =>
    "datetime.date(" ++ toString y ++ ", " ++ toString m ++ ", " ++ toString d ++ ")"
  | moment m => m.shown
  | list xs => "[" ++ ", ".intercalate (shownAll xs) ++ "]"
  | pair a b => "(" ++ shown a ++ ", " ++ shown b ++ ")"
  | mapping entries => "\x7b" ++ ", ".intercalate (shownEntries entries) ++ "\x7d"
  | set [] => "set()"
  | set (m :: ms) => "\x7b" ++ ", ".intercalate (shown m :: shownAll ms) ++ "\x7d"
  | knot _ v => shown v
  | loop _ .square => "[...]"
  | loop _ .round => "(...)"
  | loop _ .curly => "\x7b...\x7d"

/-- The values of a list, each as `shown` has it. -/
def shownAll : List Value → List String
  | [] => []
  | v :: vs => shown v :: shownAll vs

/-- The entries of a mapping, each a key, a colon and a value. -/
def shownEntries : List (Value × Value) → List String
  | [] => []
  | (k, v) :: rest => (shown k ++ ": " ++ shown v) :: shownEntries rest

end

/-- **A value on its own**: a text as it stands, a date as a calendar writes it, and all
else as inside a message. -/
def plain : Value → String
  | text s => s
  | date y m d => calendarText y m d
  | moment m => m.clockText
  | v => v.shown

/-! ### Values that cannot be written -/

/-- How many digits an integer may have to be written. -/
def digitLimit : Nat := 4300

/-- The least number with more digits than that. -/
def digitBound : Nat := Nat.pow 10 digitLimit

mutual

/-- **Whether a value can be written**: no integer in it has too many digits. -/
def isWritable : Value → Bool
  | int n => n.natAbs < digitBound
  | list xs => areWritable xs
  | pair a b => isWritable a && isWritable b
  | mapping entries => areWritableEntries entries
  | set members => areWritable members
  | knot _ v => isWritable v
  | _ => true

/-- Whether all values of a list can be written. -/
def areWritable : List Value → Bool
  | [] => true
  | v :: vs => isWritable v && areWritable vs

/-- Whether all keys and values of a mapping can be written. -/
def areWritableEntries : List (Value × Value) → Bool
  | [] => true
  | (k, v) :: rest => isWritable k && isWritable v && areWritableEntries rest

end

end Value

end Linkage
