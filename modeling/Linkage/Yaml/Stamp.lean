import Linkage.Fault

/-!
# Dates and times of a document

A date is a year, a month and a day. A time may follow, and after that the distance
from the meridian. The year has four digits, minutes and seconds have two; the others
may have one, but in a plain text the month and the day of a date alone have two.

What is written need not exist: there is no thirtieth of February. So the form of a text
and the parts in it come first, and whether they make up a date or a moment second.

## Main definitions

* `Linkage.Yaml.Stamp`, `Linkage.Yaml.stamp?`: what a text writes.
* `Linkage.Yaml.Stamp.value`: the date or the moment, if there is one.
-/

namespace Linkage.Yaml

/-- **A date, or a date and a time**, as they are written. -/
inductive Stamp where
  | date (year month day : Nat)
  | moment (m : Moment)
  deriving Repr, Inhabited

/-! ### Reading -/

/-- The number that begins here, with at least and at most so many digits; and what
follows. -/
def digits? (least most : Nat) (cs : List Char) : Option (Nat × List Char) :=
  let ds := (cs.take most).takeWhile Char.isDigit
  if ds.length < least then none
  else some (ds.foldl (fun n d => 10 * n + (d.toNat - 48)) 0, cs.drop ds.length)

/-- What follows a sign. -/
def after? (sign : Char) : List Char → Option (List Char)
  | [] => none
  | c :: cs => if c == sign then some cs else none

/-- A space or a tabulator. -/
def isGap (c : Char) : Bool := c == ' ' || c == '\t'

/-- What follows the mark between a date and a time. -/
def afterDate? : List Char → Option (List Char)
  | [] => none
  | c :: cs =>
    if c == 'T' || c == 't' then some cs
    else if isGap c then some (cs.dropWhile isGap)
    else none

/-- The distance from the meridian in seconds, if what is left is one or nothing. -/
def zone? (cs : List Char) : Option (Option Int) :=
  if cs.isEmpty then some none
  else
    match cs.dropWhile isGap with
    | ['Z'] => some (some 0)
    | sign :: cs => do
      if sign != '+' && sign != '-' then none
      let (hours, cs) ← digits? 1 2 cs
      let (minutes, cs) ← match cs with
        | ':' :: cs => digits? 2 2 cs
        | cs => some (0, cs)
      let seconds : Int := 3600 * hours + 60 * minutes
      if cs.isEmpty then some (some (if sign == '-' then -seconds else seconds)) else none
    | [] => none

/-- The millionths that the digits after a point stand for, as far as they go. -/
def millionths (ds : List Char) : Nat :=
  (ds.take 6 ++ List.replicate (6 - ds.length) '0').foldl (fun n d => 10 * n + (d.toNat - 48)) 0

/-- The millionths of a second, and what follows. -/
def fraction : List Char → Nat × List Char
  | '.' :: cs => (millionths (cs.takeWhile Char.isDigit), cs.dropWhile Char.isDigit)
  | cs => (0, cs)

/-- **What a text writes**, if it has the form of a date or of a moment. -/
def stamp? (cs : List Char) : Option Stamp := do
  let (year, cs) ← digits? 4 4 cs
  let (month, cs) ← digits? 1 2 (← after? '-' cs)
  let (day, cs) ← digits? 1 2 (← after? '-' cs)
  if cs.isEmpty then return .date year month day
  else
    let (hour, cs) ← digits? 1 2 (← afterDate? cs)
    let (minute, cs) ← digits? 2 2 (← after? ':' cs)
    let (second, cs) ← digits? 2 2 (← after? ':' cs)
    let (microsecond, cs) := fraction cs
    let offset ← zone? cs
    return .moment ⟨year, month, day, hour, minute, second, microsecond, offset⟩

/-- The form of a date or a moment in a plain text. -/
def isStamp (cs : List Char) : Bool :=
  match stamp? cs with
  | some (.date ..) => cs.length == 10
  | some (.moment _) => true
  | none => false

/-- **The date or the moment** that is written, if it exists. -/
def Stamp.value (s : Stamp) : Except (Fault Float) Value :=
  let (fault?, value) := match s with
    | .date y m d => (dateFault? y m d, Value.date y m d)
    | .moment m => (m.fault?, Value.moment m)
  match fault? with
  | some p => .error (.noMoment p)
  | none => .ok value

end Linkage.Yaml
