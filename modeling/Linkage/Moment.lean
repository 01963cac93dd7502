/-!
# Dates and moments

A moment is what a calendar and a clock show together, with the distance from the
meridian if that is known. Two moments can show different hours and be the same point in
time, because the distances differ; a moment without a distance is never the same as one
with it.

## Main definitions

* `Linkage.Moment`, and `Linkage.Moment.fault?`: the first part that no moment has.
* `Linkage.Moment.same`: whether two moments are one.
* `Linkage.calendarText`, `Linkage.Moment.clockText`: dates and moments as they are read
  aloud, and `Linkage.Moment.shown`, a moment part by part.
-/

namespace Linkage

/-- **A point in time** as a calendar and a clock show it, with its distance from the
meridian in seconds if one is given. -/
structure Moment where
  year : Nat
  month : Nat
  day : Nat
  hour : Nat
  minute : Nat
  second : Nat
  microsecond : Nat
  offset : Option Int
  deriving Repr, DecidableEq, Inhabited

/-- The parts of a moment that can be out of range. -/
inductive Moment.Part where
  | year (n : Nat)
  | month
  | day
  | hour
  | minute
  | second
  | offset (seconds : Int)
  deriving Repr, DecidableEq, Inhabited

/-! ### The calendar -/

/-- Whether February has a leap day. -/
def isLeap (year : Nat) : Bool := year % 4 == 0 && (year % 100 != 0 || year % 400 == 0)

/-- How many days a month has. -/
def monthLength (year month : Nat) : Nat :=
  if month == 2 then (if isLeap year then 29 else 28)
  else if month == 4 || month == 6 || month == 9 || month == 11 then 30
  else 31

/-- The first part of a date that is out of range. -/
def dateFault? (year month day : Nat) : Option Moment.Part :=
  if year == 0 then some (.year year)
  else if month == 0 || 12 < month then some .month
  else if day == 0 || monthLength year month < day then some .day
  else none

/-- The number of a day, counted from the first of the first year. -/
def dayNumber (year month day : Nat) : Nat :=
  let years := year - 1
  let months := (List.range (month - 1)).map fun m => monthLength year (m + 1)
  365 * years + years / 4 - years / 100 + years / 400 + months.foldl (· + ·) 0 + (day - 1)

namespace Moment

/-! ### Moments that exist, and when two are one -/

/-- The first part of a clock's time that is out of range. -/
def clockFault? (m : Moment) : Option Part :=
  if 23 < m.hour then some .hour
  else if 59 < m.minute then some .minute
  else if 59 < m.second then some .second
  else none

/-- A distance from the meridian that is a day or more. -/
def offsetFault? (m : Moment) : Option Part :=
  m.offset.bind fun s => if 86400 ≤ s.natAbs then some (.offset s) else none

/-- **The first part that no moment has.** -/
def fault? (m : Moment) : Option Part :=
  m.offsetFault?.or ((dateFault? m.year m.month m.day).or m.clockFault?)

/-- The microseconds since the beginning of the first year, as the clock shows them. -/
def onClock (m : Moment) : Nat :=
  let seconds := 86400 * dayNumber m.year m.month m.day + 3600 * m.hour + 60 * m.minute + m.second
  1000000 * seconds + m.microsecond

/-- The microseconds since the beginning of the first year at the meridian. -/
def atMeridian? (m : Moment) : Option Int :=
  m.offset.map fun s => m.onClock - 1000000 * s

/-- **Whether two moments are one**: the clocks agree, once both are at the meridian. -/
def same (m n : Moment) : Bool :=
  match m.atMeridian?, n.atMeridian? with
  | some s, some t => s == t
  | none, none => m == n
  | _, _ => false

/-- Moments that are one are so in either order. -/
theorem same_comm (m n : Moment) : m.same n = n.same m := by
  unfold same
  cases m.atMeridian? <;> cases n.atMeridian? <;> simp [BEq.comm]

end Moment

/-! ### Dates and moments in words -/

/-- A number with at least two digits. -/
def twoDigits (n : Nat) : String :=
  if n < 10 then "0" ++ toString n else toString n

/-- A number with at least `width` digits. -/
def padded (width n : Nat) : String :=
  let digits := Nat.toDigits 10 n
  String.ofList (List.replicate (width - digits.length) '0' ++ digits)

/-- A date as a calendar writes it. -/
def calendarText (year month day : Nat) : String :=
  padded 4 year ++ "-" ++ twoDigits month ++ "-" ++ twoDigits day

/-- A duration as its days and seconds. -/
def durationText (seconds : Int) : String :=
  let days := Int.fdiv seconds 86400
  let rest := Int.fmod seconds 86400
  let parts := (if days = 0 then [] else ["days=" ++ toString days])
    ++ (if rest = 0 then [] else ["seconds=" ++ toString rest])
  "datetime.timedelta(" ++ ", ".intercalate parts ++ ")"

namespace Moment

/-- A distance from the meridian. -/
def offsetText (seconds : Int) : String :=
  if seconds = 0 then "datetime.timezone.utc"
  else "datetime.timezone(" ++ durationText seconds ++ ")"

/-- **A moment part by part**, the seconds and what is smaller only as far as they are
needed. -/
def shown (m : Moment) : String :=
  let small := if m.microsecond ≠ 0 then [m.second, m.microsecond]
    else if m.second ≠ 0 then [m.second] else []
  let parts := ([m.year, m.month, m.day, m.hour, m.minute] ++ small).map toString
  let zone := match m.offset with
    | none => []
    | some s => ["tzinfo=" ++ offsetText s]
  "datetime.datetime(" ++ ", ".intercalate (parts ++ zone) ++ ")"

/-- **A moment as a calendar and a clock write it.** -/
def clockText (m : Moment) : String :=
  let zone := match m.offset with
    | none => ""
    | some s =>
      let a := s.natAbs
      (if s < 0 then "-" else "+") ++ twoDigits (a / 3600) ++ ":" ++ twoDigits (a / 60 % 60)
        ++ (if a % 60 = 0 then "" else ":" ++ twoDigits (a % 60))
  calendarText m.year m.month m.day ++ " " ++ twoDigits m.hour ++ ":" ++ twoDigits m.minute
    ++ ":" ++ twoDigits m.second
    ++ (if m.microsecond = 0 then "" else "." ++ padded 6 m.microsecond) ++ zone

end Moment

end Linkage
