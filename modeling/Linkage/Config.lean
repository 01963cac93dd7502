import Linkage.Constraint

/-!
# Configurations

A configuration names the chains a robot is asked for, and weights and velocities by
joint. It is read from a value of any shape (`Linkage.Value`), section by section: the
root link, the tip links, the chains given as pairs, the weights, the thresholds. A
section that counts as absent is absent, and the first thing that is wrong is reported.

## Main definitions

* `Linkage.ChainRequest`: a chain as it is asked for.
* `Linkage.Config`, and `Linkage.Config.ofValue`, which reads one.
-/

namespace Linkage

/-! ### Chains as they are asked for -/

/-- **A chain as it is asked for**: by its tip alone, whose root is the robot's, by both
of its ends, or by something that names no chain. -/
inductive ChainRequest where
  | tip (link : String)
  | ends (root tip : String)
  | malformed (given : Value)
  deriving Inhabited

namespace ChainRequest

/-- The chain that a value asks for: a text is a tip, and two texts are a root and a
tip. -/
def ofValue : Value → ChainRequest
  | .text link => tip link
  | .list [.text first, .text second] => ends first second
  | .pair (.text first) (.text second) => ends first second
  | v => malformed v

/-- **The root and the tip of the chain** that is asked for. -/
def key {α : Type} (root : String) : ChainRequest → Except (Fault α) ChainKey
  | tip link => .ok (root, link)
  | ends first second => .ok (first, second)
  | malformed v => .error (.malformedRequest v)

/-- The chains that a value asks for, item by item. -/
def listOfValue {α : Type} (v : Value) : Except (Fault α) (List ChainRequest) :=
  match v.items? with
  | some items => .ok (items.map ofValue)
  | none => .error (.notIterable v)

end ChainRequest

/-! ### Configurations -/

/-- **What a robot is asked to be.** -/
structure Config where
  root : String
  chains : List ChainRequest
  weights : List (String × Float)
  thresholds : List (String × Float)
  deriving Inhabited

namespace Config

/-- Failures of reading a configuration. -/
abbrev Read (β : Type) := Except (Fault Float) β

/-- The items of a section, none if it is absent. -/
def items : Option Value → Read (List Value)
  | none => .ok []
  | some v =>
    match v.items? with
    | some items => .ok items
    | none => .error (.notIterable v)

/-- A failure that shows some values. If one of them cannot be written, that is the
failure. -/
def refuse {β : Type} (f : Fault Float) (shown : List Value) : Read β :=
  .error (if Value.areWritable shown then f else .tooManyDigits none)

/-- **The chains of the tip section**, each a text. -/
def readTips : List Value → Read (List ChainRequest)
  | [] => .ok []
  | .text link :: rest => return .tip link :: (← readTips rest)
  | v :: _ => refuse (.malformedTip v) [v]

/-- **A chain of the other section**: two texts in a list. A text is never taken apart,
and what cannot be counted, or not be asked for its first member, fails as such. -/
def readPair (v : Value) : Read ChainRequest :=
  match v with
  | .text _ => refuse (.malformedPair v) [v]
  | _ =>
    match v.items? with
    | none => .error (.notCountable v)
    | some [.text root, .text tip] =>
      match v.untied with
      | .mapping _ => .error (.noIndex 0)
      | .set _ => .error (.notIndexable v)
      | _ => .ok (.ends root tip)
    | some _ => refuse (.malformedPair v) [v]

/-- The chains of the other section, in order. -/
def readPairs : List Value → Read (List ChainRequest)
  | [] => .ok []
  | v :: rest => return (← readPair v) :: (← readPairs rest)

/-- **The number under a key** of the named section: an integer or a binary64 number, and
no truth value. -/
def readNumber (part : String) (key value : Value) : Read Float :=
  match value with
  | .int n =>
    match Scalar.ofInt? n with
    | some x => .ok x
    | none => .error .tooLarge
  | .float x => .ok x
  | v => refuse (.malformedEntry key.plain part v) [key, v]

/-- What a value looks like, if it can be written. -/
def readPlain (v : Value) : Read String :=
  if v.isWritable then .ok v.plain else .error (.tooManyDigits none)

/-- A list of settings with one more: the later of two under one name counts, in the
place of the earlier. -/
def set (name : String) (x : Float) : List (String × Float) → List (String × Float)
  | [] => [(name, x)]
  | (n, y) :: rest => if n == name then (n, x) :: rest else (n, y) :: set name x rest

/-- The numbers of a section, added to those already read. A key that is no text goes by
what it looks like. -/
def readNumbers (part : String) (found : List (String × Float)) :
    List (Value × Value) → Read (List (String × Float))
  | [] => .ok found
  | (key, value) :: rest => do
    let x ← readNumber part key value
    readNumbers part (set (← readPlain key) x found) rest

/-- **The settings of a section**, which must be a mapping. -/
def readSection (part : String) : Option Value → Read (List (String × Float))
  | none => .ok []
  | some v =>
    match v.entries? with
    | none => .error (.malformedSection part)
    | some entries => readNumbers part [] entries

/-- **Reads a configuration.** -/
def ofValue (v : Value) : Read Config :=
  match v.entries? with
  | none => .error (.notMapping v)
  | some entries =>
    let part (name : String) := Value.present? (Value.under? name entries)
    match part "root_link" with
    | none => .error .noRootLink
    | some root => do
      let tips ← readTips (← items (part "tip_links"))
      let pairs ← readPairs (← items (part "chains"))
      let root ← readPlain root
      let weights ← readSection "weights" (part "weights")
      let thresholds ← readSection "thresholds" (part "thresholds")
      return { root, chains := tips ++ pairs, weights, thresholds }

/-- Settings as the constraints of a joint look them up. -/
def settings (xs : List (String × Float)) : Settings Float :=
  xs.map fun (name, x) => (name, .real x)

/-- What was just set is found under its name. -/
theorem lookup_set_self (name : String) (x : Float) (xs : List (String × Float)) :
    (set name x xs).lookup name = some x := by
  induction xs with
  | nil => simp [set]
  | cons e rest ih =>
    obtain ⟨n, y⟩ := e
    unfold set
    by_cases h : n == name
    · simp_all
    · have : (name == n) = false := by
        simp only [beq_iff_eq] at h
        simpa using fun hc : name = n => h hc.symm
      simp [h, List.lookup_cons, this, ih]

end Config

end Linkage
