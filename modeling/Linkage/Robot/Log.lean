import Linkage.Constraint

/-!
# What the making of a robot leaves behind

While a robot is made, a line is written for every input that is handed out, for every
chain, and one at the end.
-/

namespace Linkage

/-- **A line of the record.** -/
inductive LogLine where
  /-- A joint got an entry of the input vector. -/
  | assigned (joint : String) (input : Int)
  /-- A chain is done; so many joints lie on it. -/
  | compiled (chain : ChainKey) (joints : Nat)
  /-- A chain was asked for before. -/
  | repeated (chain : ChainKey)
  /-- The robot is done. -/
  | finished (robot : String) (chains joints : Nat)
  deriving Repr, DecidableEq, Inhabited

namespace LogLine

/-- Whether a line is of interest only when something is looked for. -/
def isDetail : LogLine → Bool
  | assigned .. | repeated _ => true
  | compiled .. | finished .. => false

/-- A chain in a line. -/
def chainText (chain : ChainKey) : String :=
  "('" ++ chain.1 ++ "', '" ++ chain.2 ++ "')"

/-- **The text of a line.** -/
def text : LogLine → String
  | assigned j i => "Joint '" ++ j ++ "' assigned input " ++ toString i
  | compiled c n => "Compiled chain " ++ chainText c ++ " with " ++ toString n ++ " joints"
  | repeated c => "Chain " ++ chainText c ++ " already compiled"
  | finished r c j => "Robot '" ++ r ++ "' compiled " ++ toString c ++ " chains with "
      ++ toString j ++ " moveable joints"

/-- A line with its weight in front. -/
def shown (l : LogLine) : String := (if l.isDetail then "DEBUG " else "INFO ") ++ l.text

end LogLine

end Linkage
