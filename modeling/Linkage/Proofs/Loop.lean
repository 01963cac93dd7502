import Mathlib.Order.Basic

/-!
# Loops

A loop goes on for as long as something is left to be done. At every *turn* one thing is taken
from what is left, and more may be put there. How that goes is a relation: `turn s x s'` says that
in the state `s` a turn may take `x` and leave the state `s'`. A *run* (`Linkage.Loop.Run`) is any
number of turns, one after the other, and is told by what they take. It may stop before the loop
does, so what holds of all runs holds at any time.

What one turn does decides what runs do:

* `Linkage.Loop.Run.keeps`, `Linkage.Loop.Run.unchanged` – what every turn keeps is kept by a run,
  and what no turn changes is the same after it;
* `Linkage.Loop.Run.length_add` – where every turn takes one from some measure, the turns of a run
  and what is left of the measure add up.

The last says that a loop ends, and after how many turns.
-/

namespace Linkage.Loop

variable {σ β : Type} {turn : σ → β → σ → Prop} {s t : σ} {xs : List β}

/-- **A run of a loop**: turns one after the other, with what they take, the first in front. -/
inductive Run (turn : σ → β → σ → Prop) : σ → List β → σ → Prop
  | stay (s : σ) : Run turn s [] s
  | go {s s' t : σ} {x : β} {xs : List β} (hturn : turn s x s') (hrest : Run turn s' xs t) :
    Run turn s (x :: xs) t

namespace Run

/-- **What every turn keeps** is kept by a run. -/
theorem keeps {P : σ → Prop} (h : Run turn s xs t) (hturn : ∀ s x s', turn s x s' → P s → P s')
    (hs : P s) : P t := by
  induction h with
  | stay s => exact hs
  | go hfirst _ ih => exact ih (hturn _ _ _ hfirst hs)

/-- **What no turn changes** is the same after a run. -/
theorem unchanged {γ : Type} {f : σ → γ} (h : Run turn s xs t)
    (hturn : ∀ s x s', turn s x s' → f s' = f s) : f t = f s :=
  h.keeps (P := fun t => f t = f s) (fun _ _ _ hnext hs => (hturn _ _ _ hnext).trans hs) rfl

/-- **Every turn takes one** from the measure. -/
theorem length_add {size : σ → Nat} (h : Run turn s xs t)
    (hturn : ∀ s x s', turn s x s' → size s' + 1 = size s) : xs.length + size t = size s := by
  induction h with
  | stay s => exact Nat.zero_add _
  | go hfirst _ ih =>
    have hone := hturn _ _ _ hfirst
    rw [List.length_cons]
    omega

end Run

end Linkage.Loop
