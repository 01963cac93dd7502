import Linkage.Proofs.Alignment

/-!
# Variables over time

Variables are handed out one by one, and whoever hands them out may be asked about them at any time:
for the variable of a joint, for the joints that have one, for how many they are. What is answered
depends on what was asked before, but only on the joints for which a variable was to be handed out,
and of those only on where each came up first.

The answers at one moment are told by `Linkage.Variables.Desk.Shows`. They all follow from one
thing, that the variables are those of the joints asked for and stand where they read
(`Linkage.Variables.Serve`), and a single request preserves it (`Linkage.Variables.Desk.Kept.step`).

That a joint has *the same* variable at two moments is more than that. It is seen from the end.
A variable that has been answered once stays in the table for good
(`Linkage.Variables.Desk.find?_of_answers`), so whatever has been answered for a joint, early or
late, is what the last table has for it. And in one table no two variables have the same place or
the same number, as each got a number that was free at the time.
-/

namespace Linkage

/-- What has a number above all others may be put beside things with different numbers. -/
theorem nodup_map_concat_of_lt {β : Type} {f : β → Nat} {xs : List β} {x : β}
    (h : (xs.map f).Nodup) (hx : ∀ y ∈ xs, f y < f x) : ((xs ++ [x]).map f).Nodup := by
  rw [List.map_append, List.map_singleton, List.nodup_append_comm, List.singleton_append,
    List.nodup_cons]
  refine ⟨fun hmem => ?_, h⟩
  obtain ⟨y, hy, heq⟩ := List.mem_map.1 hmem
  exact absurd heq (hx y hy).ne

namespace Variables

/-! ### Requests and answers -/

/-- **What may be asked** of whoever hands out variables. -/
inductive Request where
  /-- The variable of a joint, handed out if it has none. -/
  | assign (name : String)
  /-- The variable of a joint that has one. -/
  | lookup (name : String)
  /-- The entry that the variable of a joint reads. -/
  | indexOf (name : String)
  /-- The joints that have variables. -/
  | names
  /-- Whether a joint has a variable. -/
  | contains (name : String)
  /-- How many variables there are. -/
  | size
  deriving Repr, DecidableEq

/-- What is answered. -/
inductive Answer where
  | node (v : Variable)
  | index (i : Int)
  | names (names : List String)
  | holds (b : Bool)
  | count (n : Nat)
  deriving Repr, DecidableEq

/-- The joint for which a request wants a variable handed out, if there is one. -/
def Request.assigned : Request → List String
  | assign name => [name]
  | lookup _ | indexOf _ | names | contains _ | size => []

/-- The joint whose variable a request wants to see, if there is one. -/
def Request.sought? : Request → Option String
  | assign name | lookup name => some name
  | indexOf _ | names | contains _ | size => none

/-- **Where variables are handed out**: the ones handed out so far, and the next number that no
node has. -/
structure Desk where
  table : Variables
  next : Nat
  deriving Repr, DecidableEq

namespace Desk

/-- A desk at which nothing has been asked. -/
def opened (first : Nat) : Desk := ⟨.empty, first⟩

/-- **The answer to a request.** -/
def answer {α : Type} (d : Desk) : Request → Except (Fault α) Answer
  | .assign name => .ok (.node (d.table.assign d.next name).1)
  | .lookup name => (d.table.lookup name).map .node
  | .indexOf name => (d.table.indexOf name).map .index
  | .names => .ok (.names d.table.names)
  | .contains name => .ok (.holds (d.table.contains name))
  | .size => .ok (.count d.table.size)

/-- **The desk after a request.** Only what hands out a variable can change it. -/
def step (d : Desk) : Request → Desk
  | .assign name => ⟨(d.table.assign d.next name).2.1, (d.table.assign d.next name).2.2⟩
  | .lookup _ | .indexOf _ | .names | .contains _ | .size => d

/-- The desk after some requests. -/
def after (d : Desk) (requests : List Request) : Desk := requests.foldl step d

/-- The answers to some requests, one after the other. -/
def answers {α : Type} (d : Desk) : List Request → List (Except (Fault α) Answer)
  | [] => []
  | p :: requests => d.answer p :: (d.step p).answers requests

variable {α : Type} {d : Desk} {asked : List String} {name : String} {v : Variable}

/-! ### One request -/

/-- **Variables in order**: they are those of the joints asked for, and have different numbers, none
of which is free. -/
structure Kept (d : Desk) (asked : List String) : Prop where
  serve : d.table.Serve asked
  below : ∀ v ∈ d.table.list, v.id < d.next
  nodup : (d.table.list.map (·.id)).Nodup

theorem kept_opened (first : Nat) : Kept (opened first) [] where
  serve := serve_empty
  below _ hv := absurd hv List.not_mem_nil
  nodup := List.nodup_nil

theorem Kept.assign (h : d.Kept asked) (name : String) :
    (d.step (.assign name)).Kept (asked ++ [name]) := by
  have hserve := h.serve.assign d.next name
  rcases hname : d.table.find? name with _ | v
  · have hstep : d.step (.assign name) = ⟨d.table.push d.next name, d.next + 1⟩ := by
      rw [step, Variables.assign, hname]
    rw [Variables.assign, hname] at hserve
    rw [hstep]
    refine ⟨hserve, fun w hw => ?_, nodup_map_concat_of_lt h.nodup h.below⟩
    rcases List.mem_append.1 hw with hw | hw
    · exact (h.below w hw).trans (Nat.lt_succ_self _)
    · rw [List.mem_singleton.1 hw]
      exact Nat.lt_succ_self _
  · have hstep : d.step (.assign name) = d := by rw [step, Variables.assign, hname]
    rw [Variables.assign, hname] at hserve
    rw [hstep]
    exact ⟨hserve, h.below, h.nodup⟩

/-- **Every request leaves the variables in order.** -/
theorem Kept.step (h : d.Kept asked) (p : Request) : (d.step p).Kept (asked ++ p.assigned) := by
  cases p with
  | assign name => exact h.assign name
  | lookup | indexOf | names | contains | size =>
    rw [Request.assigned, List.append_nil]
    exact h

/-- A number that is taken is not free again. -/
theorem next_le_step (d : Desk) (p : Request) : d.next ≤ (d.step p).next := by
  cases p with
  | assign name =>
    rw [step, Variables.assign]
    split
    · exact Nat.le_refl _
    · exact Nat.le_succ _
  | lookup | indexOf | names | contains | size => exact Nat.le_refl _

/-- A joint that has a variable keeps it. -/
theorem find?_step (h : d.table.find? name = some v) (p : Request) :
    (d.step p).table.find? name = some v := by
  cases p with
  | assign other =>
    change (d.table.assign d.next other).2.1.find? name = some v
    rw [Variables.assign]
    split
    · exact h
    · rw [push, Variables.find?, List.find?_append]
      rw [Variables.find?] at h
      rw [h, Option.some_or]
  | lookup | indexOf | names | contains | size => exact h

/-- **A variable that is answered** is in the table from then on. -/
theorem find?_of_answer {p : Request} (h : d.answer p = (.ok (.node v) : Except (Fault α) Answer)) :
    ∃ name, p.sought? = some name ∧ (d.step p).table.find? name = some v := by
  cases p with
  | assign name =>
    obtain rfl := Answer.node.inj (Except.ok.inj h)
    exact ⟨name, rfl, find?_assign d.table d.next name⟩
  | lookup name =>
    obtain ⟨w, hw, hnode⟩ := exists_of_map_eq_ok h
    obtain rfl := Answer.node.inj hnode
    exact ⟨name, rfl, lookup_eq_ok_iff.1 hw⟩
  | indexOf name =>
    obtain ⟨i, -, hnode⟩ := exists_of_map_eq_ok h
    cases hnode
  | names | contains | size => cases h

/-! ### What is answered at one moment -/

/-- **How a desk shows itself** to whoever asks, if variables were to be handed out for some
joints. -/
structure Shows (α : Type) (d : Desk) (asked : List String) : Prop where
  names : d.answer .names = (.ok (.names asked.eraseDups) : Except (Fault α) Answer)
  size : d.answer .size = (.ok (.count asked.eraseDups.length) : Except (Fault α) Answer)
  contains : ∀ name, d.answer (.contains name) =
    (.ok (.holds (decide (name ∈ asked))) : Except (Fault α) Answer)
  lookup : ∀ (i : Nat) name, asked.eraseDups[i]? = some name →
    ∃ v, d.answer (.lookup name) = (.ok (.node v) : Except (Fault α) Answer) ∧
      d.answer (.assign name) = (.ok (.node v) : Except (Fault α) Answer) ∧
      d.answer (.indexOf name) = (.ok (.index i) : Except (Fault α) Answer) ∧
      v.index = i ∧ v.name = name
  unknown : ∀ name, name ∉ asked →
    d.answer (.lookup name) = (.error (.unregistered name) : Except (Fault α) Answer) ∧
      d.answer (.indexOf name) = (.error (.unregistered name) : Except (Fault α) Answer) ∧
      (Fault.unregistered name : Fault α).kind = .notFound

/-- **Variables in order show themselves as they should.** -/
theorem Kept.shows (h : d.Kept asked) (α : Type) : d.Shows α asked where
  names := by rw [answer, h.serve.names_eq]
  size := by rw [answer, Variables.size, ← List.length_map (·.name), ← Variables.names,
    h.serve.names_eq]
  contains name := by
    rw [answer, Bool.eq_iff_iff.2 (contains_iff_mem_names.trans
      (h.serve.mem_names.trans decide_eq_true_iff.symm))]
  lookup i name hi := by
    rw [← h.serve.names_eq] at hi
    obtain ⟨v, hv, hindex⟩ := h.serve.find?_of_getElem? hi
    have hlookup : (d.table.lookup name : Except (Fault α) Variable) = .ok v :=
      lookup_eq_ok_iff.2 hv
    refine ⟨v, ?_, ?_, ?_, hindex, name_of_find? hv⟩
    · rw [answer, hlookup]
      rfl
    · rw [answer, Variables.assign, hv]
    · rw [answer, Variables.indexOf, hlookup, ← hindex]
      rfl
  unknown name hname := by
    have hlookup : (d.table.lookup name : Except (Fault α) Variable) =
        .error (.unregistered name) := lookup_of_not_mem (mt h.serve.mem_names.1 hname)
    rw [answer, answer, Variables.indexOf, hlookup]
    exact ⟨rfl, rfl, rfl⟩

/-! ### The whole run -/

/-- **All requests leave the variables in order.** -/
theorem Kept.after (h : d.Kept asked) (requests : List Request) :
    (d.after requests).Kept (asked ++ requests.flatMap Request.assigned) := by
  induction requests generalizing d asked with
  | nil =>
    rw [List.flatMap_nil, List.append_nil]
    exact h
  | cons p requests ih =>
    rw [List.flatMap_cons, ← List.append_assoc]
    exact ih (h.step p)

theorem find?_after (h : d.table.find? name = some v) (requests : List Request) :
    (d.after requests).table.find? name = some v := by
  induction requests generalizing d with
  | nil => exact h
  | cons p requests ih => exact ih (find?_step h p)

/-- **A variable that is answered at any time** is the one that the joint has in the end. By
induction on the requests: the answer to the first is in the table after it, and stays there. -/
theorem find?_of_answers {requests : List Request} {i : Nat}
    (h : (d.answers requests : List (Except (Fault α) Answer))[i]? = some (.ok (.node v))) :
    ∃ p name, requests[i]? = some p ∧ p.sought? = some name ∧
      (d.after requests).table.find? name = some v := by
  induction requests generalizing d i with
  | nil => cases h
  | cons p requests ih =>
    cases i with
    | zero =>
      obtain ⟨name, hname, hv⟩ := find?_of_answer (Option.some.inj h)
      exact ⟨p, name, rfl, hname, find?_after hv requests⟩
    | succ i => exact ih h

/-- In one table variables of different joints have different numbers and places. -/
theorem Kept.ne_of_name_ne (h : d.Kept asked) {name' : String} {v' : Variable}
    (hv : d.table.find? name = some v) (hv' : d.table.find? name' = some v') (hne : name ≠ name') :
    v.id ≠ v'.id ∧ v.index ≠ v'.index := by
  have hmem : v ∈ d.table.list := List.mem_of_find?_eq_some hv
  have hmem' : v' ∈ d.table.list := List.mem_of_find?_eq_some hv'
  have hnot : v ≠ v' := by
    rintro rfl
    exact hne ((name_of_find? hv).symm.trans (name_of_find? hv'))
  refine ⟨fun hid => hnot (List.inj_on_of_nodup_map h.nodup hmem hmem' hid), fun hindex => ?_⟩
  obtain ⟨i, hi⟩ := List.mem_iff_getElem?.1 hmem
  obtain ⟨k, hk⟩ := List.mem_iff_getElem?.1 hmem'
  -- Each stands where it reads.
  rw [h.serve.numbered i v hi, h.serve.numbered k v' hk, Int.natCast_inj] at hindex
  rw [hindex, hk] at hi
  exact hnot (Option.some.inj hi).symm

/-- **Joints keep their variables.** Whatever is asked, in whatever order, the answers at the end
show the joints for which variables were to be handed out, each once, in the order in which they
first came up, each with a variable of its own that reads the entry of its place; a request that
hands out nothing changes nothing; and a variable can always be handed out. Of two variables that
have been answered, early or late, both are one and the same if they were sought for the same
joint, and else they have different numbers and read different entries. -/
theorem shows_and_keeps_variables (α : Type) (first : Nat) (requests : List Request) :
    ((opened first).after requests).Shows α (requests.flatMap Request.assigned) ∧
    (∀ (d : Desk) (p : Request), p.assigned = [] → d.step p = d) ∧
    (∀ (d : Desk) name, ∃ v, d.answer (.assign name) = (.ok (.node v) : Except (Fault α) Answer) ∧
      v.name = name) ∧
    ∀ (i k : Nat) (p p' : Request) (name name' : String) (v v' : Variable),
      requests[i]? = some p → p.sought? = some name →
      requests[k]? = some p' → p'.sought? = some name' →
      ((opened first).answers requests : List (Except (Fault α) Answer))[i]? =
        some (.ok (.node v)) →
      ((opened first).answers requests : List (Except (Fault α) Answer))[k]? =
        some (.ok (.node v')) →
      (name = name' → v = v') ∧ (name ≠ name' → v.id ≠ v'.id ∧ v.index ≠ v'.index) := by
  have hkept := (kept_opened first).after requests
  rw [List.nil_append] at hkept
  refine ⟨hkept.shows α, fun d p hp => ?_, fun d name => ?_,
    fun i k p p' name name' v v' hi hp hk hp' hv hv' => ?_⟩
  · cases p with
    | assign => cases hp
    | lookup | indexOf | names | contains | size => rfl
  · exact ⟨_, rfl, name_of_find? (find?_assign d.table d.next name)⟩
  · -- Both are in the last table.
    obtain ⟨_, _, hi', hname, hlast⟩ := find?_of_answers hv
    obtain ⟨_, _, hk', hname', hlast'⟩ := find?_of_answers hv'
    obtain rfl := Option.some.inj (hi.symm.trans hi')
    obtain rfl := Option.some.inj (hk.symm.trans hk')
    obtain rfl := Option.some.inj (hp.symm.trans hname)
    obtain rfl := Option.some.inj (hp'.symm.trans hname')
    refine ⟨?_, hkept.ne_of_name_ne hlast hlast'⟩
    rintro rfl
    exact Option.some.inj (hlast.symm.trans hlast')

/-- **The slew and the slide of a crane**, with a lookup that comes too early. The slew has the same
variable when it comes up again, and the slide has another. -/
theorem shows_and_keeps_variables_crane :
    ∃ v v' w : Variable,
      (opened 5).answers [.assign "slew", .lookup "slide", .assign "slide", .assign "slew", .names] =
        ([.ok (.node v), .error (.unregistered "slide"), .ok (.node v'), .ok (.node w),
          .ok (.names ["slew", "slide"])] : List (Except (Fault Float) Answer)) ∧
      v = w ∧ v.id ≠ v'.id ∧ v.index ≠ v'.index := by
  obtain ⟨-, -, -, hsame⟩ := shows_and_keeps_variables Float 5
    [.assign "slew", .lookup "slide", .assign "slide", .assign "slew", .names]
  refine ⟨_, _, _, rfl, ?_, ?_⟩
  · exact (hsame 0 3 _ _ "slew" "slew" _ _ rfl rfl rfl rfl rfl rfl).1 rfl
  · exact (hsame 0 2 _ _ "slew" "slide" _ _ rfl rfl rfl rfl rfl rfl).2 (by decide)

end Desk

end Variables

end Linkage
