import Linkage.Proofs.Descent

/-!
# Going up

Where no link hangs below two joints there is only one way up from a link: over the joint
it hangs below, then over the joint that *that* joint's parent hangs below, and so on.
`Linkage.rise` is the link on which one stands after so many steps, or nothing if the way
has ended before.

Going up undoes going down (`Linkage.reaches_iff_rise`), so what a link is reached from
is where the way up from it comes by. A way up can only do two things: end, or go round.
If a single link hangs below no joint, the links from which the way up does not end there
are those that hang on a circle or below one (`Linkage.not_reaches_iff_belowCycle`).
-/

namespace Linkage

variable {α : Type} {joints : List (Joint α)}

/-! ### The joint above a link -/

/-- In a list in which no name is there twice, what is found is what has the name. -/
theorem find?_eq_some_iff_of_nodup {β : Type} (name : β → String) {xs : List β}
    (hn : (xs.map name).Nodup) {key : String} {x : β} :
    xs.find? (name · == key) = some x ↔ x ∈ xs ∧ name x = key := by
  constructor
  · intro h
    exact ⟨List.mem_of_find?_eq_some h, by simpa using List.find?_some h⟩
  · rintro ⟨hx, rfl⟩
    rcases hy : xs.find? (name · == name x) with _ | y
    · exact absurd (List.find?_eq_none.1 hy x hx) (by simp)
    · have hyx : name y = name x := by simpa using List.find?_some hy
      rw [List.inj_on_of_nodup_map hn (List.mem_of_find?_eq_some hy) hx hyx]

theorem mem_of_jointAbove? {link : String} {j : Joint α} (h : jointAbove? joints link = some j) :
    j ∈ joints ∧ j.child = link :=
  ⟨List.mem_of_find?_eq_some h, by simpa using List.find?_some h⟩

theorem jointAbove?_eq_none {link : String} :
    jointAbove? joints link = none ↔ ∀ j ∈ joints, j.child ≠ link := by
  simp only [jointAbove?, List.find?_eq_none, beq_iff_eq, ne_eq]

/-- The joint above a link is the one whose child the link is. -/
theorem jointAbove?_eq_some (hc : (joints.map (·.child)).Nodup) {link : String} {j : Joint α} :
    jointAbove? joints link = some j ↔ j ∈ joints ∧ j.child = link :=
  find?_eq_some_iff_of_nodup Joint.child hc

/-! ### So many steps up -/

/-- **The link some steps up** from a link, or nothing where the way up ends before. -/
def rise (joints : List (Joint α)) : (steps : Nat) → (link : String) → Option String
  | 0, link => some link
  | steps + 1, link => (jointAbove? joints link).bind fun j => rise joints steps j.parent

@[simp]
theorem rise_zero (link : String) : rise joints 0 link = some link := rfl

theorem rise_succ (n : Nat) (link : String) :
    rise joints (n + 1) link = (jointAbove? joints link).bind fun j => rise joints n j.parent := rfl

/-- Going up goes on from where one stands. -/
theorem rise_add (m n : Nat) (link : String) :
    rise joints (m + n) link = (rise joints m link).bind (rise joints n) := by
  induction m generalizing link with
  | zero => rw [Nat.zero_add, rise_zero, Option.bind_some]
  | succ m ih =>
    rw [Nat.succ_add, rise_succ, rise_succ]
    rcases jointAbove? joints link with _ | j
    · rfl
    · exact ih j.parent

/-- The joints crossed on the way up lead down again, as many as there were steps. -/
theorem leads_of_rise {n : Nat} {upper lower : String} (h : rise joints n lower = some upper) :
    ∃ js, js.length = n ∧ Leads joints upper js lower := by
  induction n generalizing lower with
  | zero =>
    obtain rfl : lower = upper := Option.some.inj h
    exact ⟨[], rfl, rfl⟩
  | succ n ih =>
    obtain ⟨j, habove, hrise⟩ := Option.bind_eq_some_iff.1 h
    obtain ⟨hj, hlow⟩ := mem_of_jointAbove? habove
    obtain ⟨js, hlen, hjs⟩ := ih hrise
    exact ⟨js ++ [j], by rw [List.length_append, hlen, List.length_singleton],
      leads_concat.2 ⟨hjs, hj, hlow⟩⟩

/-- **Going up undoes going down.** -/
theorem rise_of_leads (hc : (joints.map (·.child)).Nodup) {upper lower : String}
    {js : List (Joint α)} (h : Leads joints upper js lower) :
    rise joints js.length lower = some upper := by
  induction js using List.reverseRecOn generalizing lower with
  | nil => rw [leads_nil.1 h, List.length_nil, rise_zero]
  | append_singleton js j ih =>
    obtain ⟨hjs, hj⟩ := leads_concat.1 h
    rw [List.length_append, List.length_singleton, rise_succ, (jointAbove?_eq_some hc).2 hj]
    exact ih hjs

/-- **What a link is reached from is where the way up from it comes by.** -/
theorem reaches_iff_rise (hc : (joints.map (·.child)).Nodup) {upper lower : String} :
    Reaches joints upper lower ↔ ∃ n, rise joints n lower = some upper := by
  constructor
  · intro h
    obtain ⟨js, hjs⟩ := reaches_iff_leads.1 h
    exact ⟨js.length, rise_of_leads hc hjs⟩
  · rintro ⟨n, hn⟩
    obtain ⟨js, -, hjs⟩ := leads_of_rise hn
    exact hjs.reaches

/-- Without circles the way up never comes by a link twice. -/
theorem rise_ne_rise (ha : Acyclic joints) {m n : Nat} (hmn : m < n) {link x y : String}
    (hx : rise joints m link = some x) (hy : rise joints n link = some y) : x ≠ y := by
  rintro rfl
  have hround : rise joints (n - m) x = some x := by
    rw [← Nat.add_sub_cancel' (Nat.le_of_lt hmn), rise_add, hx] at hy
    exact hy
  obtain ⟨js, hlen, hjs⟩ := leads_of_rise hround
  refine ha x (hjs.isAbove ?_)
  rintro rfl
  rw [List.length_nil] at hlen
  omega

/-! ### Ways up that do not end -/

/-- A way up with more steps than there are joints goes round a circle. -/
theorem belowCycle_of_rise {n : Nat} (hn : joints.length < n) {upper lower : String}
    (h : rise joints n lower = some upper) : BelowCycle joints lower := by
  obtain ⟨js, rfl, hjs⟩ := leads_of_rise h
  refine hjs.belowCycle_of_not_nodup fun hd => ?_
  have := (List.subperm_of_subset hd hjs.subset).length_le
  omega

/-- **What a link without a joint above it reaches is off every circle.** The way up from
such a place is the way down turned round, and that has no room for a circle. -/
theorem not_belowCycle_of_reaches (hc : (joints.map (·.child)).Nodup) {root link : String}
    (hroot : ∀ j ∈ joints, j.child ≠ root) (h : Reaches joints root link) :
    ¬BelowCycle joints link := by
  induction h with
  | refl =>
    rintro ⟨round, hround, hlink⟩
    obtain ⟨_, -, j, hj, -, hchild⟩ := Relation.TransGen.tail'_iff.1 (hround.trans_left hlink)
    exact hroot j hj hchild
  | @tail upper lower _ hstep ih =>
    rintro ⟨round, hround, hlink⟩
    -- The last joint down to `lower` is the same on both ways.
    have hlast : ∀ z, Hangs joints z lower → z = upper := by
      rintro z ⟨k, hk, rfl, hklow⟩
      obtain ⟨j, hj, rfl, rfl⟩ := hstep
      rw [eq_of_child_eq hc hk hj hklow]
    rcases hlink.cases_tail with rfl | ⟨z, hz, hzl⟩
    · obtain ⟨z, hz, hzl⟩ := Relation.TransGen.tail'_iff.1 hround
      obtain rfl := hlast z hzl
      exact ih ⟨z, Relation.TransGen.head' hstep hz, Relation.ReflTransGen.refl⟩
    · obtain rfl := hlast z hzl
      exact ih ⟨round, hround, hz⟩

/-- Where the way up has not yet come to the only link without a joint above it, there is
a joint to cross. -/
theorem exists_rise_of_not_reaches {links : List String} {root link : String}
    (hends : ∀ j ∈ joints, j.parent ∈ links)
    (hroot : ∀ l ∈ links, (∀ j ∈ joints, j.child ≠ l) → l = root)
    (hlink : link ∈ links) (h : ¬Reaches joints root link) (n : Nat) :
    ∃ upper ∈ links, rise joints n link = some upper := by
  induction n generalizing link with
  | zero => exact ⟨link, hlink, rfl⟩
  | succ n ih =>
    rcases habove : jointAbove? joints link with _ | j
    · obtain rfl := hroot link hlink (jointAbove?_eq_none.1 habove)
      exact absurd Relation.ReflTransGen.refl h
    · obtain ⟨hj, rfl⟩ := mem_of_jointAbove? habove
      rw [rise_succ, habove]
      exact ih (hends j hj) fun hr => h (hr.tail (hangs_of_mem hj))

/-- **The links that the root does not reach** hang on a circle or below one. -/
theorem not_reaches_iff_belowCycle (hc : (joints.map (·.child)).Nodup) {links : List String}
    {root link : String} (hends : ∀ j ∈ joints, j.parent ∈ links)
    (hroot : ∀ l ∈ links, (∀ j ∈ joints, j.child ≠ l) ↔ l = root) (hmem : root ∈ links)
    (hlink : link ∈ links) : ¬Reaches joints root link ↔ BelowCycle joints link := by
  constructor
  · intro h
    obtain ⟨upper, -, hrise⟩ := exists_rise_of_not_reaches hends (fun l hl => (hroot l hl).1)
      hlink h (joints.length + 1)
    exact belowCycle_of_rise (Nat.lt_succ_self _) hrise
  · intro hcycle h
    exact not_belowCycle_of_reaches hc ((hroot root hmem).2 rfl) h hcycle

end Linkage
