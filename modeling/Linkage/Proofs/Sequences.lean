import Mathlib.Data.List.Forall2

/-!
# Sequences that may fail

A sequence fails with the first of its steps that fails, and otherwise gives what is made of all
that they give. This is said here of two steps and of one step for each member of a list, from the
whole to its parts and from the parts to the whole.

* `Linkage.exists_of_bind_eq_ok`, `Linkage.of_bind_eq_error` – two steps;
* `Linkage.mapM_eq_ok_iff`, `Linkage.mapM_eq_error_iff` – one step for each member;
* `Linkage.faultOf?_mapM` – the same of the fault alone, which is that of the first member
  (`Linkage.IsFirst`) to have one.
-/

namespace Linkage

variable {ε β γ δ : Type}

/-! ### Two steps -/

/-- After a success comes what comes after it. -/
@[simp]
theorem ok_bind (x : β) (f : β → Except ε γ) : (Except.ok x >>= f) = f x := rfl

/-- A sequence that succeeds succeeds at first. -/
theorem exists_of_bind_eq_ok {x : Except ε β} {f : β → Except ε γ} {y : γ}
    (h : x >>= f = .ok y) : ∃ a, x = .ok a ∧ f a = .ok y := by
  cases x with
  | error e => cases h
  | ok a => exact ⟨a, rfl, h⟩

/-- What was made of a success came from one. -/
theorem exists_of_map_eq_ok {x : Except ε β} {f : β → γ} {y : γ}
    (h : x.map f = .ok y) : ∃ a, x = .ok a ∧ f a = y := by
  cases x with
  | error e => cases h
  | ok a => exact ⟨a, rfl, Except.ok.inj h⟩

/-- A sequence that fails fails at first or later. -/
theorem of_bind_eq_error {x : Except ε β} {f : β → Except ε γ} {e : ε}
    (h : x >>= f = .error e) : x = .error e ∨ ∃ a, x = .ok a ∧ f a = .error e := by
  cases x with
  | error e' =>
    obtain rfl := Except.error.inj h
    exact Or.inl rfl
  | ok a => exact Or.inr ⟨a, rfl, h⟩

/-- What is made of a result fails if there is none. -/
theorem of_map_eq_error {x : Except ε β} {f : β → γ} {e : ε}
    (h : x.map f = .error e) : x = .error e := by
  cases x with
  | error e' =>
    obtain rfl := Except.error.inj h
    rfl
  | ok a => cases h

/-- What is read off a success came from one. -/
theorem exists_of_map_toOption {x : Except ε β} {f : β → γ} {y : γ}
    (h : x.toOption.map f = some y) : ∃ a, x = .ok a ∧ f a = y := by
  cases x with
  | error e => cases h
  | ok a => exact ⟨a, rfl, Option.some.inj h⟩

/-! ### The first of its kind -/

/-- **The first of some things that `p` holds of.** -/
def IsFirst (p : β → Prop) (xs : List β) (x : β) : Prop :=
  ∃ before after, xs = before ++ x :: after ∧ (∀ y ∈ before, ¬p y) ∧ p x

theorem IsFirst.holds {p : β → Prop} {xs : List β} {x : β} (h : IsFirst p xs x) : p x := by
  obtain ⟨-, -, -, -, hx⟩ := h
  exact hx

/-- Where there is a first, one is in the list. -/
theorem IsFirst.mem {p : β → Prop} {xs : List β} {x : β} (h : IsFirst p xs x) : x ∈ xs := by
  obtain ⟨before, after, rfl, -, -⟩ := h
  exact List.mem_append_right before List.mem_cons_self

/-- Going through a list until something is found. -/
theorem findSome?_eq_some_iff_isFirst {f : β → Option γ} {xs : List β} {y : γ} :
    xs.findSome? f = some y ↔ ∃ x, IsFirst (fun x => ∃ z, f x = some z) xs x ∧ f x = some y := by
  rw [List.findSome?_eq_some_iff]
  constructor
  · rintro ⟨before, x, after, hxs, hx, hbefore⟩
    refine ⟨x, ⟨before, after, hxs, fun z hz => ?_, y, hx⟩, hx⟩
    rintro ⟨w, hw⟩
    rw [hbefore z hz] at hw
    cases hw
  · rintro ⟨x, ⟨before, after, hxs, hbefore, -⟩, hx⟩
    exact ⟨before, x, after, hxs, hx, fun z hz =>
      Option.eq_none_iff_forall_ne_some.2 fun w hw => hbefore z hz ⟨w, hw⟩⟩

/-- What is found in a list is found in its head, or else behind it. -/
theorem findSome?_cons_eq_or (f : β → Option γ) (x : β) (xs : List β) :
    (x :: xs).findSome? f = (f x).or (xs.findSome? f) := by
  rw [List.findSome?_cons]
  cases f x <;> rfl

/-- What is first depends on what is looked for only. -/
theorem isFirst_congr {p p' : β → Prop} (h : ∀ x, p x ↔ p' x) {xs : List β} {x : β} :
    IsFirst p xs x ↔ IsFirst p' xs x := by
  rw [show p = p' from funext fun x => propext (h x)]

/-- The first of a longer list is its head, or behind it. -/
theorem isFirst_cons_iff {p : β → Prop} {x y : β} {xs : List β} :
    IsFirst p (x :: xs) y ↔ p x ∧ y = x ∨ ¬p x ∧ IsFirst p xs y := by
  constructor
  · rintro ⟨before, after, hxs, hbefore, hy⟩
    cases before with
    | nil =>
      obtain ⟨rfl, rfl⟩ := List.cons.inj hxs
      exact Or.inl ⟨hy, rfl⟩
    | cons z before =>
      obtain ⟨rfl, rfl⟩ := List.cons.inj hxs
      obtain ⟨hx, hbefore⟩ := List.forall_mem_cons.1 hbefore
      exact Or.inr ⟨hx, before, after, rfl, hbefore, hy⟩
  · rintro (⟨hx, rfl⟩ | ⟨hx, before, after, rfl, hbefore, hy⟩)
    · exact ⟨[], xs, rfl, nofun, hx⟩
    · exact ⟨x :: before, after, rfl, List.forall_mem_cons.2 ⟨hx, hbefore⟩, hy⟩

/-- What is first depends on what is looked for among the members only. -/
theorem isFirst_congr_of_mem {p p' : β → Prop} {xs : List β}
    (h : ∀ x ∈ xs, p x ↔ p' x) {x : β} : IsFirst p xs x ↔ IsFirst p' xs x := by
  induction xs with
  | nil => exact ⟨fun h => absurd h.mem List.not_mem_nil, fun h => absurd h.mem List.not_mem_nil⟩
  | cons y ys ih =>
    obtain ⟨hy, hys⟩ := List.forall_mem_cons.1 h
    rw [isFirst_cons_iff, isFirst_cons_iff, hy, ih hys]

/-- Either all members of a list are in order, or there is a first that is not. -/
theorem forall_or_exists_first (p : β → Prop) (xs : List β) :
    (∀ x ∈ xs, p x) ∨ ∃ pre x post, xs = pre ++ x :: post ∧ (∀ y ∈ pre, p y) ∧ ¬p x := by
  induction xs with
  | nil => exact Or.inl fun _ hx => absurd hx List.not_mem_nil
  | cons x xs ih =>
    by_cases hx : p x
    · rcases ih with h | ⟨pre, y, post, rfl, hpre, hy⟩
      · exact Or.inl (List.forall_mem_cons.2 ⟨hx, h⟩)
      · exact Or.inr ⟨x :: pre, y, post, rfl, List.forall_mem_cons.2 ⟨hx, hpre⟩, hy⟩
    · exact Or.inr ⟨[], x, xs, rfl, fun _ hy => absurd hy List.not_mem_nil, hx⟩

/-! ### The fault of a sequence -/

/-- The fault that comes out, if there is one. -/
def faultOf? : Except ε β → Option ε
  | .error fault => some fault
  | .ok _ => none

theorem faultOf?_eq_some_iff {r : Except ε β} {fault : ε} :
    faultOf? r = some fault ↔ r = .error fault := by
  rcases r with fault' | x
  · exact ⟨fun h => congrArg Except.error (Option.some.inj h),
      fun h => congrArg some (Except.error.inj h)⟩
  · constructor <;> (intro h; cases h)

theorem faultOf?_eq_none_iff {r : Except ε β} : faultOf? r = none ↔ ∃ x, r = .ok x := by
  rcases r with fault | x
  · constructor
    · intro h
      cases h
    · rintro ⟨_, h⟩
      cases h
  · exact ⟨fun _ => ⟨x, rfl⟩, fun _ => rfl⟩

/-- Of two steps in a row the first to fail counts. -/
theorem faultOf?_bind {r : Except ε β} {f : β → Except ε γ} {rest : Option ε}
    (h : ∀ x, r = .ok x → faultOf? (f x) = rest) : faultOf? (r >>= f) = (faultOf? r).or rest := by
  rcases r with fault | x
  · rfl
  · exact h x rfl

/-- What is done with a result afterwards makes no fault. -/
theorem faultOf?_map (r : Except ε β) (f : β → γ) : faultOf? (f <$> r) = faultOf? r := by
  cases r <;> rfl

/-! ### One step for each member -/

/-- **Of many steps in a row the first to fail counts.** -/
theorem faultOf?_mapM (f : β → Except ε γ) (xs : List β) :
    faultOf? (xs.mapM f) = xs.findSome? fun x => faultOf? (f x) := by
  induction xs with
  | nil => rfl
  | cons x xs ih =>
    have hrest : ∀ y, faultOf? (xs.mapM f >>= fun ys => pure (y :: ys)) =
        xs.findSome? fun x => faultOf? (f x) :=
      fun y => (faultOf?_map (xs.mapM f) (y :: ·)).trans ih
    rw [List.mapM_cons, faultOf?_bind fun y _ => hrest y, findSome?_cons_eq_or]

/-- Many steps in a row depend on what is done for the members only. -/
theorem mapM_congr {f g : β → Except ε γ} {xs : List β} (h : ∀ x ∈ xs, f x = g x) :
    xs.mapM f = xs.mapM g := by
  induction xs with
  | nil => rfl
  | cons x xs ih =>
    rw [List.forall_mem_cons] at h
    rw [List.mapM_cons, List.mapM_cons, h.1, ih h.2]

/-- Many steps in a row give what each of them gives. -/
theorem mapM_eq_ok_iff {f : β → Except ε γ} {xs : List β} {ys : List γ} :
    xs.mapM f = .ok ys ↔ List.Forall₂ (fun x y => f x = .ok y) xs ys := by
  constructor
  · intro h
    induction xs generalizing ys with
    | nil =>
      obtain rfl := Except.ok.inj h
      exact .nil
    | cons x xs ih =>
      rw [List.mapM_cons] at h
      obtain ⟨y, hy, h⟩ := exists_of_bind_eq_ok h
      obtain ⟨zs, hzs, h⟩ := exists_of_bind_eq_ok h
      obtain rfl := Except.ok.inj h
      exact .cons hy (ih hzs)
  · intro h
    induction h with
    | nil => rfl
    | cons hy _ ih =>
      rw [List.mapM_cons, hy, ih]
      rfl

/-- Of a list whose members all have results the results are a list. -/
theorem exists_mapM_eq_ok {f : β → Except ε γ} {xs : List β} (h : ∀ x ∈ xs, ∃ y, f x = .ok y) :
    ∃ ys, xs.mapM f = .ok ys := by
  rw [← faultOf?_eq_none_iff, faultOf?_mapM, List.findSome?_eq_none_iff]
  exact fun x hx => faultOf?_eq_none_iff.2 (h x hx)

/-- **Many steps in a row fail** with the first that does. -/
theorem mapM_eq_error_iff {f : β → Except ε γ} {xs : List β} {fault : ε} :
    xs.mapM f = .error fault ↔ ∃ pre x post, xs = pre ++ x :: post ∧
      (∀ y ∈ pre, ∃ z, f y = .ok z) ∧ f x = .error fault := by
  simp only [← faultOf?_eq_some_iff, ← faultOf?_eq_none_iff, faultOf?_mapM,
    List.findSome?_eq_some_iff, and_comm]

/-! ### Lists that go together -/

/-- What goes with a member of the second of two lists is a member of the first. -/
theorem exists_of_mem_right {R : β → γ → Prop} {xs : List β} {ys : List γ}
    (h : List.Forall₂ R xs ys) {y : γ} (hy : y ∈ ys) : ∃ x ∈ xs, R x y := by
  induction h with
  | nil => exact absurd hy List.not_mem_nil
  | @cons x _ _ _ hxy _ ih =>
    rcases List.mem_cons.1 hy with rfl | hy
    · exact ⟨x, List.mem_cons_self, hxy⟩
    · exact (ih hy).imp fun _ hx => ⟨List.mem_cons_of_mem _ hx.1, hx.2⟩

/-- What goes with a member of the first of two lists is a member of the second. -/
theorem exists_of_mem_left {R : β → γ → Prop} {xs : List β} {ys : List γ}
    (h : List.Forall₂ R xs ys) {x : β} (hx : x ∈ xs) : ∃ y ∈ ys, R x y :=
  exists_of_mem_right h.flip hx

/-- Lists that go together still do with one more on either side. -/
theorem forall₂_concat {R : β → γ → Prop} {xs : List β} {ys : List γ} {x : β} {y : γ}
    (h : List.Forall₂ R xs ys) (hxy : R x y) : List.Forall₂ R (xs ++ [x]) (ys ++ [y]) :=
  List.rel_append h (.cons hxy .nil)

/-- What goes together and has the same value has the same values in order. -/
theorem map_eq_of_forall₂ {f : β → δ} {g : γ → δ} {R : β → γ → Prop} {xs : List β} {ys : List γ}
    (h : List.Forall₂ R xs ys) (hfg : ∀ x y, R x y → g y = f x) : ys.map g = xs.map f := by
  induction h with
  | nil => rfl
  | cons hxy _ ih => rw [List.map_cons, List.map_cons, hfg _ _ hxy, ih]

/-- Lists go together by way of something in between exactly if there is a list in between. -/
theorem forall₂_comp_iff {R : β → γ → Prop} {S : γ → δ → Prop} {xs : List β} {zs : List δ} :
    List.Forall₂ (fun x z => ∃ y, R x y ∧ S y z) xs zs ↔
      ∃ ys, List.Forall₂ R xs ys ∧ List.Forall₂ S ys zs := by
  constructor
  · intro h
    induction h with
    | nil => exact ⟨[], .nil, .nil⟩
    | cons hxz _ ih =>
      obtain ⟨y, hxy, hyz⟩ := hxz
      obtain ⟨ys, hxs, hzs⟩ := ih
      exact ⟨y :: ys, .cons hxy hxs, .cons hyz hzs⟩
  · rintro ⟨ys, hxs, hzs⟩
    induction hxs generalizing zs with
    | nil =>
      cases hzs
      exact .nil
    | cons hxy _ ih =>
      cases hzs with
      | cons hyz hzs => exact .cons ⟨_, hxy, hyz⟩ (ih hzs)

end Linkage
