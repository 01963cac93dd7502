import Linkage.Proofs.Readiness
import Linkage.Proofs.VariableRequests

/-!
# Frames over time

Frames are built in a workshop. At its desk variables are handed out, and on its shelf stand the
frames of chains that were built to be kept. Whoever comes may ask for anything at any time, also
for what cannot be built yet, and come again later.

* What a request can do to a workshop is said once (`Linkage.Workshop.Effect`): something is asked
  at the desk, nodes are built and thrown away, a frame is given that stands there already, or a new
  one is put beside the others. Everything else about single requests follows from it.
* What is on the shelf at one moment is told by the keys for which a frame was to be kept and could
  be built (`Linkage.Workshop.Kept`, `Linkage.Workshop.Shows`).
* That a chain has *the same* frame at two moments is seen from the shelf. What has been answered
  stands there from then on, and whoever seeks it is given it (`Linkage.Workshop.answers_of_get`).
* A chain that is not built although it could be (`Linkage.Buildable`) waits for a variable and for
  nothing else, so it is built once its joints have theirs.
-/

namespace Linkage

variable {α : Type}

/-! ### Chains that wait for variables only -/

section Buildable

variable [Scalar α] {tree : Tree α} {vs : Variables} {names : List String}

/-- **Joints of which a chain can be built**, given the right variables. -/
def Buildable (tree : Tree α) (names : List String) : Prop :=
  ∃ vs n made, chainFrame tree vs names n = .ok made

/-- A joint that could have frames lacks nothing but a variable. -/
theorem Joint.IsFramed.plan_of_not_contains {j : Joint α} {vs' : Variables} (h : j.IsFramed vs')
    (hmove : j.isMoveable = true) (hv : vs.contains j.name = false) :
    j.plan vs = .error (.unregistered j.name) := by
  obtain ⟨p, hp⟩ := Joint.isFramed_iff.1 h
  obtain ⟨a, ha⟩ := h.axis hmove
  exact Joint.plan_of_not_contains (Joint.plan_eq_ok_iff.1 hp).1 ha h.type hmove hv

theorem Joint.IsFramed.of_contains {j : Joint α} {vs' : Variables} (h : j.IsFramed vs')
    (hv : j.isMoveable = true → vs.contains j.name = true) : j.IsFramed vs :=
  { h with input := fun hmove => Option.isSome_iff_exists.1 (hv hmove) }

/-- **Joints of which a chain can be built** are found under their names, and could have frames. -/
theorem Buildable.exists_joints (h : Buildable tree names) :
    ∃ (js : List (Joint α)) (vs : Variables), names = js.map (·.name) ∧
      ∀ j ∈ js, tree.joint j.name = .ok j ∧ j.IsFramed vs := by
  obtain ⟨vs, n, ⟨f, m⟩, hok⟩ := h
  obtain ⟨js, ps, hjs, hps, -, -⟩ := chainFrame_eq_ok hok
  have hnames : js.map (·.name) = names.map id :=
    map_eq_of_forall₂ hjs fun _ _ hj => Tree.name_of_joint_eq hj
  rw [List.map_id] at hnames
  refine ⟨js, vs, hnames.symm, fun j hj => ⟨?_, isFramed_of_plans hps j hj⟩⟩
  obtain ⟨name, -, hname⟩ := exists_of_mem_right hjs hj
  rw [Tree.name_of_joint_eq hname, hname]

/-- **Such a chain is built if all its joints that move have variables.** Else the uppermost without
one is reported. -/
theorem Buildable.exists_planOf_or (h : Buildable tree names) (vs : Variables) :
    (∃ ps, planOf tree vs names = .ok ps) ∨
    ∃ j, tree.joint j.name = .ok j ∧ j.name ∈ names ∧ j.isMoveable = true ∧
      vs.contains j.name = false ∧ planOf tree vs names = .error (.unregistered j.name) := by
  obtain ⟨js, vs', rfl, hjs⟩ := h.exists_joints
  rcases forall_or_exists_first (fun j => j.isMoveable = true → vs.contains j.name = true) js with
    hv | ⟨pre, j, post, rfl, hpre, hj⟩
  · exact Or.inl (exists_planOf (fun j hj => (hjs j hj).1)
      fun j hj => (hjs j hj).2.of_contains (hv j hj))
  · obtain ⟨hmove, hnone⟩ := Classical.not_imp.1 hj
    rw [Bool.not_eq_true] at hnone
    rw [List.forall_mem_append, List.forall_mem_cons] at hjs
    obtain ⟨hjs, ⟨hfound, hframed⟩, -⟩ := hjs
    refine Or.inr ⟨j, hfound, by simp, hmove, hnone, ?_⟩
    exact planOf_eq_error (fun i hi => (hjs i hi).1)
      (fun i hi => (hjs i hi).2.of_contains (hpre i hi)) hfound
      (hframed.plan_of_not_contains hmove hnone)

/-- With all variables that it takes it is built. -/
theorem Buildable.exists_planOf (h : Buildable tree names)
    (hv : ∀ j, tree.joint j.name = .ok j → j.name ∈ names → j.isMoveable = true →
      vs.contains j.name = true) :
    ∃ ps, planOf tree vs names = .ok ps := by
  rcases h.exists_planOf_or vs with hplans | ⟨j, hj, hname, hmove, hnone, -⟩
  · exact hplans
  · exact absurd ((hv j hj hname hmove).symm.trans hnone) (by simp)

end Buildable

/-! ### Frames that are kept -/

namespace FrameTable

variable {t : FrameTable α} {key : ChainKey} {f : FrameExpr α}

theorem get_eq_ok_iff : t.get key = .ok f ↔ t.entries.lookup key = some f := by
  rw [get]
  rcases t.entries.lookup key with _ | g
  · simp
  · rw [Except.ok.injEq, Option.some.injEq]

theorem exists_get (h : t.contains key = true) : ∃ f, t.get key = .ok f := by
  obtain ⟨f, hf⟩ := Option.isSome_iff_exists.1 h
  exact ⟨f, get_eq_ok_iff.2 hf⟩

theorem mem_entries_of_get (h : t.get key = .ok f) : (key, f) ∈ t.entries :=
  mem_of_lookup_eq_some (get_eq_ok_iff.1 h)

end FrameTable

/-! ### Requests and answers -/

/-- **Where frames are built**: the desk at which variables are handed out, and the frames that are
kept. -/
structure Workshop (α : Type) where
  desk : Variables.Desk
  shelf : FrameTable α

namespace Workshop

/-- **What may be asked** of a workshop. -/
inductive Request (α : Type) where
  /-- What is asked at the desk. -/
  | ask (p : Variables.Request)
  /-- The frames of a joint. -/
  | transforms (j : Joint α)
  /-- The frame of a chain, which is not kept. -/
  | build (names : List String)
  /-- The frame of a chain, which is kept under a key. -/
  | getOrBuild (key : ChainKey) (names : List String)
  /-- The frame that is kept under a key. -/
  | get (key : ChainKey)
  /-- Whether a frame is kept under a key. -/
  | contains (key : ChainKey)
  /-- All keys under which frames are kept, with the frames. -/
  | entries

/-- What is answered. -/
inductive Answer (α : Type) where
  | desk (a : Variables.Answer)
  | frames (fs : List (FrameExpr α))
  | frame (f : FrameExpr α)
  | holds (b : Bool)
  | entries (es : List (ChainKey × FrameExpr α))

namespace Request

/-- The joint for which a request wants a variable handed out, if there is one. -/
def assigned : Request α → List String
  | ask p => p.assigned
  | transforms _ | build _ | getOrBuild .. | get _ | contains _ | entries => []

/-- The key of the frame that a request wants to see, if there is one. -/
def sought? : Request α → Option ChainKey
  | getOrBuild key _ | get key => some key
  | ask _ | transforms _ | build _ | contains _ | entries => none

/-- The joints of which a request wants a chain built, if it does. -/
def joints? : Request α → Option (List String)
  | build names | getOrBuild _ names => some names
  | ask _ | transforms _ | get _ | contains _ | entries => none

/-- **The key under which a frame is kept from now on**, if the request is for one and it is
answered. -/
def met : Request α → Except (Fault α) (Answer α) → List ChainKey
  | getOrBuild key _, .ok (.frame _) => [key]
  | _, _ => []

end Request

/-- A workshop of which nothing has been asked. -/
def opened (first : Nat) : Workshop α := ⟨.opened first, .empty⟩

/-- **Something is built.** If that fails, all is as if it had not been tried. -/
def make {β : Type} (w : Workshop α) (b : Builder α β) (answer : β → Answer α)
    (shelf : β → FrameTable α) : Except (Fault α) (Answer α) × Workshop α :=
  match b w.desk.next with
  | .ok (x, next) => (.ok (answer x), ⟨{ w.desk with next }, shelf x⟩)
  | .error fault => (.error fault, w)

variable [Scalar α]

/-- **The answer to a request**, and the workshop after it. -/
def handle (tree : Tree α) (w : Workshop α) :
    Request α → Except (Fault α) (Answer α) × Workshop α
  | .ask p => ((w.desk.answer p).map .desk, { w with desk := w.desk.step p })
  | .transforms j => w.make (j.frames w.desk.table) .frames fun _ => w.shelf
  | .build names => w.make (chainFrame tree w.desk.table names) .frame fun _ => w.shelf
  | .getOrBuild key names =>
    w.make (w.shelf.getOrBuild tree w.desk.table key names) (.frame ·.1) (·.2)
  | .get key => ((w.shelf.get key).map .frame, w)
  | .contains key => (.ok (.holds (w.shelf.contains key)), w)
  | .entries => (.ok (.entries w.shelf.entries), w)

/-- The workshop after some requests. -/
def after (tree : Tree α) (w : Workshop α) (requests : List (Request α)) : Workshop α :=
  requests.foldl (fun w p => (w.handle tree p).2) w

/-- The answers to some requests, one after the other. -/
def answers (tree : Tree α) (w : Workshop α) :
    List (Request α) → List (Except (Fault α) (Answer α))
  | [] => []
  | p :: requests => (w.handle tree p).1 :: (w.handle tree p).2.answers tree requests

/-- **The keys under which frames were to be kept and are**, one for each such request that has been
answered. -/
def successes (tree : Tree α) (w : Workshop α) (requests : List (Request α)) : List ChainKey :=
  (List.zipWith Request.met requests (w.answers tree requests)).flatten

variable {tree : Tree α} {w w' : Workshop α} {p : Request α} {key : ChainKey} {f : FrameExpr α}
  {asked : List String} {made : List ChainKey}

/-! ### What a request does -/

omit [Scalar α] in
theorem make_of_ok {β : Type} {b : Builder α β} {x : β} {n : Nat} (h : b w.desk.next = .ok (x, n))
    (answer : β → Answer α) (shelf : β → FrameTable α) :
    w.make b answer shelf = (.ok (answer x), ⟨⟨w.desk.table, n⟩, shelf x⟩) := by
  rw [make, h]

omit [Scalar α] in
theorem make_of_error {β : Type} {b : Builder α β} {fault : Fault α}
    (h : b w.desk.next = .error fault) (answer : β → Answer α) (shelf : β → FrameTable α) :
    w.make b answer shelf = (.error fault, w) := by
  rw [make, h]

/-- **A frame that is kept is given again**, whatever joints are named. -/
theorem handle_getOrBuild_of_get (h : w.shelf.get key = .ok f) (names : List String) :
    w.handle tree (.getOrBuild key names) = (.ok (.frame f), w) := by
  have hkept : w.shelf.getOrBuild tree w.desk.table key names w.desk.next =
      .ok ((f, w.shelf), w.desk.next) := by
    rw [FrameTable.getOrBuild, FrameTable.get_eq_ok_iff.1 h]
    rfl
  rw [handle, make_of_ok hkept]

/-- What is not kept yet is kept once it has been built. -/
theorem handle_getOrBuild_of_chainFrame (hkey : w.shelf.contains key = false) {names : List String}
    {n : Nat} (h : chainFrame tree w.desk.table names w.desk.next = .ok (f, n)) :
    w.handle tree (.getOrBuild key names) =
      (.ok (.frame f), ⟨⟨w.desk.table, n⟩, ⟨w.shelf.entries ++ [(key, f)]⟩⟩) := by
  have hkept : w.shelf.getOrBuild tree w.desk.table key names w.desk.next =
      .ok ((f, ⟨w.shelf.entries ++ [(key, f)]⟩), n) := by
    rw [FrameTable.getOrBuild_of_not_contains hkey, h]
    rfl
  rw [handle, make_of_ok hkept]

/-- And if it cannot be built it is not kept. -/
theorem handle_getOrBuild_of_error (hkey : w.shelf.contains key = false) {names : List String}
    {fault : Fault α} (h : chainFrame tree w.desk.table names w.desk.next = .error fault) :
    w.handle tree (.getOrBuild key names) = (.error fault, w) := by
  have hkept : w.shelf.getOrBuild tree w.desk.table key names w.desk.next = .error fault := by
    rw [FrameTable.getOrBuild_of_not_contains hkey, h]
    rfl
  rw [handle, make_of_error hkept]

/-- **What a request can do to a workshop**, if variables are to be handed out for some joints and
frames are kept under some keys from now on. -/
inductive Effect (w : Workshop α) : List String → List ChainKey → Workshop α → Prop where
  /-- Something is asked at the desk. -/
  | asked (p : Variables.Request) : Effect w p.assigned [] { w with desk := w.desk.step p }
  /-- Nodes are built, or nothing is. -/
  | built {next : Nat} (h : w.desk.next ≤ next) : Effect w [] [] ⟨⟨w.desk.table, next⟩, w.shelf⟩
  /-- A frame is given that is kept already. -/
  | given {key : ChainKey} (h : w.shelf.contains key = true) : Effect w [] [key] w
  /-- A frame is built and is kept. -/
  | kept {key : ChainKey} {f : FrameExpr α} {next : Nat} (h : w.shelf.contains key = false)
      (hid : w.desk.next ≤ f.id ∧ f.id < next) :
    Effect w [] [key] ⟨⟨w.desk.table, next⟩, ⟨w.shelf.entries ++ [(key, f)]⟩⟩

/-- **Nothing else is ever done.** -/
theorem effect_handle (tree : Tree α) (w : Workshop α) (p : Request α) :
    Effect w p.assigned (p.met (w.handle tree p).1) (w.handle tree p).2 := by
  cases p with
  | ask p => exact .asked p
  | transforms j =>
    rcases h : j.frames w.desk.table w.desk.next with fault | ⟨fs, n⟩
    · rw [handle, make_of_error h]
      exact .built (Nat.le_refl _)
    · rw [handle, make_of_ok h]
      rw [Joint.frames_eq] at h
      obtain ⟨p, -, h⟩ := exists_of_map_eq_ok h
      obtain ⟨-, rfl⟩ := Prod.mk.inj h
      exact .built (Nat.le_add_right _ _)
  | build names =>
    rcases h : chainFrame tree w.desk.table names w.desk.next with fault | ⟨f, n⟩
    · rw [handle, make_of_error h]
      exact .built (Nat.le_refl _)
    · rw [handle, make_of_ok h]
      exact .built ((id_of_chainFrame h).1.trans (id_of_chainFrame h).2.le)
  | getOrBuild key names =>
    rcases hkey : w.shelf.contains key with _ | _
    · rcases h : chainFrame tree w.desk.table names w.desk.next with fault | ⟨f, n⟩
      · rw [handle_getOrBuild_of_error hkey h]
        exact .built (Nat.le_refl _)
      · rw [handle_getOrBuild_of_chainFrame hkey h]
        exact .kept hkey (id_of_chainFrame h)
    · obtain ⟨f, hf⟩ := FrameTable.exists_get hkey
      rw [handle_getOrBuild_of_get hf]
      exact .given hkey
  | get | contains | entries => exact .built (Nat.le_refl _)

/-! ### What is kept -/

/-- **A workshop in order.** So is its desk, and on its shelf are frames for the chains that were
built to be kept, with different numbers, none of which is free. -/
structure Kept (w : Workshop α) (asked : List String) (made : List ChainKey) : Prop where
  desk : w.desk.Kept asked
  keys_eq : w.shelf.keys = made.eraseDups
  below : ∀ e ∈ w.shelf.entries, e.2.id < w.desk.next
  nodup : (w.shelf.entries.map (·.2.id)).Nodup

omit [Scalar α] in
theorem kept_opened (first : Nat) : Kept (opened first : Workshop α) [] [] where
  desk := Variables.Desk.kept_opened first
  keys_eq := rfl
  below _ he := absurd he List.not_mem_nil
  nodup := List.nodup_nil

omit [Scalar α] in
theorem Kept.mem_made_iff (h : w.Kept asked made) :
    w.shelf.contains key = true ↔ key ∈ made := by
  rw [FrameTable.contains_iff_mem_keys, h.keys_eq, List.mem_eraseDups]

omit [Scalar α] in
/-- **Whatever can be done to a workshop leaves it in order.** -/
theorem Kept.effect (h : w.Kept asked made) {names : List String} {keys : List ChainKey}
    (he : Effect w names keys w') : w'.Kept (asked ++ names) (made ++ keys) := by
  -- A desk stays in order when some numbers are taken for other nodes.
  have hdesk : ∀ {next}, w.desk.next ≤ next → Variables.Desk.Kept ⟨w.desk.table, next⟩ asked :=
    fun hle => ⟨h.desk.serve, fun v hv => (h.desk.below v hv).trans_le hle, h.desk.nodup⟩
  cases he with
  | asked p =>
    rw [List.append_nil]
    exact ⟨h.desk.step p, h.keys_eq, fun e he => (h.below e he).trans_le (w.desk.next_le_step p),
      h.nodup⟩
  | built hle =>
    rw [List.append_nil, List.append_nil]
    exact ⟨hdesk hle, h.keys_eq, fun e he => (h.below e he).trans_le hle, h.nodup⟩
  | given hkey =>
    rw [List.append_nil]
    exact { h with keys_eq := by rw [h.keys_eq, eraseDups_concat_of_mem (h.mem_made_iff.1 hkey)] }
  | @kept key f next hkey hid =>
    rw [List.append_nil]
    have hnew : key ∉ made := fun hmem => by simp [h.mem_made_iff.2 hmem] at hkey
    refine ⟨hdesk (hid.1.trans hid.2.le), ?_, fun e he => ?_,
      nodup_map_concat_of_lt h.nodup fun e he => (h.below e he).trans_le hid.1⟩
    · rw [eraseDups_concat_of_not_mem hnew, ← h.keys_eq, FrameTable.keys, List.map_append]
      rfl
    · rcases List.mem_append.1 he with he | he
      · exact (h.below e he).trans (hid.1.trans_lt hid.2)
      · rw [List.mem_singleton.1 he]
        exact hid.2

omit [Scalar α] in
/-- A frame that is kept is kept for good. -/
theorem Effect.get {names : List String} {keys : List ChainKey} (he : Effect w names keys w')
    (h : w.shelf.get key = .ok f) : w'.shelf.get key = .ok f := by
  cases he with
  | asked | built | given => exact h
  | kept => exact FrameTable.get_append h _

/-- **A frame that is answered** is kept from then on, if it was sought under a key. -/
theorem get_of_handle (hp : p.sought? = some key) (h : (w.handle tree p).1 = .ok (.frame f)) :
    (w.handle tree p).2.shelf.get key = .ok f := by
  cases p with
  | get key' =>
    obtain rfl := Option.some.inj hp
    obtain ⟨g, hg, hframe⟩ := exists_of_map_eq_ok h
    obtain rfl := Answer.frame.inj hframe
    exact hg
  | getOrBuild key' names =>
    obtain rfl := Option.some.inj hp
    rcases hkey : w.shelf.contains key' with _ | _
    · rcases hmade : chainFrame tree w.desk.table names w.desk.next with fault | ⟨g, n⟩
      · rw [handle_getOrBuild_of_error hkey hmade] at h
        cases h
      · rw [handle_getOrBuild_of_chainFrame hkey hmade] at h ⊢
        obtain rfl := Answer.frame.inj (Except.ok.inj h)
        exact FrameTable.get_concat hkey g
    · obtain ⟨g, hg⟩ := FrameTable.exists_get hkey
      rw [handle_getOrBuild_of_get hg] at h ⊢
      obtain rfl := Answer.frame.inj (Except.ok.inj h)
      exact hg
  | ask | transforms | build | contains | entries => cases hp

/-- And whoever seeks it under that key is given it. -/
theorem handle_of_get (hp : p.sought? = some key) (h : w.shelf.get key = .ok f) :
    (w.handle tree p).1 = .ok (.frame f) := by
  cases p with
  | get key' =>
    obtain rfl := Option.some.inj hp
    rw [handle, h]
    rfl
  | getOrBuild key' names =>
    obtain rfl := Option.some.inj hp
    rw [handle_getOrBuild_of_get h]
  | ask | transforms | build | contains | entries => cases hp

/-! ### The whole run -/

/-- **All requests leave the workshop in order.** -/
theorem Kept.after (h : w.Kept asked made) (tree : Tree α) (requests : List (Request α)) :
    (w.after tree requests).Kept (asked ++ requests.flatMap Request.assigned)
      (made ++ w.successes tree requests) := by
  induction requests generalizing w asked made with
  | nil =>
    rw [List.flatMap_nil, List.append_nil]
    exact (List.append_nil made).symm ▸ h
  | cons p requests ih =>
    have hrest := ih (h.effect (effect_handle tree w p))
    rw [List.append_assoc, List.append_assoc, ← List.flatMap_cons] at hrest
    exact hrest

theorem get_after (h : w.shelf.get key = .ok f) (tree : Tree α) (requests : List (Request α)) :
    (w.after tree requests).shelf.get key = .ok f := by
  induction requests generalizing w with
  | nil => exact h
  | cons p requests ih => exact ih ((effect_handle tree w p).get h)

/-- **Every answer is one to a request**, at the time when its turn came. -/
theorem getElem?_answers (tree : Tree α) (w : Workshop α) (requests : List (Request α)) (i : Nat) :
    (w.answers tree requests)[i]? =
      requests[i]?.map fun p => ((w.after tree (requests.take i)).handle tree p).1 := by
  induction requests generalizing w i with
  | nil => rfl
  | cons p requests ih =>
    cases i with
    | zero => rfl
    | succ i => exact ih (w.handle tree p).2 i

/-- **Whoever seeks a frame that is kept is given it**, early or late. -/
theorem answers_of_get {requests : List (Request α)} {k : Nat} (hk : requests[k]? = some p)
    (hp : p.sought? = some key) (h : w.shelf.get key = .ok f) :
    (w.answers tree requests)[k]? = some (.ok (.frame f)) := by
  rw [getElem?_answers, hk, Option.map_some, handle_of_get hp (get_after h tree _)]

/-- So once a frame has been answered, it is answered again. -/
theorem answers_of_answers {requests : List (Request α)} {i k : Nat} {p' : Request α}
    (hle : i ≤ k) (hi : requests[i]? = some p) (hp : p.sought? = some key)
    (hk : requests[k]? = some p') (hp' : p'.sought? = some key)
    (h : (w.answers tree requests)[i]? = some (.ok (.frame f))) :
    (w.answers tree requests)[k]? = some (.ok (.frame f)) := by
  induction requests generalizing w i k with
  | nil => cases hi
  | cons q requests ih =>
    cases k with
    | zero =>
      obtain rfl := Nat.le_zero.1 hle
      exact h
    | succ k =>
      cases i with
      | zero =>
        obtain rfl := Option.some.inj hi
        change ((w.handle tree q).2.answers tree requests)[k]? = _
        exact answers_of_get hk hp' (get_of_handle hp (Option.some.inj h))
      | succ i => exact ih (Nat.le_of_succ_le_succ hle) hi hk h

/-- A frame that has been answered at any time is kept in the end. -/
theorem get_of_answers {requests : List (Request α)} {i : Nat}
    (hi : requests[i]? = some p) (hp : p.sought? = some key)
    (h : (w.answers tree requests)[i]? = some (.ok (.frame f))) :
    (w.after tree requests).shelf.get key = .ok f := by
  induction requests generalizing w i with
  | nil => cases hi
  | cons q requests ih =>
    cases i with
    | zero =>
      obtain rfl := Option.some.inj hi
      exact get_after (get_of_handle hp (Option.some.inj h)) tree requests
    | succ i => exact ih hi h

omit [Scalar α] in
/-- In one workshop frames kept under different keys have different numbers. -/
theorem Kept.id_ne (h : w.Kept asked made) {key' : ChainKey} {f' : FrameExpr α}
    (hf : w.shelf.get key = .ok f) (hf' : w.shelf.get key' = .ok f') (hne : key ≠ key') :
    f.id ≠ f'.id := by
  intro hid
  have hentries := List.inj_on_of_nodup_map h.nodup (FrameTable.mem_entries_of_get hf)
    (FrameTable.mem_entries_of_get hf') hid
  exact hne (Prod.mk.inj hentries).1

/-! ### What is answered at one moment -/

/-- **How a workshop shows itself** to whoever asks, if frames were to be kept under some keys and
could be built. -/
structure Shows (tree : Tree α) (w : Workshop α) (made : List ChainKey) : Prop where
  entries : ∃ es, (w.handle tree .entries).1 = .ok (.entries es) ∧
    es.map (·.1) = made.eraseDups ∧ (es.map (·.2.id)).Nodup
  contains : ∀ key, (w.handle tree (.contains key)).1 = .ok (.holds (decide (key ∈ made)))
  given : ∀ key ∈ made, ∃ f, (w.handle tree (.get key)).1 = .ok (.frame f) ∧
    ∀ names, w.handle tree (.getOrBuild key names) = (.ok (.frame f), w)
  unknown : ∀ key, key ∉ made →
    (w.handle tree (.get key)).1 = .error (.unknownChain key.1 key.2) ∧
      (Fault.unknownChain key.1 key.2 : Fault α).kind = .notFound

/-- **A workshop in order shows itself as it should.** -/
theorem Kept.shows (h : w.Kept asked made) (tree : Tree α) : w.Shows tree made where
  entries := ⟨w.shelf.entries, rfl, h.keys_eq, h.nodup⟩
  contains key := by
    rw [handle, Bool.eq_iff_iff.2 (h.mem_made_iff.trans decide_eq_true_iff.symm)]
  given key hkey := by
    obtain ⟨f, hf⟩ := FrameTable.exists_get (h.mem_made_iff.2 hkey)
    exact ⟨f, handle_of_get rfl hf, handle_getOrBuild_of_get hf⟩
  unknown key hkey := by
    have hnone : w.shelf.contains key = false := by
      rw [← Bool.not_eq_true]
      exact h.mem_made_iff.not.2 hkey
    rw [handle, FrameTable.get, FrameTable.lookup_of_not_contains hnone]
    exact ⟨rfl, rfl⟩

/-! ### Asking again -/

/-- **Whether a chain is given** is a matter of whether it can be built, unless it is kept. -/
theorem handle_of_joints (tree : Tree α) (w : Workshop α) {names : List String}
    (hp : p.joints? = some names) :
    (∃ f, (w.handle tree p).1 = .ok (.frame f)) ∨
    ∃ fault, chainFrame tree w.desk.table names w.desk.next = .error fault ∧
      (w.handle tree p).1 = .error fault := by
  cases p with
  | build names' =>
    obtain rfl := Option.some.inj hp
    rcases hmade : chainFrame tree w.desk.table names' w.desk.next with fault | ⟨f, n⟩
    · exact Or.inr ⟨fault, rfl, by rw [handle, make_of_error hmade]⟩
    · exact Or.inl ⟨f, by rw [handle, make_of_ok hmade]⟩
  | getOrBuild key names' =>
    obtain rfl := Option.some.inj hp
    rcases hkey : w.shelf.contains key with _ | _
    · rcases hmade : chainFrame tree w.desk.table names' w.desk.next with fault | ⟨f, n⟩
      · exact Or.inr ⟨fault, rfl, by rw [handle_getOrBuild_of_error hkey hmade]⟩
      · exact Or.inl ⟨f, by rw [handle_getOrBuild_of_chainFrame hkey hmade]⟩
    · obtain ⟨f, hf⟩ := FrameTable.exists_get hkey
      exact Or.inl ⟨f, by rw [handle_getOrBuild_of_get hf]⟩
  | ask | transforms | get | contains | entries => cases hp

omit [Scalar α] in
theorem Kept.contains_iff (h : w.Kept asked made) {name : String} :
    w.desk.table.contains name = true ↔ name ∈ asked :=
  Variables.contains_iff_mem_names.trans h.desk.serve.mem_names

/-- **What could be built and is not lacks a variable.** -/
theorem Kept.exists_unregistered (h : w.Kept asked made) {names : List String} {fault : Fault α}
    (hp : p.joints? = some names) (hnames : Buildable tree names)
    (hfault : (w.handle tree p).1 = .error fault) :
    ∃ name ∈ names, name ∉ asked ∧ fault = .unregistered name := by
  rcases handle_of_joints tree w hp with ⟨f, hok⟩ | ⟨fault', hmade, herr⟩
  · rw [hok] at hfault
    cases hfault
  · obtain rfl := Except.error.inj (herr.symm.trans hfault)
    rw [chainFrame_eq] at hmade
    have hplans := of_map_eq_error hmade
    rcases hnames.exists_planOf_or w.desk.table with ⟨ps, hok⟩ | ⟨j, -, hj, -, hnone, herr⟩
    · exact absurd (hok.symm.trans hplans) (by simp)
    · refine ⟨j.name, hj, fun hmem => ?_, Except.error.inj (hplans.symm.trans herr)⟩
      exact absurd ((h.contains_iff.2 hmem).symm.trans hnone) (by simp)

/-- **With all variables that it takes it is built.** -/
theorem Kept.exists_frame (h : w.Kept asked made) {names : List String}
    (hp : p.joints? = some names) (hnames : Buildable tree names)
    (hall : ∀ j, tree.joint j.name = .ok j → j.name ∈ names → j.isMoveable = true →
      j.name ∈ asked) :
    ∃ f, (w.handle tree p).1 = .ok (.frame f) := by
  rcases handle_of_joints tree w hp with hok | ⟨fault, hmade, -⟩
  · exact hok
  · obtain ⟨ps, hps⟩ := hnames.exists_planOf fun j hj hname hmove =>
      h.contains_iff.2 (hall j hj hname hmove)
    rw [chainFrame_eq, hps] at hmade
    cases hmade

/-- **What fails changes nothing.** -/
theorem handle_of_error {fault : Fault α} (h : (w.handle tree p).1 = .error fault) :
    (w.handle tree p).2 = w := by
  have hmake : ∀ {β : Type} (b : Builder α β) (answer : β → Answer α) (shelf : β → FrameTable α),
      (w.make b answer shelf).1 = .error fault → (w.make b answer shelf).2 = w := by
    intro β b answer shelf hfails
    rcases hb : b w.desk.next with _ | ⟨x, n⟩
    · rw [make_of_error hb]
    · rw [make_of_ok hb] at hfails
      cases hfails
  cases p with
  | ask p =>
    cases p with
    | assign => cases h
    | lookup | indexOf | names | contains | size => rfl
  | transforms | build | getOrBuild => exact hmake _ _ _ h
  | get | contains | entries => rfl

/-- **Frames keep their keys.** Whatever is asked, in whatever order and with whatever failures in
between, the answers at the end show the keys for which a frame was to be kept and could be built,
each once, in the order of the first success, with frames that have different numbers. What fails
changes nothing. Once a frame has been answered for a key, every request for that key is answered
with it, whatever joints it names and whatever variables have been handed out since, and requests
for other keys are answered with others. And if a chain that could be built is not, then one of its
joints had no variable, and the same request is answered once all its joints that move have one. -/
theorem shows_and_keeps_frames (tree : Tree α) (first : Nat) (requests : List (Request α)) :
    ((opened first).after tree requests).Shows tree ((opened first).successes tree requests) ∧
    (∀ (w : Workshop α) (p : Request α) (fault : Fault α),
      (w.handle tree p).1 = .error fault → (w.handle tree p).2 = w) ∧
    (∀ (i k : Nat) (p p' : Request α) (key key' : ChainKey) (f : FrameExpr α),
      requests[i]? = some p → p.sought? = some key →
      requests[k]? = some p' → p'.sought? = some key' →
      ((opened first).answers tree requests)[i]? = some (.ok (.frame f)) →
      (key = key' → i ≤ k → ((opened first).answers tree requests)[k]? = some (.ok (.frame f))) ∧
      ∀ f', ((opened first).answers tree requests)[k]? = some (.ok (.frame f')) → key ≠ key' →
        f.id ≠ f'.id) ∧
    ∀ (i : Nat) (p : Request α) (names : List String) (fault : Fault α),
      requests[i]? = some p → p.joints? = some names → Buildable tree names →
      ((opened first).answers tree requests)[i]? = some (.error fault) →
      (∃ name ∈ names, name ∉ (requests.take i).flatMap Request.assigned ∧
        fault = .unregistered name) ∧
      ((∀ j, tree.joint j.name = .ok j → j.name ∈ names → j.isMoveable = true →
          j.name ∈ requests.flatMap Request.assigned) →
        ∃ f, (((opened first).after tree requests).handle tree p).1 = .ok (.frame f)) := by
  have hkept := (kept_opened (α := α) first).after tree requests
  refine ⟨hkept.shows tree, fun w p fault => handle_of_error, ?_, ?_⟩
  · intro i k p p' key key' f hi hp hk hp' hf
    refine ⟨?_, fun f' hf' hne => ?_⟩
    · rintro rfl hle
      exact answers_of_answers hle hi hp hk hp' hf
    · exact hkept.id_ne (get_of_answers hi hp hf) (get_of_answers hk hp' hf') hne
  · intro i p names fault hi hp hnames hfault
    rw [getElem?_answers, hi, Option.map_some, Option.some.injEq] at hfault
    refine ⟨?_, fun hall => hkept.exists_frame hp hnames hall⟩
    exact ((kept_opened (α := α) first).after tree (requests.take i)).exists_unregistered hp hnames
      hfault

/-- The chain of the cart is asked for too early, then again, and later once more without joints. -/
def cartRequests : List (Request Float) :=
  [.getOrBuild ("rail", "cart") ["slide"], .ask (.assign "slide"),
    .getOrBuild ("rail", "cart") ["slide"], .getOrBuild ("cart", "mast") ["mount"],
    .get ("rail", "cart"), .getOrBuild ("rail", "cart") []]

/-- **The cart waits for its slide.** Then it has one frame whenever it is asked for, and the mast
on it has another. -/
theorem shows_and_keeps_frames_cart :
    ∃ (f f' : FrameExpr Float) (name : String),
      ((opened 0).answers Robot.cartTree cartRequests)[0]? = some (.error (.unregistered name)) ∧
      name = "slide" ∧
      ((opened 0).answers Robot.cartTree cartRequests)[2]? = some (.ok (.frame f)) ∧
      ((opened 0).answers Robot.cartTree cartRequests)[3]? = some (.ok (.frame f')) ∧
      ((opened 0).answers Robot.cartTree cartRequests)[5]? = some (.ok (.frame f)) ∧
      f.id ≠ f'.id ∧
      (∃ es, (((opened 0).after Robot.cartTree cartRequests).handle Robot.cartTree .entries).1 =
        .ok (.entries es) ∧ es.map (·.1) = [("rail", "cart"), ("cart", "mast")]) ∧
      ∃ g, (((opened 0).after Robot.cartTree cartRequests).handle Robot.cartTree
        (.getOrBuild ("rail", "cart") ["slide"])).1 = .ok (.frame g) := by
  obtain ⟨hshows, -, hsame, hagain⟩ := shows_and_keeps_frames Robot.cartTree 0 cartRequests
  have hf : ∃ f, ((opened 0).answers Robot.cartTree cartRequests)[2]? = some (.ok (.frame f)) :=
    ⟨_, rfl⟩
  have hf' : ∃ f', ((opened 0).answers Robot.cartTree cartRequests)[3]? = some (.ok (.frame f')) :=
    ⟨_, rfl⟩
  have hslide : Buildable Robot.cartTree ["slide"] := ⟨⟨[⟨0, 0, "slide"⟩]⟩, 1, _, rfl⟩
  obtain ⟨f, hf⟩ := hf
  obtain ⟨f', hf'⟩ := hf'
  obtain ⟨es, hes, hkeys, -⟩ := hshows.entries
  obtain ⟨⟨name, hname, -, hfault⟩, hlater⟩ :=
    hagain 0 _ ["slide"] (.unregistered "slide") rfl rfl hslide rfl
  refine ⟨f, f', name, ?_, List.mem_singleton.1 hname, hf, hf', ?_, ?_,
    ⟨es, hes, hkeys.trans (by decide +kernel)⟩, ?_⟩
  · rw [← hfault]
    rfl
  · exact (hsame 2 5 _ _ _ _ _ rfl rfl rfl rfl hf).1 rfl (by decide)
  · exact (hsame 2 3 _ _ _ _ _ rfl rfl rfl rfl hf).2 _ hf' (by decide)
  · refine hlater fun j _ hj _ => ?_
    rw [List.mem_singleton.1 hj]
    decide

end Workshop

end Linkage
