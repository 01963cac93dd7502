import Linkage.Proofs.Forward

/-!
# What a robot reads

The variables of a robot stand where they read, so a vector with one entry for each of them has
an entry for every variable, and in the place that the variable names
(`Linkage.Variables.Serve.exists_index_eq`, `Linkage.readInput_of_getElem?`). Nothing is
counted from the end of such a vector, and nothing is taken to the nearest place.

An input vector is mostly not thought of as a list. What is meant is a value for each joint, and
the list is arranged after the order in which the robot has met its joints
(`Linkage.Robot.arrange`). What is read for a joint is then the value meant for it, whatever its
place (`Linkage.Robot.read_arrange`).
-/

namespace Linkage

variable {α : Type}

/-! ### Places in a vector -/

theorem fitsWord_of_lt {i n : Nat} (hi : i < n) (hn : fitsWord n = true) : fitsWord i = true := by
  simp only [fitsWord, Bool.and_eq_true, decide_eq_true_eq] at hn ⊢
  omega

/-- **Within a vector** an index is the place that is read. -/
theorem inputPlace_of_lt {i length : Nat} (hi : i < length) : inputPlace length i = i := by
  simp only [inputPlace]
  split <;> omega

/-- **Within a vector** an index reads the entry in its place. -/
theorem readInput_of_getElem? {q : List α} {i : Nat} {x : α} (hx : q[i]? = some x)
    (hword : fitsWord q.length = true) : readInput q i = .ok x := by
  have hi : i < q.length := (List.getElem?_eq_some_iff.1 hx).1
  have hfits := fitsWord_of_lt hi hword
  rw [readInput, hfits, inputPlace_of_lt hi, hx]
  rfl

/-- **An index that is too large or too small** reads the entry at that end. -/
theorem exists_readInput {q : List α} (hq : q ≠ []) {i : Int} (hfits : fitsWord i = true) :
    ∃ x, readInput q i = .ok x := by
  have hplace : inputPlace q.length i < q.length := by
    have hpos := List.length_pos_iff.2 hq
    rw [inputPlace]
    omega
  refine ⟨q[inputPlace q.length i], ?_⟩
  rw [readInput, hfits, List.getElem?_eq_getElem hplace]
  rfl

/-- **Of the first entries of a vector** what is read is what is read of the vector. -/
theorem readInput_take {q : List α} {i n : Nat} (hi : i < n) (hn : n ≤ q.length) :
    readInput (q.take n) i = readInput q i := by
  have hlen : (q.take n).length = n := by
    rw [List.length_take]
    omega
  rw [readInput, readInput, hlen, inputPlace_of_lt hi, inputPlace_of_lt (by omega),
    List.getElem?_take_of_lt hi]

/-! ### Variables and their places -/

/-- A variable reads an entry that there is. -/
theorem Variables.Serve.exists_index_eq {vs : Variables} {asked : List String}
    (h : vs.Serve asked) {name : String} {v : Variable} (hv : vs.find? name = some v) :
    ∃ i < vs.size, v.index = (i : Nat) := by
  obtain ⟨i, hi, hget⟩ := List.getElem_of_mem (List.mem_of_find?_eq_some hv)
  exact ⟨i, hi, h.numbered i v (List.getElem?_eq_some_iff.2 ⟨hi, hget⟩)⟩

namespace Robot

/-- **A value for each joint**, arranged as the robot reads it. -/
def arrange (r : Robot α) (x : String → α) : List α := r.jointNames.map x

theorem length_arrange (r : Robot α) (x : String → α) : (r.arrange x).length = r.size := by
  rw [arrange, jointNames, Variables.names, List.map_map, List.length_map]
  rfl

variable [Scalar α] {name root : String} {joints : List (Joint α)} {extra : List String}
  {tree : Tree α} {requests : List ChainRequest} {weights thresholds : Settings α} {r : Robot α}

/-- **The variables of a robot** are those of the joints asked for. -/
theorem exists_serve_of_compile
    (h : compile tree root (.ok requests) weights thresholds = .ok r) :
    ∃ asked, r.inputs.Serve asked := by
  obtain ⟨keys, -, hr⟩ := aligned_of_compile h
  obtain ⟨paths, -, hserve, -⟩ := hr.joints
  exact ⟨paths.flatten, hserve⟩

omit [Scalar α] in
/-- What is read for a joint is what its variable reads. -/
theorem read_eq_readInput {joint : String} {v : Variable} (hv : r.joint joint = .ok v)
    (q : List α) : r.inputs.read q joint = readInput q v.index := by
  rw [Variables.read, show r.inputs.lookup joint = .ok v from hv, ok_bind]

/-- **What is read for a joint that has a variable** is the entry in the place that its variable
names. -/
theorem exists_read_eq (h : compile tree root (.ok requests) weights thresholds = .ok r)
    {j : Joint α} (hj : j.IsFramed r.inputs) (hmove : j.isMoveable = true) {q : List α}
    (hq : q.length = r.size) (hword : fitsWord q.length = true) :
    ∃ v x, ∃ i : Nat, r.joint j.name = .ok v ∧ v.index = i ∧ q[i]? = some x ∧
      r.inputs.read q j.name = .ok x := by
  obtain ⟨asked, hserve⟩ := exists_serve_of_compile h
  obtain ⟨v, hv⟩ := hj.input hmove
  obtain ⟨i, hi, hindex⟩ := hserve.exists_index_eq hv
  have hplace : i < q.length := hq ▸ hi
  have hentry : q[i]? = some q[i] := List.getElem?_eq_getElem hplace
  refine ⟨v, _, i, joint_eq_ok_iff.2 hv, hindex, hentry, ?_⟩
  rw [read_eq_readInput (joint_eq_ok_iff.2 hv), hindex]
  exact readInput_of_getElem? hentry hword

/-- **What is read for a joint** is the value that was meant for it. -/
theorem read_arrange (h : compile tree root (.ok requests) weights thresholds = .ok r)
    (hword : fitsWord r.size = true) {joint : String} (hjoint : joint ∈ r.jointNames)
    (x : String → α) : r.inputs.read (r.arrange x) joint = .ok (x joint) := by
  obtain ⟨asked, hserve⟩ := exists_serve_of_compile h
  obtain ⟨i, hi⟩ := List.mem_iff_getElem?.1 hjoint
  obtain ⟨v, hv, hindex⟩ := hserve.find?_of_getElem? hi
  have hentry : (r.arrange x)[i]? = some (x joint) := by
    rw [arrange, List.getElem?_map, hi, Option.map_some]
  rw [read_eq_readInput (joint_eq_ok_iff.2 hv), hindex]
  exact readInput_of_getElem? hentry (by rw [length_arrange, hword])

/-- **The frames of a robot on a tree made from joints.** -/
theorem exists_frame_of_compile (htree : Tree.ofJoints name joints extra = .ok tree)
    (h : compile tree root (.ok requests) weights thresholds = .ok r) {key : ChainKey}
    (hkey : key ∈ r.chains) :
    ∃ f js, r.frame key.1 key.2 = .ok f ∧ Leads joints key.1 js key.2 ∧
      (∀ j ∈ js, j.IsFramed r.inputs) ∧
      ∀ q, ((f.evaluate q).inPass .new).1 = chainValue (r.inputs.read q) js := by
  have hframe := (traced_of_compile h).exists_frame (Tree.isRooted_of_ofJoints htree) hkey
  obtain ⟨top, -, -, rfl⟩ := Tree.ofJoints_eq_ok_iff.1 htree
  exact hframe

end Robot

end Linkage
