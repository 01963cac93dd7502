import Linkage.Description
import Linkage.Proofs.Sequences

/-!
# What is reported of a description

A description can be wrong in many places at once, and in ways that different readers
notice, but only one fault comes out. Which one is told here without running the readers.

A joint is put to a list of *checks* (`Linkage.Description.Check`), one for each thing that
can be wrong with it. What a check finds (`Linkage.Description.Check.Finds`) is said of the
element alone, whether or not anything else is wrong with it, so that all faults of a
joint can be spoken of side by side; the one that comes out is what the first check to
find something finds. The same pattern, `Linkage.IsFirst`, picks the word within a vector
and the joint within the description. The links come before all of it.

## Main results

* `Linkage.Description.faultOf?_readJoint`: reading a joint runs its checks in order.
* `Linkage.Description.ofElement_outcome`: what comes of any element.
-/

namespace Linkage

namespace Description

open Markup

/-! ### What an element says -/

/-- The text of a word is a number. -/
def IsNumber (text : String) : Prop := ∃ x, Decimal.read? text = some x

/-- An attribute is not there, or empty. -/
def Lacks (place : Option Element) (key : String) : Prop :=
  ∀ text, place.bind (·.attribute? key) = some text → text = ""

/-- The name of a link or a joint. -/
def nameOf (e : Element) : String := (e.attribute? "name").getD ""

/-- The type of a joint, by name. -/
def typeOf (e : Element) : String := (e.attribute? "type").getD "unknown"

/-- **The axis that a joint gives**, before its length is taken out of it. -/
inductive GivesAxis (e : Element) : Vec3 Float → Prop
  /-- The joint gives none. -/
  | default (h : e.child? "axis" = none) : GivesAxis e ⟨1, 0, 0⟩
  /-- The joint spells one. -/
  | spelled {place : Element} {x y z : Float} (h : e.child? "axis" = some place)
      (hwords : List.Forall₂ (fun word x => Decimal.read? word = some x)
        (Text.words ((place.attribute? "xyz").getD "1 0 0")) [x, y, z]) : GivesAxis e ⟨x, y, z⟩

/-! ### The checks of a joint -/

/-- **What a joint is looked through for.** -/
inductive Check where
  /-- A name. -/
  | name
  /-- The link above. -/
  | parent
  /-- The link below. -/
  | child
  /-- Three numbers in an attribute of an element inside the joint. -/
  | vector (tag key default : String)
  /-- An axis with a length. -/
  | length
  /-- A number in an attribute of the limits. -/
  | limit (key : String)

namespace Check

/-- **The checks in order.** -/
def inOrder : List Check :=
  [name, parent, child, vector "origin" "xyz" "0 0 0", vector "origin" "rpy" "0 0 0",
    vector "axis" "xyz" "1 0 0", length, limit "lower", limit "upper", limit "velocity",
    limit "effort"]

/-- **What a check finds wrong with a joint**, whatever else is wrong with it. -/
inductive Finds (e : Element) : Check → Fault Float → Prop
  | name (h : Lacks (some e) "name") : Finds e name .unnamedJoint
  | parent (h : Lacks (e.child? "parent") "link") : Finds e parent (.noParentOf (nameOf e))
  | child (h : Lacks (e.child? "child") "link") : Finds e child (.noChildOf (nameOf e))
  /-- A word of a vector is no number, and those in front of it are. -/
  | word {tag key default : String} {place : Element} {word : String}
      (hplace : e.child? tag = some place)
      (hword : IsFirst (fun word => ¬IsNumber word)
        (Text.words ((place.attribute? key).getD default)) word) :
      Finds e (vector tag key default) (.notNumeric word)
  /-- All words of a vector are numbers, but there are not three of them. -/
  | count {tag key default text : String} {place : Element} (hplace : e.child? tag = some place)
      (htext : (place.attribute? key).getD default = text)
      (hwords : ∀ word ∈ Text.words text, IsNumber word)
      (hcount : (Text.words text).length ≠ 3) :
      Finds e (vector tag key default) (.malformedVector (nameOf e) text)
  /-- A joint that can move has an axis without length. -/
  | length {axis : Vec3 Float} (htype : typeOf e ≠ "fixed") (haxis : GivesAxis e axis)
      (h : axis.norm < leastAxis) : Finds e length (.zeroAxis (nameOf e))
  /-- A limit is given and no number. -/
  | limit {key text : String} {place : Element} (hplace : e.child? "limit" = some place)
      (htext : place.attribute? key = some text) (h : ¬IsNumber text) :
      Finds e (limit key) (.notNumeric text)

/-- **What is wrong with a joint** as a whole: what the first check to find something
finds. -/
def Faulty (e : Element) (fault : Fault Float) : Prop :=
  ∃ check, IsFirst (fun check => ∃ fault, Finds e check fault) inOrder check ∧
    Finds e check fault

end Check

/-! ### The readers, one by one -/

/-- An attribute that is lacking is not read, -/
theorem given?_eq_none_iff {place : Option Element} {key : String} :
    given? place key = none ↔ Lacks place key := by
  rw [given?, Lacks]
  rcases place.bind (·.attribute? key) with _ | text
  · exact ⟨fun _ text h => absurd h.symm (Option.some_ne_none text), fun _ => rfl⟩
  · by_cases htext : text = ""
    · subst htext
      exact ⟨fun _ text h => (Option.some.inj h).symm, fun _ => rfl⟩
    · constructor
      · intro h
        simp at h
      · intro h
        exact absurd (h text rfl) htext

theorem not_lacks_of_given? {place : Option Element} {key text : String}
    (h : given? place key = some text) : ¬Lacks place key := by
  rw [← given?_eq_none_iff, h]
  exact Option.some_ne_none text

/-- and one that is read is as it stands there. -/
theorem eq_of_given? {place : Option Element} {key text : String}
    (h : given? place key = some text) : place.bind (·.attribute? key) = some text := by
  rw [given?] at h
  split at h
  · cases h
  · cases h
  · next hplace => exact hplace.trans h

theorem nameOf_eq_of_given? {e : Element} {name : String} (h : given? (some e) "name" = some name) :
    nameOf e = name := by
  have hname : e.attribute? "name" = some name := eq_of_given? h
  rw [nameOf, hname, Option.getD_some]

/-- The type of the name *fixed* is the one that does not move. -/
theorem ofName_eq_fixed_iff {s : String} : JointType.ofName s = .fixed ↔ s = "fixed" := by
  constructor
  · intro h
    rw [← JointType.name_ofName s, h, JointType.name]
  · rintro rfl
    rfl

theorem readNumber_eq_ok_iff {word : String} {x : Float} :
    readNumber word = .ok x ↔ Decimal.read? word = some x := by
  rw [readNumber]
  rcases Decimal.read? word with _ | y
  · constructor <;> (intro h; cases h)
  · exact ⟨fun h => congrArg some (Except.ok.inj h), fun h => congrArg Except.ok (Option.some.inj h)⟩

theorem faultOf?_readNumber_eq_some_iff {word : String} {fault : Fault Float} :
    faultOf? (readNumber word) = some fault ↔ ¬IsNumber word ∧ .notNumeric word = fault := by
  rw [readNumber, IsNumber]
  rcases Decimal.read? word with _ | x
  · constructor
    · intro h
      exact ⟨fun ⟨x, hx⟩ => absurd hx.symm (Option.some_ne_none x), Option.some.inj h⟩
    · rintro ⟨-, rfl⟩
      rfl
  · constructor
    · intro h
      cases h
    · rintro ⟨h, -⟩
      exact absurd ⟨x, rfl⟩ h

theorem readNumbers_eq_mapM (words : List String) : readNumbers words = words.mapM readNumber := by
  induction words with
  | nil => rfl
  | cons word words ih => rw [readNumbers, ih, List.mapM_cons]

/-- Three numbers as a vector. -/
def three (joint text : String) : List Float → Read (Vec3 Float)
  | [x, y, z] => return ⟨x, y, z⟩
  | _ => .error (.malformedVector joint text)

/-- A vector is read in two steps: first the words, then their number. -/
theorem readVector_eq_bind (joint text : String) :
    readVector joint text = readNumbers (Text.words text) >>= three joint text := rfl

theorem three_eq_ok_iff {joint text : String} {xs : List Float} {v : Vec3 Float} :
    three joint text xs = .ok v ↔ xs = [v.x, v.y, v.z] := by
  constructor
  · intro h
    unfold three at h
    split at h
    · obtain rfl := Except.ok.inj h
      rfl
    · cases h
  · rintro rfl
    rfl

theorem faultOf?_three_eq_some_iff {joint text : String} {xs : List Float} {fault : Fault Float} :
    faultOf? (three joint text xs) = some fault ↔
      xs.length ≠ 3 ∧ .malformedVector joint text = fault := by
  unfold three
  split
  · constructor
    · intro h
      cases h
    · rintro ⟨h, -⟩
      exact absurd rfl h
  · next hxs =>
    refine ⟨fun h => ⟨fun hlength => ?_, Option.some.inj h⟩, fun h => congrArg some h.2⟩
    obtain ⟨x, y, z, rfl⟩ := List.length_eq_three.1 hlength
    exact hxs x y z rfl

theorem readNumbers_eq_ok_iff {words : List String} {xs : List Float} :
    readNumbers words = .ok xs ↔
      List.Forall₂ (fun word x => Decimal.read? word = some x) words xs := by
  rw [readNumbers_eq_mapM, mapM_eq_ok_iff]
  simp only [readNumber_eq_ok_iff]

theorem readVector_eq_ok_iff {joint text : String} {v : Vec3 Float} :
    readVector joint text = .ok v ↔
      List.Forall₂ (fun word x => Decimal.read? word = some x) (Text.words text)
        [v.x, v.y, v.z] := by
  rw [← readNumbers_eq_ok_iff, readVector_eq_bind]
  constructor
  · intro h
    obtain ⟨xs, hxs, h⟩ := exists_of_bind_eq_ok h
    rwa [three_eq_ok_iff.1 h] at hxs
  · intro h
    rw [h, ok_bind]
    rfl

/-- What is wrong with some words is the first that is no number. -/
theorem faultOf?_readNumbers_eq_some_iff {words : List String} {fault : Fault Float} :
    faultOf? (readNumbers words) = some fault ↔
      ∃ word, IsFirst (fun word => ¬IsNumber word) words word ∧ .notNumeric word = fault := by
  have hfails : ∀ word, (∃ fault, faultOf? (readNumber word) = some fault) ↔ ¬IsNumber word :=
    fun word => ⟨fun ⟨_, h⟩ => (faultOf?_readNumber_eq_some_iff.1 h).1,
      fun h => ⟨_, faultOf?_readNumber_eq_some_iff.2 ⟨h, rfl⟩⟩⟩
  rw [readNumbers_eq_mapM, faultOf?_mapM, findSome?_eq_some_iff_isFirst]
  refine exists_congr fun word => ?_
  rw [isFirst_congr hfails, faultOf?_readNumber_eq_some_iff]
  exact ⟨fun ⟨hfirst, _, h⟩ => ⟨hfirst, h⟩, fun ⟨hfirst, h⟩ => ⟨hfirst, hfirst.holds, h⟩⟩

theorem faultOf?_readNumbers_eq_none_iff {words : List String} :
    faultOf? (readNumbers words) = none ↔ ∀ word ∈ words, IsNumber word := by
  rw [readNumbers_eq_mapM, faultOf?_mapM, List.findSome?_eq_none_iff]
  simp only [faultOf?_eq_none_iff, readNumber_eq_ok_iff, IsNumber]

/-- **What is wrong with a vector** is a word, or else the number of words. -/
theorem faultOf?_readVector_eq_some_iff {joint text : String} {fault : Fault Float} :
    faultOf? (readVector joint text) = some fault ↔
      (∃ word, IsFirst (fun word => ¬IsNumber word) (Text.words text) word ∧
        .notNumeric word = fault) ∨
      ((∀ word ∈ Text.words text, IsNumber word) ∧ (Text.words text).length ≠ 3 ∧
        .malformedVector joint text = fault) := by
  rw [readVector_eq_bind, ← faultOf?_readNumbers_eq_some_iff, ← faultOf?_readNumbers_eq_none_iff]
  rcases hread : readNumbers (Text.words text) with fault' | xs
  · refine ⟨Or.inl, ?_⟩
    rintro (h | ⟨h, -⟩)
    · exact h
    · cases h
  · rw [ok_bind, faultOf?_three_eq_some_iff, (readNumbers_eq_ok_iff.1 hread).length_eq]
    constructor
    · intro h
      exact Or.inr ⟨rfl, h⟩
    · rintro (h | ⟨-, h⟩)
      · cases h
      · exact h

/-- The axis of a joint, before its length is taken out of it. -/
def givenAxis (e : Element) : Read (Vec3 Float) :=
  match e.child? "axis" with
  | none => .ok ⟨1, 0, 0⟩
  | some place => readVector (nameOf e) ((place.attribute? "xyz").getD "1 0 0")

theorem givenAxis_eq_ok_iff {e : Element} {axis : Vec3 Float} :
    givenAxis e = .ok axis ↔ GivesAxis e axis := by
  rw [givenAxis]
  split
  · next hplace =>
    constructor
    · intro h
      obtain rfl := Except.ok.inj h
      exact .default hplace
    · intro h
      cases h with
      | default => rfl
      | spelled h => cases hplace.symm.trans h
  · next place hplace =>
    rw [readVector_eq_ok_iff]
    constructor
    · intro h
      exact .spelled hplace h
    · intro h
      cases h with
      | default h => cases hplace.symm.trans h
      | spelled h hwords =>
        obtain rfl := Option.some.inj (hplace.symm.trans h)
        exact hwords

/-- An axis is read in two steps: first as it is given, then its length. -/
theorem readAxis_eq_bind (e : Element) (type : JointType) :
    readAxis (nameOf e) type (e.child? "axis") =
      givenAxis e >>= fun axis =>
        if axis.norm < leastAxis then
          if type = .fixed then .ok axis else .error (.zeroAxis (nameOf e))
        else .ok axis.unit := by
  unfold readAxis givenAxis
  cases e.child? "axis" <;> rfl

namespace Check

/-! ### The checks carried out -/

open Classical in
/-- What a check finds, worked out with the readers. -/
noncomputable def finding? (e : Element) : Check → Option (Fault Float)
  | name => if Lacks (some e) "name" then some .unnamedJoint else none
  | parent => if Lacks (e.child? "parent") "link" then some (.noParentOf (nameOf e)) else none
  | child => if Lacks (e.child? "child") "link" then some (.noChildOf (nameOf e)) else none
  | vector tag key default =>
    (e.child? tag).bind fun place =>
      faultOf? (readVector (nameOf e) ((place.attribute? key).getD default))
  | length =>
    if typeOf e ≠ "fixed" ∧ ∃ axis, GivesAxis e axis ∧ axis.norm < leastAxis then
      some (.zeroAxis (nameOf e))
    else none
  | limit key => (e.child? "limit").bind fun place => faultOf? (readLimit place key)

theorem finding?_eq_some_iff {e : Element} {check : Check} {fault : Fault Float} :
    check.finding? e = some fault ↔ Finds e check fault := by
  constructor
  · intro h
    cases check with
    | name =>
      obtain ⟨hlacks, ⟨⟩⟩ := Option.ite_none_right_eq_some.1 h
      exact .name hlacks
    | parent =>
      obtain ⟨hlacks, ⟨⟩⟩ := Option.ite_none_right_eq_some.1 h
      exact .parent hlacks
    | child =>
      obtain ⟨hlacks, ⟨⟩⟩ := Option.ite_none_right_eq_some.1 h
      exact .child hlacks
    | vector tag key default =>
      obtain ⟨place, hplace, h⟩ := Option.bind_eq_some_iff.1 h
      rcases faultOf?_readVector_eq_some_iff.1 h with ⟨word, hword, rfl⟩ | ⟨hwords, hcount, rfl⟩
      · exact .word hplace hword
      · exact .count hplace rfl hwords hcount
    | length =>
      obtain ⟨⟨htype, axis, haxis, hlt⟩, ⟨⟩⟩ := Option.ite_none_right_eq_some.1 h
      exact .length htype haxis hlt
    | limit key =>
      obtain ⟨place, hplace, h⟩ := Option.bind_eq_some_iff.1 h
      rw [readLimit] at h
      split at h
      · cases h
      · next text htext =>
        obtain ⟨hnumber, rfl⟩ := faultOf?_readNumber_eq_some_iff.1 ((faultOf?_map _ _).symm.trans h)
        exact .limit hplace htext hnumber
  · intro h
    cases h with
    | name h | parent h | child h => exact if_pos h
    | word hplace hword =>
      exact Option.bind_eq_some_iff.2
        ⟨_, hplace, faultOf?_readVector_eq_some_iff.2 (Or.inl ⟨_, hword, rfl⟩)⟩
    | count hplace htext hwords hcount =>
      subst htext
      exact Option.bind_eq_some_iff.2
        ⟨_, hplace, faultOf?_readVector_eq_some_iff.2 (Or.inr ⟨hwords, hcount, rfl⟩)⟩
    | length htype haxis h => exact if_pos ⟨htype, _, haxis, h⟩
    | limit hplace htext h =>
      refine Option.bind_eq_some_iff.2 ⟨_, hplace, ?_⟩
      rw [readLimit, htext]
      exact (faultOf?_map _ _).trans (faultOf?_readNumber_eq_some_iff.2 ⟨h, rfl⟩)

variable (e : Element)

/-- A pose is read in two checks, -/
theorem faultOf?_readPose :
    faultOf? (readPose (nameOf e) (e.child? "origin")) =
      ((vector "origin" "xyz" "0 0 0").finding? e).or
        ((vector "origin" "rpy" "0 0 0").finding? e) := by
  rw [finding?, finding?]
  rcases e.child? "origin" with _ | place
  · rfl
  · exact faultOf?_bind fun p _ => faultOf?_map _ _

/-- an axis in two, of which the second looks at what the first has read, -/
theorem faultOf?_readAxis :
    faultOf? (readAxis (nameOf e) (JointType.ofName (typeOf e)) (e.child? "axis")) =
      ((vector "axis" "xyz" "1 0 0").finding? e).or (length.finding? e) := by
  have hvector : faultOf? (givenAxis e) = (vector "axis" "xyz" "1 0 0").finding? e := by
    rw [givenAxis, finding?]
    cases e.child? "axis" <;> rfl
  rw [readAxis_eq_bind, ← hvector]
  refine faultOf?_bind fun axis haxis => ?_
  have hgives : (∃ axis, GivesAxis e axis ∧ axis.norm < leastAxis) ↔ axis.norm < leastAxis := by
    constructor
    · rintro ⟨axis', haxis', h⟩
      obtain rfl := Except.ok.inj (haxis.symm.trans (givenAxis_eq_ok_iff.2 haxis'))
      exact h
    · intro h
      exact ⟨axis, givenAxis_eq_ok_iff.1 haxis, h⟩
  simp only [finding?, hgives, ne_eq, ← ofName_eq_fixed_iff]
  by_cases hlt : axis.norm < leastAxis
  · by_cases htype : JointType.ofName (typeOf e) = .fixed
    · simp [hlt, htype, faultOf?]
    · simp [hlt, htype, faultOf?]
  · simp [hlt, faultOf?]

/-- limits in four, -/
theorem faultOf?_readLimits :
    faultOf? (readLimits (e.child? "limit")) =
      ((limit "lower").finding? e).or (((limit "upper").finding? e).or
        (((limit "velocity").finding? e).or ((limit "effort").finding? e))) := by
  rw [finding?, finding?, finding?, finding?]
  rcases e.child? "limit" with _ | place
  · rfl
  · exact faultOf?_bind fun _ _ => faultOf?_bind fun _ _ => faultOf?_bind fun _ _ =>
      faultOf?_map _ _

/-- **and a joint in all of them, in order.** -/
theorem faultOf?_readJoint : faultOf? (readJoint e) = inOrder.findSome? (·.finding? e) := by
  simp only [inOrder, findSome?_cons_eq_or, List.findSome?_nil, Option.or_none]
  rw [readJoint]
  split
  · next hname =>
    rw [finding?, if_pos (given?_eq_none_iff.1 hname)]
    rfl
  next name hname =>
  obtain rfl := nameOf_eq_of_given? hname
  rw [finding?, if_neg (not_lacks_of_given? hname), Option.none_or]
  split
  · next hparent =>
    rw [finding?, if_pos (given?_eq_none_iff.1 hparent)]
    rfl
  next parent hparent =>
  rw [finding?, if_neg (not_lacks_of_given? hparent), Option.none_or]
  split
  · next hchild =>
    rw [finding?, if_pos (given?_eq_none_iff.1 hchild)]
    rfl
  next child hchild =>
  rw [finding?, if_neg (not_lacks_of_given? hchild), Option.none_or, ← Option.or_assoc,
    ← faultOf?_readPose]
  refine faultOf?_bind fun origin _ => ?_
  rw [← Option.or_assoc, ← faultOf?_readAxis, ← faultOf?_readLimits]
  exact faultOf?_bind fun axis _ => faultOf?_map _ _

/-- What comes out of a joint that is wrong is what is wrong with it. -/
theorem readJoint_eq_error_iff {fault : Fault Float} :
    readJoint e = .error fault ↔ Faulty e fault := by
  rw [← faultOf?_eq_some_iff, faultOf?_readJoint, findSome?_eq_some_iff_isFirst, Faulty]
  simp only [finding?_eq_some_iff]

end Check

/-- **What a joint is told to be** by its element: its name, its type and its two links. -/
structure Tells (e : Element) (j : Joint Float) : Prop where
  name : e.attribute? "name" = some j.name
  type : j.type.name = typeOf e
  parent : (e.child? "parent").bind (·.attribute? "link") = some j.parent
  child : (e.child? "child").bind (·.attribute? "link") = some j.child

/-- A joint that is read is what its element tells. -/
theorem tells_of_readJoint {e : Element} {j : Joint Float} (h : readJoint e = .ok j) :
    Tells e j := by
  rw [readJoint] at h
  split at h
  · cases h
  next name hname =>
  split at h
  · cases h
  next parent hparent =>
  split at h
  · cases h
  next child hchild =>
  obtain ⟨origin, -, h⟩ := exists_of_bind_eq_ok h
  obtain ⟨axis, -, h⟩ := exists_of_bind_eq_ok h
  obtain ⟨limits, -, h⟩ := exists_of_bind_eq_ok h
  obtain rfl := Except.ok.inj h
  exact ⟨eq_of_given? hname, JointType.name_ofName _, eq_of_given? hparent, eq_of_given? hchild⟩

/-! ### What comes of a description -/

open Check (Faulty)

/-- **What comes of a description**, told without reading it. -/
inductive Outcome (e : Element) : Read (Tree Float) → Prop
  /-- A link has no name, whatever the joints are. -/
  | unnamed {link : Element} (hlink : link ∈ e.childrenNamed "link")
      (h : Lacks (some link) "name") : Outcome e (.error .unnamedLink)
  /-- All links have names, and a joint is wrong, but none in front of it. -/
  | faulty {joint : Element} {fault : Fault Float}
      (hlinks : ∀ link ∈ e.childrenNamed "link", ¬Lacks (some link) "name")
      (hjoint : IsFirst (fun joint => ∃ fault, Faulty joint fault) (e.childrenNamed "joint") joint)
      (h : Faulty joint fault) : Outcome e (.error fault)
  /-- Nothing is wrong with any link or joint alone, and the tree is put together. -/
  | assembled {joints : List (Joint Float)}
      (hlinks : ∀ link ∈ e.childrenNamed "link", ¬Lacks (some link) "name")
      (hjoints : List.Forall₂ (fun joint j => readJoint joint = .ok j) (e.childrenNamed "joint")
        joints) :
      Outcome e (Tree.ofJoints (nameOf e) joints ((e.childrenNamed "link").map nameOf))

/-- The links can be read if all of them have names. -/
theorem readLinks_of_named {links : List Element} (h : ∀ link ∈ links, ¬Lacks (some link) "name") :
    readLinks links = .ok (links.map nameOf) := by
  induction links with
  | nil => rfl
  | cons link links ih =>
    obtain ⟨hlink, hlinks⟩ := List.forall_mem_cons.1 h
    obtain ⟨name, hname⟩ := Option.ne_none_iff_exists'.1 (mt given?_eq_none_iff.1 hlink)
    rw [readLinks, hname, ih hlinks, List.map_cons, nameOf_eq_of_given? hname]
    rfl

theorem readLinks_of_unnamed {links : List Element} {link : Element} (hlink : link ∈ links)
    (h : Lacks (some link) "name") : readLinks links = .error .unnamedLink := by
  induction links with
  | nil => exact absurd hlink List.not_mem_nil
  | cons link' links ih =>
    rw [readLinks]
    rcases hname : given? (some link') "name" with _ | name
    · rfl
    · rcases List.mem_cons.1 hlink with rfl | hlink
      · exact absurd h (not_lacks_of_given? hname)
      · simp only [ih hlink]
        rfl

theorem readJoints_eq_mapM (joints : List Element) : readJoints joints = joints.mapM readJoint := by
  induction joints with
  | nil => rfl
  | cons joint joints ih => rw [readJoints, ih, List.mapM_cons]

/-- What comes out of joints of which some are wrong is what is wrong with the first. -/
theorem readJoints_eq_error_iff {joints : List Element} {fault : Fault Float} :
    readJoints joints = .error fault ↔
      ∃ joint, IsFirst (fun joint => ∃ fault, Faulty joint fault) joints joint ∧
        Faulty joint fault := by
  rw [← faultOf?_eq_some_iff, readJoints_eq_mapM, faultOf?_mapM, findSome?_eq_some_iff_isFirst]
  simp only [faultOf?_eq_some_iff, Check.readJoint_eq_error_iff]

theorem readJoints_eq_ok_iff {elements : List Element} {joints : List (Joint Float)} :
    readJoints elements = .ok joints ↔
      List.Forall₂ (fun e joint => readJoint e = .ok joint) elements joints := by
  rw [readJoints_eq_mapM, mapM_eq_ok_iff]

/-- A description has an outcome, -/
theorem outcome_ofElement (e : Element) : Outcome e (ofElement e) := by
  rw [ofElement]
  by_cases hlinks : ∀ link ∈ e.childrenNamed "link", ¬Lacks (some link) "name"
  · rw [readLinks_of_named hlinks, ok_bind]
    rcases hread : readJoints (e.childrenNamed "joint") with fault | joints
    · obtain ⟨joint, hjoint, h⟩ := readJoints_eq_error_iff.1 hread
      exact .faulty hlinks hjoint h
    · exact .assembled hlinks (readJoints_eq_ok_iff.1 hread)
  · obtain ⟨link, hlink, h⟩ : ∃ link ∈ e.childrenNamed "link", Lacks (some link) "name" := by
      simpa only [not_forall, not_not, exists_prop] using hlinks
    rw [readLinks_of_unnamed hlink h]
    exact .unnamed hlink h

/-- and no other. -/
theorem Outcome.eq {e : Element} {result : Read (Tree Float)} (h : Outcome e result) :
    ofElement e = result := by
  rw [ofElement]
  cases h with
  | unnamed hlink h =>
    rw [readLinks_of_unnamed hlink h]
    rfl
  | faulty hlinks hjoint h =>
    rw [readLinks_of_named hlinks, ok_bind, readJoints_eq_error_iff.2 ⟨_, hjoint, h⟩]
    rfl
  | assembled hlinks hjoints =>
    rw [readLinks_of_named hlinks, ok_bind, readJoints_eq_ok_iff.2 hjoints, ok_bind]
    rfl

/-- A text that is no number is a failure of form, and all else that is wrong with a joint
one of integrity. -/
theorem Check.Finds.kind_eq {joint : Element} {check : Check} {fault : Fault Float}
    (h : Finds joint check fault) :
    (∃ text, ¬IsNumber text ∧ fault = .notNumeric text ∧ fault.kind = .form) ∨
      fault.kind = .integrity := by
  cases h with
  | name | parent | child | count | length => exact Or.inr rfl
  | word _ hword => exact Or.inl ⟨_, hword.holds, rfl, rfl⟩
  | limit _ _ h => exact Or.inl ⟨_, h, rfl, rfl⟩

/-- **What comes of a description.** A link without a name comes before anything about
the joints; then the first joint with which something is wrong, and of it what the first
check finds; then what the joints make of it. -/
theorem ofElement_outcome (e : Element) :
    (∀ result, ofElement e = result ↔ Outcome e result) ∧
      (∀ joint j, readJoint joint = .ok j → Tells joint j) ∧
      (∀ joint check fault, Check.Finds joint check fault →
        (∃ text, ¬IsNumber text ∧ fault = .notNumeric text ∧ fault.kind = .form) ∨
          fault.kind = .integrity) ∧
      (Fault.unnamedLink : Fault Float).kind = .integrity := by
  refine ⟨fun result => ⟨?_, Outcome.eq⟩, fun _ _ => tells_of_readJoint,
    fun _ _ _ => Check.Finds.kind_eq, rfl⟩
  rintro rfl
  exact outcome_ofElement e

/-- An element with plain names throughout. -/
def plainElement (tag : String) (attributes : List (String × String))
    (children : List Element) : Element :=
  ⟨Name.plain tag, attributes.map fun a => (Name.plain a.1, a.2), children⟩

/-- A joint that holds still, and with which nothing is wrong. -/
def mount : Element :=
  plainElement "joint" [("name", "mount"), ("type", "fixed")]
    [plainElement "parent" [("link", "base")] [], plainElement "child" [("link", "arm")] []]

/-- A joint with a vector that has a word too many, one of them no number, another vector
with a word too few, and a limit that is no number. -/
def hinge : Element :=
  plainElement "joint" [("name", "hinge"), ("type", "revolute")]
    [plainElement "parent" [("link", "arm")] [], plainElement "child" [("link", "hand")] [],
      plainElement "limit" [("lower", "low")] [], plainElement "axis" [("xyz", "0 1")] [],
      plainElement "origin" [("xyz", "0 x 1 2")] []]

/-- A description with one link that is named and three joints, the last without anything. -/
def sketch : Element :=
  plainElement "robot" [] [mount, plainElement "link" [("name", "base")] [], hinge,
    plainElement "joint" [] []]

/-- The vectors of a joint are those of its place and its axis. -/
theorem Check.tag_of_mem_inOrder {tag key default : String}
    (h : vector tag key default ∈ inOrder) : tag = "origin" ∨ tag = "axis" := by
  simp only [inOrder, List.mem_cons, vector.injEq, reduceCtorEq, List.not_mem_nil, false_or,
    or_false] at h
  tauto

/-- Nothing is wrong with the joint that holds still. -/
theorem not_faulty_mount (fault : Fault Float) : ¬Faulty mount fault := by
  rintro ⟨check, hfirst, h⟩
  cases h with
  | name h => exact absurd (h "mount" rfl) (by decide)
  | parent h => exact absurd (h "base" rfl) (by decide)
  | child h => exact absurd (h "arm" rfl) (by decide)
  | word hplace | count hplace =>
    rcases Check.tag_of_mem_inOrder hfirst.mem with rfl | rfl <;> cases hplace
  | length htype => exact htype rfl
  | limit hplace => cases hplace

/-- The first check to find something wrong with the other joint is that of its place. -/
theorem faulty_hinge : Faulty hinge (.notNumeric "x") := by
  have hword : IsFirst (fun word => ¬IsNumber word) (Text.words "0 x 1 2") "x" := by
    refine ⟨["0"], ["1", "2"], by decide, fun word hword => ?_, ?_⟩
    · obtain rfl := List.mem_singleton.1 hword
      exact not_not.2 (Option.isSome_iff_exists.1 rfl)
    · rintro ⟨x, hx⟩
      cases hx
  have hfinds : Check.Finds hinge (.vector "origin" "xyz" "0 0 0") (.notNumeric "x") :=
    .word rfl hword
  refine ⟨_, ⟨[.name, .parent, .child], _, rfl, fun check hcheck => ?_, _, hfinds⟩, hfinds⟩
  rintro ⟨fault, h⟩
  cases h with
  | name h => exact absurd (h "hinge" rfl) (by decide)
  | parent h => exact absurd (h "arm" rfl) (by decide)
  | child h => exact absurd (h "hand" rfl) (by decide)
  | word | count | length | limit => simp at hcheck

/-- Of a description in which much is wrong, a word is reported. -/
theorem ofElement_outcome_sketch : ofElement sketch = .error (.notNumeric "x") := by
  have hlinks : ∀ link ∈ sketch.childrenNamed "link", ¬Lacks (some link) "name" := by
    intro link hlink
    obtain rfl : link = plainElement "link" [("name", "base")] [] := List.mem_singleton.1 hlink
    exact fun h => absurd (h "base" rfl) (by decide)
  have hjoint : IsFirst (fun joint => ∃ fault, Faulty joint fault)
      (sketch.childrenNamed "joint") hinge := by
    refine ⟨[mount], [plainElement "joint" [] []], rfl, fun joint hmem => ?_, _, faulty_hinge⟩
    obtain rfl := List.mem_singleton.1 hmem
    exact fun ⟨fault, h⟩ => not_faulty_mount fault h
  exact ((ofElement_outcome sketch).1 _).2 (.faulty hlinks hjoint faulty_hinge)

end Description

end Linkage
