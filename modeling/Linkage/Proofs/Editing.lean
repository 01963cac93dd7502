import Linkage.Proofs.Diagnosis
import Mathlib.Data.List.Basic
import Mathlib.Logic.Relation

/-!
# What a description may hold besides

A description is read by exact tags, one level at a time: the links and the joints directly
inside it, and of a joint the first element of each of five tags. So much in a description
is never looked at, and may be put in, taken out or moved about.

This is told twice. An *edit* (`Linkage.Description.Edit`) is one thing done to the document:
an element of another tag comes in, a link is filled with anything, a joint gets an element
of another tag or one more of a tag that it has, or links and joints change places without
one link passing another or one joint another. The *skeleton* of a description
(`Linkage.Description.skeleton`) is what is left of it once all that is never looked at has
gone: bare links, then joints with at most five bare elements inside.

Edits keep the skeleton, a description is read as its skeleton is, and so no number of edits,
made or taken back, changes what comes of it.

## Main results

* `Linkage.Description.Edit.skeleton_eq`: an edit keeps the skeleton.
* `Linkage.Description.ofElement_skeleton`: a description is read as its skeleton.
* `Linkage.Description.ofElement_edited`: edits do not change what comes of a description.
-/

namespace Linkage.Description

open Markup

/-! ### Edits -/

/-- The tags of the elements that a joint is read from. -/
def partTags : List String := ["parent", "child", "origin", "axis", "limit"]

/-- **A change inside a joint** that its reader does not see: one more element. -/
inductive JointEdit : Element → Element → Prop
  /-- Anywhere, an element of a tag that says nothing of a joint. -/
  | other {name : Name} {attributes : List (Name × String)} {before after : List Element}
      {x : Element} (h : ∀ tag ∈ partTags, x.name ≠ Name.plain tag) :
      JointEdit ⟨name, attributes, before ++ after⟩ ⟨name, attributes, before ++ x :: after⟩
  /-- Behind an element of some tag, another of that tag. -/
  | further {name : Name} {attributes : List (Name × String)} {before after : List Element}
      {first x : Element} (hfirst : first ∈ before) (h : x.name = first.name) :
      JointEdit ⟨name, attributes, before ++ after⟩ ⟨name, attributes, before ++ x :: after⟩

/-- **A change of a description** that its reader does not see. -/
inductive Edit : Element → Element → Prop
  /-- Anywhere, an element that is neither a link nor a joint, whatever is inside it. -/
  | other {name : Name} {attributes : List (Name × String)} {before after : List Element}
      {x : Element} (hlink : x.name ≠ Name.plain "link") (hjoint : x.name ≠ Name.plain "joint") :
      Edit ⟨name, attributes, before ++ after⟩ ⟨name, attributes, before ++ x :: after⟩
  /-- A link comes to hold anything. -/
  | link {name : Name} {attributes : List (Name × String)} {before after : List Element}
      {x : Element} (content : List Element) (h : x.name = Name.plain "link") :
      Edit ⟨name, attributes, before ++ x :: after⟩
        ⟨name, attributes, before ++ { x with children := content } :: after⟩
  /-- A joint is changed inside. -/
  | joint {name : Name} {attributes : List (Name × String)} {before after : List Element}
      {x y : Element} (hname : x.name = Name.plain "joint") (h : JointEdit x y) :
      Edit ⟨name, attributes, before ++ x :: after⟩ ⟨name, attributes, before ++ y :: after⟩
  /-- The elements change places, the links keeping their order, and the joints theirs. -/
  | interleave {name : Name} {attributes : List (Name × String)} {xs ys : List Element}
      (hperm : xs.Perm ys)
      (hlinks : xs.filter (·.name == Name.plain "link") = ys.filter (·.name == Name.plain "link"))
      (hjoints : xs.filter (·.name == Name.plain "joint") =
        ys.filter (·.name == Name.plain "joint")) :
      Edit ⟨name, attributes, xs⟩ ⟨name, attributes, ys⟩

/-! ### Skeletons -/

/-- An element without what is inside it. -/
def bare (e : Element) : Element := { e with children := [] }

/-- **The skeleton of a joint**: of each of the five tags the first element, and nothing
inside that. -/
def jointSkeleton (e : Element) : Element :=
  { e with children := partTags.filterMap fun tag => (e.child? tag).map bare }

/-- **The skeleton of a description**: its links without what is inside them, then the
skeletons of its joints. -/
def skeleton (e : Element) : Element :=
  { e with
    children := (e.childrenNamed "link").map bare ++ (e.childrenNamed "joint").map jointSkeleton }

section Find

variable {name : Name} {attributes : List (Name × String)} {before after : List Element}
  {x : Element} {tag : String}

/-- The first element of a tag stays the first when an element of another tag comes in, -/
theorem child?_insert_of_ne (h : x.name ≠ Name.plain tag) :
    Element.child? ⟨name, attributes, before ++ x :: after⟩ tag =
      Element.child? ⟨name, attributes, before ++ after⟩ tag := by
  have hx : (x.name == Name.plain tag) = false := beq_false_of_ne h
  simp only [Element.child?, List.find?_append, List.find?_cons, hx]

/-- and when one comes in behind it. -/
theorem child?_insert_of_mem {first : Element} (hfirst : first ∈ before)
    (h : first.name = Name.plain tag) :
    Element.child? ⟨name, attributes, before ++ x :: after⟩ tag =
      Element.child? ⟨name, attributes, before ++ after⟩ tag := by
  have hfound : (before.find? (·.name == Name.plain tag)).isSome = true := by
    rw [List.find?_isSome]
    exact ⟨first, hfirst, by rw [h, beq_self_eq_true]⟩
  obtain ⟨found, hfound⟩ := Option.isSome_iff_exists.1 hfound
  simp only [Element.child?, List.find?_append, hfound, Option.some_or]

/-- The elements of a tag stay the same when an element of another tag comes in, -/
theorem childrenNamed_insert_of_ne (h : x.name ≠ Name.plain tag) :
    Element.childrenNamed ⟨name, attributes, before ++ x :: after⟩ tag =
      Element.childrenNamed ⟨name, attributes, before ++ after⟩ tag := by
  have hx : (x.name == Name.plain tag) = false := beq_false_of_ne h
  simp only [Element.childrenNamed, List.filter_append, List.filter_cons, hx, Bool.false_eq_true,
    if_false]

/-- and so does what is made of them when one of them is exchanged for another of which the
same is made. -/
theorem map_childrenNamed_exchange {β : Type} (f : Element → β) {y : Element}
    (hname : y.name = x.name) (h : x.name = Name.plain tag → f y = f x) :
    (Element.childrenNamed ⟨name, attributes, before ++ y :: after⟩ tag).map f =
      (Element.childrenNamed ⟨name, attributes, before ++ x :: after⟩ tag).map f := by
  simp only [Element.childrenNamed, List.filter_append, List.filter_cons, hname, beq_iff_eq]
  by_cases hx : x.name = Name.plain tag
  · simp only [if_pos hx, List.map_append, List.map_cons, h hx]
  · simp only [if_neg hx]

end Find

/-! ### Edits keep skeletons -/

/-- A change inside a joint leaves its name and attributes as they are, -/
theorem JointEdit.eq_outside {e e' : Element} (h : JointEdit e e') :
    e'.name = e.name ∧ e'.attributes = e.attributes := by
  cases h <;> exact ⟨rfl, rfl⟩

/-- and the first element of each tag that says something of a joint. -/
theorem JointEdit.child?_eq {e e' : Element} (h : JointEdit e e') {tag : String}
    (htag : tag ∈ partTags) : e'.child? tag = e.child? tag := by
  cases h with
  | other h => exact child?_insert_of_ne (h tag htag)
  | @further _ _ _ _ first x hfirst h =>
    by_cases hx : x.name = Name.plain tag
    · exact child?_insert_of_mem hfirst (h ▸ hx)
    · exact child?_insert_of_ne hx

theorem JointEdit.jointSkeleton_eq {e e' : Element} (h : JointEdit e e') :
    jointSkeleton e' = jointSkeleton e := by
  have hparts : partTags.filterMap (fun tag => (e'.child? tag).map bare) =
      partTags.filterMap fun tag => (e.child? tag).map bare :=
    List.filterMap_congr fun tag htag => by rw [h.child?_eq htag]
  obtain ⟨hname, hattributes⟩ := h.eq_outside
  rw [jointSkeleton, jointSkeleton, hparts, hname, hattributes]

/-- The skeleton stays the same when a link or a joint is exchanged for another with the same
skeleton. -/
theorem skeleton_exchange {name : Name} {attributes : List (Name × String)}
    {before after : List Element} {x y : Element} (hname : y.name = x.name)
    (hlink : x.name = Name.plain "link" → bare y = bare x)
    (hjoint : x.name = Name.plain "joint" → jointSkeleton y = jointSkeleton x) :
    skeleton ⟨name, attributes, before ++ y :: after⟩ =
      skeleton ⟨name, attributes, before ++ x :: after⟩ := by
  rw [skeleton, skeleton, map_childrenNamed_exchange bare hname hlink,
    map_childrenNamed_exchange jointSkeleton hname hjoint]

/-- **An edit keeps the skeleton.** -/
theorem Edit.skeleton_eq {e e' : Element} (h : Edit e e') : skeleton e' = skeleton e := by
  have hne : Name.plain "link" ≠ Name.plain "joint" := by decide
  cases h with
  | other hlink hjoint =>
    simp only [skeleton, childrenNamed_insert_of_ne hlink, childrenNamed_insert_of_ne hjoint]
  | link content h =>
    exact skeleton_exchange rfl (fun _ => rfl) fun hjoint => absurd (h.symm.trans hjoint) hne
  | joint hname h =>
    exact skeleton_exchange h.eq_outside.1 (fun hlink => absurd (hlink.symm.trans hname) hne)
      fun _ => h.jointSkeleton_eq
  | interleave hperm hlinks hjoints =>
    simp only [skeleton, Element.childrenNamed, hlinks, hjoints]

/-! ### Reading a skeleton -/

/-- The first element of a tag has that tag. -/
theorem name_of_child? {e x : Element} {tag : String} (h : e.child? tag = some x) :
    x.name = Name.plain tag :=
  eq_of_beq (List.find?_some h :)

/-- Among the first elements of some tags, that of each tag is found. -/
theorem find?_parts (e : Element) {tags : List String} {tag : String} (htag : tag ∈ tags) :
    (tags.filterMap fun tag => (e.child? tag).map bare).find? (·.name == Name.plain tag) =
      (e.child? tag).map bare := by
  -- No two tags have one element, so what is found under a tag can only be that of the tag.
  have honly : ∀ x ∈ tags.filterMap fun tag => (e.child? tag).map bare,
      x.name = Name.plain tag → (e.child? tag).map bare = some x := by
    intro x hx hname
    obtain ⟨tag', -, hx⟩ := List.mem_filterMap.1 hx
    obtain ⟨y, hy, rfl⟩ := Option.map_eq_some_iff.1 hx
    obtain rfl : tag' = tag := congrArg Name.base ((name_of_child? hy).symm.trans hname)
    exact hx
  rcases hfind : (tags.filterMap fun tag => (e.child? tag).map bare).find?
      (fun x : Element => x.name == Name.plain tag) with _ | x
  · rcases hchild : e.child? tag with _ | x
    · rfl
    · have hmem : bare x ∈ tags.filterMap fun tag => (e.child? tag).map bare :=
        List.mem_filterMap.2 ⟨tag, htag, by rw [hchild, Option.map_some]⟩
      have hname : x.name = Name.plain tag := name_of_child? hchild
      exact absurd (beq_iff_eq.2 hname) (List.find?_eq_none.1 hfind (bare x) hmem)
  · exact (honly x (List.mem_of_find?_eq_some hfind) (eq_of_beq (List.find?_some hfind :))).symm

/-- The part that a tag names in the skeleton of a joint is that of the joint, bare. -/
theorem child?_jointSkeleton (e : Element) {tag : String} (htag : tag ∈ partTags) :
    (jointSkeleton e).child? tag = (e.child? tag).map bare :=
  find?_parts e htag

/-- An attribute is the same on a bare element. -/
theorem given?_map_bare (place : Option Element) (key : String) :
    given? (place.map bare) key = given? place key := by
  cases place <;> rfl

theorem readPose_map_bare (joint : String) (place : Option Element) :
    readPose joint (place.map bare) = readPose joint place := by
  cases place <;> rfl

theorem readAxis_map_bare (joint : String) (type : JointType) (place : Option Element) :
    readAxis joint type (place.map bare) = readAxis joint type place := by
  cases place <;> rfl

theorem readLimits_map_bare (place : Option Element) :
    readLimits (place.map bare) = readLimits place := by
  cases place <;> rfl

/-- **A joint is read as its skeleton.** -/
theorem readJoint_jointSkeleton (e : Element) : readJoint (jointSkeleton e) = readJoint e := by
  have hpart : ∀ tag ∈ partTags, (jointSkeleton e).child? tag = (e.child? tag).map bare :=
    fun tag => child?_jointSkeleton e
  simp only [partTags, List.forall_mem_cons] at hpart
  obtain ⟨hparent, hchild, horigin, haxis, hlimit, -⟩ := hpart
  simp only [readJoint, hparent, hchild, horigin, haxis, hlimit, given?_map_bare,
    readPose_map_bare, readAxis_map_bare, readLimits_map_bare]
  rfl

theorem readJoints_map_jointSkeleton (joints : List Element) :
    readJoints (joints.map jointSkeleton) = readJoints joints := by
  induction joints with
  | nil => rfl
  | cons joint joints ih => rw [List.map_cons, readJoints, readJoints, readJoint_jointSkeleton, ih]

theorem readLinks_map_bare (links : List Element) :
    readLinks (links.map bare) = readLinks links := by
  induction links with
  | nil => rfl
  | cons link links ih =>
    rw [List.map_cons, readLinks, readLinks, ih]
    rfl

/-- Elements of one tag, each made into one of its name, are all of that tag. -/
theorem filter_map_childrenNamed {f : Element → Element} (hf : ∀ x, (f x).name = x.name)
    (e : Element) (tag tag' : String) :
    ((e.childrenNamed tag).map f).filter (·.name == Name.plain tag') =
      if tag = tag' then (e.childrenNamed tag).map f else [] := by
  have hname : ∀ x ∈ (e.childrenNamed tag).map f, x.name = Name.plain tag := by
    intro x hx
    obtain ⟨y, hy, rfl⟩ := List.mem_map.1 hx
    rw [hf]
    exact eq_of_beq (List.mem_filter.1 hy).2
  split
  · next h =>
    subst h
    exact List.filter_eq_self.2 fun x hx => beq_iff_eq.2 (hname x hx)
  · next h =>
    refine List.filter_eq_nil_iff.2 fun x hx => ?_
    rw [hname x hx, beq_iff_eq]
    exact fun htag => h (congrArg Name.base htag)

/-- The links of a skeleton are the bare links, and its joints the skeletons of the joints. -/
theorem childrenNamed_skeleton (e : Element) :
    (skeleton e).childrenNamed "link" = (e.childrenNamed "link").map bare ∧
      (skeleton e).childrenNamed "joint" = (e.childrenNamed "joint").map jointSkeleton := by
  have hbare : ∀ x, (bare x).name = x.name := fun _ => rfl
  have hjoint : ∀ x, (jointSkeleton x).name = x.name := fun _ => rfl
  constructor
  · rw [Element.childrenNamed, skeleton, List.filter_append, filter_map_childrenNamed hbare,
      filter_map_childrenNamed hjoint, if_pos rfl, if_neg (by decide), List.append_nil]
  · rw [Element.childrenNamed, skeleton, List.filter_append, filter_map_childrenNamed hbare,
      filter_map_childrenNamed hjoint, if_pos rfl, if_neg (by decide), List.nil_append]

/-- **A description is read as its skeleton.** -/
theorem ofElement_skeleton (e : Element) : ofElement (skeleton e) = ofElement e := by
  obtain ⟨hlinks, hjoints⟩ := childrenNamed_skeleton e
  rw [ofElement, ofElement, hlinks, hjoints, readLinks_map_bare, readJoints_map_jointSkeleton]
  rfl

/-! ### Edited descriptions -/

/-- Edits, made or taken back, keep the skeleton. -/
theorem skeleton_eq_of_edits {e e' : Element} (h : Relation.EqvGen Edit e e') :
    skeleton e' = skeleton e := by
  induction h with
  | rel _ _ h => exact h.skeleton_eq
  | refl => rfl
  | symm _ _ _ ih => exact ih.symm
  | trans _ _ _ _ _ ih ih' => exact ih'.trans ih

/-- **Edits do not change what comes of a description**, whether that is a tree or a fault. -/
theorem ofElement_edited {e e' : Element} (h : Relation.EqvGen Edit e e') :
    ofElement e' = ofElement e :=
  calc
    ofElement e' = ofElement (skeleton e') := (ofElement_skeleton e').symm
    _ = ofElement (skeleton e) := by rw [skeleton_eq_of_edits h]
    _ = ofElement e := ofElement_skeleton e

/-- A link with nothing inside. -/
def plainLink (name : String) : Element := plainElement "link" [("name", name)] []

/-- A lamp: an arm that is fixed to its base. -/
def lamp : Element := plainElement "robot" [] [plainLink "base", plainLink "arm", mount]

/-- A drive, which is described beside the links and joints, and with a joint of its own. -/
def drive : Element := plainElement "transmission" [] [plainElement "joint" [] []]

/-- The mount of the lamp with a second parent, behind the first. -/
def mountTwice : Element :=
  { mount with children := mount.children ++ [plainElement "parent" [("link", "ceiling")] []] }

/-- The base of the lamp with what it looks like. -/
def baseSeen : Element := plainElement "link" [("name", "base")] [plainElement "visual" [] []]

/-- The lamp once all that has come in, the mount in front of the links. -/
def lampRevised : Element :=
  plainElement "robot" [] [drive, mountTwice, baseSeen, plainLink "arm"]

/-- **The lamp is read as before** once a drive, a second parent and looks have come in. -/
theorem ofElement_edited_lamp :
    Relation.EqvGen Edit lamp lampRevised ∧ ofElement lampRevised = ofElement lamp := by
  have hdrive : Edit lamp
      (plainElement "robot" [] [drive, plainLink "base", plainLink "arm", mount]) :=
    @Edit.other _ _ [] _ drive (by decide) (by decide)
  have hmount : JointEdit mount mountTwice :=
    @JointEdit.further _ _ mount.children [] (plainElement "parent" [("link", "base")] [])
      (plainElement "parent" [("link", "ceiling")] []) List.mem_cons_self rfl
  have hjoint : Edit (plainElement "robot" [] [drive, plainLink "base", plainLink "arm", mount])
      (plainElement "robot" [] [drive, plainLink "base", plainLink "arm", mountTwice]) :=
    @Edit.joint _ _ [drive, plainLink "base", plainLink "arm"] [] _ _ rfl hmount
  have hbase : Edit (plainElement "robot" [] [drive, plainLink "base", plainLink "arm", mountTwice])
      (plainElement "robot" [] [drive, baseSeen, plainLink "arm", mountTwice]) :=
    @Edit.link _ _ [drive] [plainLink "arm", mountTwice] (plainLink "base")
      [plainElement "visual" [] []] rfl
  have horder : Edit (plainElement "robot" [] [drive, baseSeen, plainLink "arm", mountTwice])
      lampRevised := by
    refine .interleave ?_ rfl rfl
    exact (@List.perm_append_comm _ [baseSeen, plainLink "arm"] [mountTwice]).cons drive
  have hedits : Relation.EqvGen Edit lamp lampRevised :=
    .trans _ _ _ (.trans _ _ _ (.rel _ _ hdrive) (.rel _ _ hjoint))
      (.trans _ _ _ (.rel _ _ hbase) (.rel _ _ horder))
  exact ⟨hedits, ofElement_edited hedits⟩

end Linkage.Description
