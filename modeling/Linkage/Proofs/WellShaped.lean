import Linkage.Proofs.Configuring
import Linkage.Proofs.Integers

/-!
# Configurations of the common shapes

Most of what can go astray in a configuration cannot if its sections have the shapes that they
usually have (`Linkage.Config.WellShaped`): lists where something is listed, texts and lists in
the list of chains, and no integer too large among the settings. What is left is the writing.
The first defect is reported if what its message shows can be written, and so is everything in
a section of settings of such a shape; a tip, a chain or a root with too many digits is not, and
that is then reported in place of it.

So a look halts the reading (`Linkage.Config.Look.Halts`) if it is taken at a defect, or at a
root that cannot be written, and if none does there is a configuration.

## Main results

* `Linkage.Config.ofValue_wellShaped`: what comes of a well-shaped configuration.
* `Linkage.Config.not_ofValue_wellShaped`: that its first defect is not always reported.
-/

namespace Linkage

namespace Config

open Look

variable {entries : List (Value × Value)}

/-- **A configuration of the common shapes.** -/
structure WellShaped (entries : List (Value × Value)) : Prop where
  tips : ∀ v, given? entries "tip_links" = some v → ∃ vs, v.untied = .list vs
  chains : ∀ v, given? entries "chains" = some v → ∃ vs, v.untied = .list vs ∧
    ∀ chain ∈ vs, (∃ s, chain = .text s) ∨ ∃ items, chain.untied = .list items
  weights : ∀ v, given? entries "weights" = some v → v.Fits
  thresholds : ∀ v, given? entries "thresholds" = some v → v.Fits

/-- **A look halts the reading** at a defect, or at a root that cannot be written. -/
def Look.Halts (entries : List (Value × Value)) (look : Look) : Prop :=
  (∃ fault, Defect entries look fault) ∨ ∃ root, look = .name root ∧ root.isWritable = false

/-! ### Where the looks are taken -/

theorem part_of_sequence_mem {part : String} (h : .sequence part ∈ looks entries) :
    part = "tip_links" ∨ part = "chains" := by
  simpa [looks, settingLooks] using h

theorem mem_itemsOf_of_pair_mem {v : Value} (h : .pair v ∈ looks entries) :
    v ∈ itemsOf entries "chains" := by
  simpa [looks, settingLooks] using h

theorem mem_entriesOf_of_setting_mem {part : String} {key value : Value}
    (h : .setting part key value ∈ looks entries) :
    (part = "weights" ∨ part = "thresholds") ∧ (key, value) ∈ entriesOf entries part := by
  simp only [looks, settingLooks, List.mem_cons, List.mem_append, List.mem_map, reduceCtorEq,
    and_false, exists_false, false_or, setting.injEq] at h
  rcases h with ⟨e, he, rfl, rfl, rfl⟩ | ⟨e, he, rfl, rfl, rfl⟩
  · exact ⟨Or.inl rfl, he⟩
  · exact ⟨Or.inr rfl, he⟩

section Shapes

variable (h : WellShaped entries)
include h

/-- A section that lists something can be gone through, -/
theorem WellShaped.items?_ne_none {part : String} (hpart : part = "tip_links" ∨ part = "chains")
    {v : Value} (hv : given? entries part = some v) : v.items? ≠ none := by
  obtain ⟨vs, hvs⟩ : ∃ vs, v.untied = .list vs := by
    rcases hpart with rfl | rfl
    · exact h.tips v hv
    · exact (h.chains v hv).imp fun _ => And.left
  rw [Value.items?, hvs]
  exact Option.some_ne_none vs

/-- what stands among the chains is a text or a list, -/
theorem WellShaped.chain {v : Value} (hv : v ∈ itemsOf entries "chains") :
    (∃ s, v = .text s) ∨ ∃ items, v.untied = .list items := by
  rw [itemsOf] at hv
  rcases hgiven : given? entries "chains" with _ | w
  · rw [hgiven] at hv
    exact absurd hv List.not_mem_nil
  · obtain ⟨vs, hvs, hchains⟩ := h.chains w hgiven
    rw [hgiven, Option.bind_some, Value.items?, hvs] at hv
    exact hchains v hv

/-- **and settings have no integer that is too large**, neither in a key nor in a value. -/
theorem WellShaped.setting {part : String} (hpart : part = "weights" ∨ part = "thresholds")
    {e : Value × Value} (he : e ∈ entriesOf entries part) : e.1.Fits ∧ e.2.Fits := by
  rw [entriesOf] at he
  rcases hgiven : given? entries part with _ | w
  · rw [hgiven] at he
    exact absurd he List.not_mem_nil
  have hw : w.Fits := by
    rcases hpart with rfl | rfl
    · exact h.weights w hgiven
    · exact h.thresholds w hgiven
  rw [hgiven, Option.bind_some] at he
  rcases hentries : w.entries? with _ | es
  · rw [hentries] at he
    exact absurd he List.not_mem_nil
  · rw [hentries] at he
    exact hw.of_mem_entries hentries he

/-- **Where a look goes astray, something cannot be written.** -/
theorem WellShaped.strays_iff {look : Look} {fault : Fault Float} (hlook : look ∈ looks entries) :
    Strays entries look fault ↔
      fault = .tooManyDigits none ∧ Value.areWritable look.shown = false ∧ look.Halts entries := by
  constructor
  · intro hstrays
    cases hstrays with
    -- The shapes leave nothing to ask for in vain,
    | sequence hv hitems =>
      exact absurd hitems (h.items?_ne_none (part_of_sequence_mem hlook) hv)
    | @count v hitems =>
      rcases h.chain (mem_itemsOf_of_pair_mem hlook) with ⟨s, rfl⟩ | ⟨items, huntied⟩
      · cases hitems
      · rw [Value.items?, huntied] at hitems
        cases hitems
    | key huntied | index huntied =>
      rcases h.chain (mem_itemsOf_of_pair_mem hlook) with ⟨s, rfl⟩ | ⟨items, hlist⟩
      · cases huntied
      · cases hlist.symm.trans huntied
    -- so that only what has to be written is left,
    | digits hdefect hshown => exact ⟨rfl, hshown, Or.inl ⟨_, hdefect⟩⟩
    | @root v hv =>
      refine ⟨rfl, ?_, Or.inr ⟨v, rfl, hv⟩⟩
      rw [shown, Value.areWritable, hv, Bool.false_and]
    -- and in a section of settings everything can be.
    | name _ hkey =>
      obtain ⟨hpart, he⟩ := mem_entriesOf_of_setting_mem hlook
      rw [(h.setting hpart he).1.isWritable] at hkey
      cases hkey
    | @large part key n hn =>
      obtain ⟨hpart, he⟩ := mem_entriesOf_of_setting_mem hlook
      obtain ⟨x, hx⟩ := (h.setting hpart he).2 n List.mem_cons_self
      cases hx.symm.trans hn
  · rintro ⟨rfl, hshown, ⟨fault, hdefect⟩ | ⟨root, rfl, hroot⟩⟩
    · exact .digits hdefect hshown
    · exact .root hroot

/-- **What a look finds is its defect**, if that can be written. -/
theorem WellShaped.finds_iff {look : Look} {fault : Fault Float} (hlook : look ∈ looks entries) :
    Finds entries look fault ↔ look.Halts entries ∧
      (Value.areWritable look.shown = true ∧ Defect entries look fault ∨
        Value.areWritable look.shown = false ∧ fault = .tooManyDigits none) := by
  constructor
  · rintro (⟨hdefect, hshown⟩ | ⟨hstrays⟩)
    · exact ⟨Or.inl ⟨fault, hdefect⟩, Or.inl ⟨hshown, hdefect⟩⟩
    · obtain ⟨rfl, hshown, hhalts⟩ := (h.strays_iff hlook).1 hstrays
      exact ⟨hhalts, Or.inr ⟨hshown, rfl⟩⟩
  · rintro ⟨hhalts, ⟨hshown, hdefect⟩ | ⟨hshown, rfl⟩⟩
    · exact .defect hdefect hshown
    · exact .stray ((h.strays_iff hlook).2 ⟨rfl, hshown, hhalts⟩)

/-- A look that halts the reading is one that finds something. -/
theorem WellShaped.exists_finds_iff {look : Look} (hlook : look ∈ looks entries) :
    (∃ fault, Finds entries look fault) ↔ look.Halts entries := by
  constructor
  · rintro ⟨fault, hfinds⟩
    exact ((h.finds_iff hlook).1 hfinds).1
  · intro hhalts
    cases hshown : Value.areWritable look.shown with
    | false => exact ⟨_, (h.finds_iff hlook).2 ⟨hhalts, Or.inr ⟨hshown, rfl⟩⟩⟩
    | true =>
      rcases hhalts with ⟨fault, hdefect⟩ | ⟨root, rfl, hroot⟩
      · exact ⟨fault, .defect hdefect hshown⟩
      · exact ⟨_, .stray (.root hroot)⟩

end Shapes

/-- **What comes of a well-shaped configuration.** The first look to halt the reading decides
what is reported: its defect, if what that has to show can be written, and otherwise that it
cannot. If there is none, there is a configuration, and it holds what the value does. -/
theorem ofValue_wellShaped {v : Value} (hentries : v.entries? = some entries)
    (h : WellShaped entries) :
    (∀ fault, ofValue v = .error fault ↔
      ∃ look, IsFirst (Halts entries) (looks entries) look ∧
        (Value.areWritable look.shown = true ∧ Defect entries look fault ∨
          Value.areWritable look.shown = false ∧ fault = .tooManyDigits none)) ∧
    ((∃ config, ofValue v = .ok config) ↔ ∀ look ∈ looks entries, ¬look.Halts entries) ∧
    ∀ config, ofValue v = .ok config → IsRead entries config := by
  have hdecides : ∀ look, Decides entries look ↔ IsFirst (Halts entries) (looks entries) look :=
    fun look => isFirst_congr_of_mem fun look hlook => h.exists_finds_iff hlook
  refine ⟨fun fault => ?_, ?_, fun config => isRead_of_ofValue hentries⟩
  · rw [ofValue_eq_error_iff hentries]
    constructor
    · rintro ⟨look, hlook, hfinds⟩
      exact ⟨look, (hdecides look).1 hlook, ((h.finds_iff hlook.mem).1 hfinds).2⟩
    · rintro ⟨look, hlook, hreport⟩
      exact ⟨look, (hdecides look).2 hlook, (h.finds_iff hlook.mem).2 ⟨hlook.holds, hreport⟩⟩
  · rw [← faultOf?_eq_none_iff, faultOf?_ofValue hentries, List.findSome?_eq_none_iff]
    refine forall₂_congr fun look hlook => ?_
    rw [← h.exists_finds_iff hlook, Option.eq_none_iff_forall_ne_some, not_exists]
    exact forall_congr' fun fault => not_congr finding?_eq_some_iff

/-- A hoist, with two weights under one name, the second given as some value. -/
def hoist (weight : Value) : List (Value × Value) :=
  [(.text "root_link", .text "base"), (.text "tip_links", .list [.text "hook"]),
    (.text "chains", .list [.list [.text "base", .text "cab"]]),
    (.text "weights", .mapping [(.null, .int 2), (.text "None", weight)]),
    (.text "thresholds", .null)]

/-- The hoist is well-shaped whatever the weight is, unless it is too large. -/
theorem wellShaped_hoist {weight : Value} (h : weight.Fits) : WellShaped (hoist weight) where
  tips := by
    rintro v ⟨⟩
    exact ⟨_, rfl⟩
  chains := by
    rintro v ⟨⟩
    refine ⟨_, rfl, fun chain hchain => ?_⟩
    obtain rfl := List.mem_singleton.1 hchain
    exact Or.inr ⟨_, rfl⟩
  weights := by
    rintro v ⟨⟩ n hn
    change n ∈ [] ++ [(2 : Int)] ++ ([] ++ weight.ints ++ []) at hn
    rcases List.mem_append.1 hn with hn | hn
    · obtain rfl := List.mem_singleton.1 hn
      exact Option.isSome_iff_exists.1 (by decide +kernel)
    · exact h n (by simpa using hn)
  thresholds := nofun

/-- **The hoist has its second weight**, but a truth value there is reported. -/
theorem ofValue_wellShaped_hoist :
    (∃ look, IsFirst (Halts (hoist (.bool true))) (looks (hoist (.bool true))) look ∧
      Defect (hoist (.bool true)) look (.malformedEntry "None" "weights" (.bool true))) ∧
    ∃ config, ofValue (.mapping (hoist (.float 0.5))) = .ok config ∧
      IsRead (hoist (.float 0.5)) config ∧ config.weights.lookup "None" = some 0.5 := by
  constructor
  · have hread : ofValue (.mapping (hoist (.bool true))) =
      .error (.malformedEntry "None" "weights" (.bool true)) := rfl
    obtain ⟨look, hlook, ⟨-, hdefect⟩ | ⟨-, h⟩⟩ :=
      ((@ofValue_wellShaped _ (.mapping (hoist (.bool true))) rfl
        (wellShaped_hoist fun n hn => absurd hn List.not_mem_nil)).1 _).1 hread
    · exact ⟨look, hlook, hdefect⟩
    · cases h
  · have hread : ofValue (.mapping (hoist (.float 0.5))) =
        .ok ⟨"base", [.tip "hook", .ends "base" "cab"], [("None", 0.5)], []⟩ := rfl
    exact ⟨_, hread, (@ofValue_wellShaped _ (.mapping (hoist (.float 0.5))) rfl
      (wellShaped_hoist fun n hn => absurd hn List.not_mem_nil)).2.2 _ hread, rfl⟩

/-- A configuration whose only tip is an integer. -/
def numbered (n : Int) : List (Value × Value) :=
  [(.text "root_link", .text "base"), (.text "tip_links", .list [.int n])]

/-- **The first defect is not always reported**: an integer for a tip may have too many digits
for the message. -/
theorem not_ofValue_wellShaped :
    ¬∀ (v : Value) (entries : List (Value × Value)), v.entries? = some entries →
      WellShaped entries → ∀ look fault,
        IsFirst (fun look => ∃ fault, Defect entries look fault) (looks entries) look →
        Defect entries look fault → ofValue v = .error fault := by
  intro h
  have hlong : (Value.int Value.digitBound).isWritable = false := by
    rw [Value.isWritable, Int.natAbs_natCast]
    exact decide_eq_false (Nat.lt_irrefl _)
  -- Nothing else is used of the integer, which is not worked out.
  generalize (Value.digitBound : Int) = n at hlong
  have hshaped : WellShaped (numbered n) := by
    refine ⟨?_, nofun, nofun, nofun⟩
    rintro v ⟨⟩
    exact ⟨_, rfl⟩
  have hfirst : IsFirst (fun look => ∃ fault, Defect (numbered n) look fault)
      (looks (numbered n)) (.tip (.int n)) := by
    refine ⟨[.root, .sequence "tip_links"], _, rfl, fun look hlook => ?_, _, .tip rfl⟩
    rintro ⟨fault, hdefect⟩
    cases hdefect with
    | root hroot => cases hroot
    | _ => simp at hlook
  have hread : ofValue (.mapping (numbered n)) =
      (refuse (.malformedTip (.int n)) [.int n] : Read Config) := rfl
  have hreport := h (.mapping (numbered n)) (numbered n) rfl hshaped _ _ hfirst (.tip rfl)
  rw [hread, refuse, Value.areWritable, hlong] at hreport
  cases hreport

end Config

end Linkage
