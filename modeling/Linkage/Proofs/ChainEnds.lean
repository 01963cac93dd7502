import Linkage.Proofs.Growth
import Linkage.Proofs.Readiness

/-!
# The ends of a chain

Nobody looks whether the two ends of a chain are links of the tree. A climb looks up the link on
which it stands when it is about to leave it, and it leaves every link but the one at which the
chain begins. What that finds out is said here.

* If the tip is not a link, the climb cannot leave it, and if the beginning is not one, the climb
  does not come by it before the tree ends. Either way the chain is refused
  (`Linkage.Tree.IsRooted.path_of_stranger`).
* Unless both ends are the same. Then there is nothing to climb, and nothing is looked up: a chain
  from a name to itself is had on every tree, whether a link goes by that name or not.

So the ends of the chains that a robot has are links of its tree, but for chains that lead
nowhere (`Linkage.Robot.compile_ends`).
-/

namespace Linkage

variable {α : Type}

namespace Tree

variable {tree : Tree α}

/-- What leads somewhere else starts from a link. -/
theorem IsRooted.start_mem_linkNames_of_leads (h : tree.IsRooted) {root tip : String}
    {js : List (Joint α)} (hjs : Leads tree.joints root js tip) (hne : root ≠ tip) :
    root ∈ tree.linkNames := by
  cases js with
  | nil => exact absurd (leads_nil.1 hjs) hne
  | cons j js =>
    obtain ⟨hj, rfl, -⟩ := hjs
    exact (h.ends j hj).1

/-- **A chain with an end that is not a link is refused**, if its ends are not the same. If the tip
is the link that is missing, it is named, and else the climb has gone past the root of the tree. -/
theorem IsRooted.path_of_stranger (h : tree.IsRooted) {above : ParentLinks}
    (habove : tree.parentLinks = .ok above) {root tip : String} (hne : root ≠ tip)
    (hends : ¬(root ∈ tree.linkNames ∧ tip ∈ tree.linkNames)) :
    tree.path above root tip =
      .error (if tip ∈ tree.linkNames then .noParentJoint tree.root else .unknownLink tip) := by
  by_cases htip : tip ∈ tree.linkNames
  · rw [if_pos htip]
    refine h.path_of_not_reaches habove htip fun hr => ?_
    obtain ⟨js, hjs⟩ := reaches_iff_leads.1 hr
    exact hends ⟨h.start_mem_linkNames_of_leads hjs hne, htip⟩
  · rw [if_neg htip]
    exact path_of_not_mem tree above hne htip

end Tree

section Ready

variable [Scalar α] {tree : Tree α} {weights thresholds : Settings α}

/-- **The ends of a chain that can be worked out** are links, or the same. -/
theorem ChainReady.ends (htree : tree.IsRooted) {key : ChainKey}
    (hready : ChainReady tree weights thresholds key) (hne : key.1 ≠ key.2) :
    key.1 ∈ tree.linkNames ∧ key.2 ∈ tree.linkNames := by
  obtain ⟨js, hjs, -⟩ := hready
  exact ⟨htree.start_mem_linkNames_of_leads hjs hne, htree.mem_linkNames_of_leads hjs hne⟩

/-- A chain that leads nowhere can be worked out. -/
theorem chainReady_self (tree : Tree α) (weights thresholds : Settings α) {key : ChainKey}
    (heq : key.1 = key.2) : ChainReady tree weights thresholds key :=
  ⟨[], heq, fun _ hj => absurd hj List.not_mem_nil⟩

end Ready

namespace Robot

variable [Scalar α] {tree : Tree α} {root : String} {requests before after : List ChainRequest}
  {weights thresholds : Settings α} {r : Robot α}

/-- **A robot can be made exactly if every request names a chain that can be worked out.** -/
theorem exists_compile_iff_forall (htree : tree.IsRooted) :
    (∃ r, compile tree root (.ok requests) weights thresholds = .ok r) ↔
      ∀ q ∈ requests, ∃ key, (q.key root : Except (Fault α) ChainKey) = .ok key ∧
        ChainReady tree weights thresholds key := by
  rw [exists_compile_iff htree]
  constructor
  · rintro ⟨keys, hkeys, hready⟩ q hq
    obtain ⟨key, hkey, hnamed⟩ := exists_of_mem_left hkeys hq
    exact ⟨key, hnamed, hready key hkey⟩
  · intro hall
    induction requests with
    | nil => exact ⟨[], .nil, fun _ hkey => absurd hkey List.not_mem_nil⟩
    | cons q requests ih =>
      rw [List.forall_mem_cons] at hall
      obtain ⟨key, hnamed, hkey⟩ := hall.1
      obtain ⟨keys, hkeys, hready⟩ := ih hall.2
      exact ⟨key :: keys, .cons hnamed hkeys, List.forall_mem_cons.2 ⟨hkey, hready⟩⟩

/-- **A request that comes up is what is reported** if its chain has no path, whatever is asked for
after it. -/
theorem compile_of_path_error (h : compile tree root (.ok before) weights thresholds = .ok r)
    {q : ChainRequest} {key : ChainKey} (hq : (q.key root : Except (Fault α) ChainKey) = .ok key)
    (hkey : key ∉ r.chains) {fault : Fault α} (hpath : tree.path r.above key.1 key.2 = .error fault)
    (after : List ChainRequest) :
    ∃ log, compile tree root (.ok (before ++ q :: after)) weights thresholds =
      .error ⟨fault, log⟩ := by
  obtain ⟨above, r₀, line, habove, hbefore, rfl⟩ := compile_eq_ok h
  obtain ⟨_, -, hr⟩ := aligned_of_compile h
  have hgiven := madeFrom_of_compile h
  have hnew : r₀.frames.contains key = false := by
    rw [Bool.eq_false_iff, ne_eq, FrameTable.contains_iff_mem_keys]
    intro hmem
    exact hkey (hr.keys_eq ▸ hmem)
  have hmade : MadeFrom tree root weights thresholds r₀ :=
    ⟨hgiven.tree_eq, hgiven.root_eq, hgiven.above_eq, hgiven.weights_eq, hgiven.thresholds_eq⟩
  have hrefused : r₀.addChain key = .error ⟨fault, r₀.log⟩ :=
    addChain_of_path_error hmade hnew hpath
  refine ⟨r₀.log, ?_⟩
  rw [compile, habove]
  simp only
  rw [addChains_append, hbefore, ok_bind, addChains, show r₀.root = root from hgiven.root_eq, hq]
  change (r₀.addChain key >>= _) >>= _ = _
  rw [hrefused]
  rfl

/-- **The ends of chains.** The chains of a robot lead from link to link of its tree, or from a
name to itself. A request for any other chain with an end that is not a link cannot be met, and if
nothing before it is wrong, this is reported: as a link that is not known if it is the tip, and
else as the joint that is missing above the root. A request for a chain from a name to itself can
always be met. -/
theorem compile_ends {name : String} {joints : List (Joint α)} {extra : List String}
    (htree : Tree.ofJoints name joints extra = .ok tree) (root : String)
    (weights thresholds : Settings α) :
    (∀ requests r, compile tree root (.ok requests) weights thresholds = .ok r →
      ∀ key ∈ r.chains, key.1 = key.2 ∨ key.1 ∈ tree.linkNames ∧ key.2 ∈ tree.linkNames) ∧
    ∀ before q after key, (q.key root : Except (Fault α) ChainKey) = .ok key →
      (key.1 ≠ key.2 → ¬(key.1 ∈ tree.linkNames ∧ key.2 ∈ tree.linkNames) →
        ∃ failure, compile tree root (.ok (before ++ q :: after)) weights thresholds =
            .error failure ∧
          ((∃ r, compile tree root (.ok before) weights thresholds = .ok r) →
            failure.fault = (if key.2 ∈ tree.linkNames then .noParentJoint tree.root
              else .unknownLink key.2) ∧
            failure.fault.kind = .integrity)) ∧
      (key.1 = key.2 →
        ((∃ r, compile tree root (.ok (before ++ q :: after)) weights thresholds = .ok r) ↔
          ∃ r, compile tree root (.ok (before ++ after)) weights thresholds = .ok r)) := by
  have hrooted := Tree.isRooted_of_ofJoints htree
  refine ⟨fun requests r h key hkey => ?_, fun before q after key hq =>
    ⟨fun hne hends => ?_, fun heq => ?_⟩⟩
  · exact or_iff_not_imp_left.2 ((chainReady_of_compile hrooted h hkey).ends hrooted)
  · have hnot : ¬∃ r, compile tree root (.ok (before ++ q :: after)) weights thresholds =
        .ok r := by
      rw [exists_compile_iff_forall hrooted]
      intro hall
      obtain ⟨key', hq', hready⟩ := hall q (List.mem_append_right _ List.mem_cons_self)
      obtain rfl := Except.ok.inj (hq.symm.trans hq')
      exact hends (hready.ends hrooted hne)
    rcases hfail : compile tree root (.ok (before ++ q :: after)) weights thresholds
      with failure | r
    · refine ⟨failure, rfl, ?_⟩
      rintro ⟨r, hbefore⟩
      have hkey : key ∉ r.chains := fun hkey =>
        hends ((chainReady_of_compile hrooted hbefore hkey).ends hrooted hne)
      obtain ⟨log, hreport⟩ := compile_of_path_error hbefore hq hkey
        (hrooted.path_of_stranger (madeFrom_of_compile hbefore).above_eq hne hends) after
      obtain rfl := Except.error.inj (hfail.symm.trans hreport)
      refine ⟨rfl, ?_⟩
      dsimp only
      split <;> rfl
    · exact absurd ⟨r, hfail⟩ hnot
  · rw [exists_compile_iff_forall hrooted, exists_compile_iff_forall hrooted]
    simp only [List.forall_mem_append, List.forall_mem_cons]
    have hself : ∃ key, (q.key root : Except (Fault α) ChainKey) = .ok key ∧
        ChainReady tree weights thresholds key :=
      ⟨key, hq, chainReady_self tree weights thresholds heq⟩
    simp only [hself, true_and]

/-- **The mast on the cart can be had**, the chains that are had have links at their ends, and what
is asked for next to the mast is refused if it is a chain to or from a ghost. -/
theorem compile_ends_cart :
    (∃ r, compile cartTree "rail" (.ok [.tip "mast"]) [("slide", .real 1)] [] = .ok r ∧
      r.chains ≠ [] ∧
      ∀ key ∈ r.chains, key.1 = key.2 ∨ key.1 ∈ cartTree.linkNames ∧ key.2 ∈ cartTree.linkNames) ∧
    (∃ failure, compile cartTree "rail" (.ok [.tip "mast", .tip "ghost"]) [("slide", .real 1)] [] =
      .error failure ∧ failure.fault = .unknownLink "ghost") ∧
    ∃ failure, compile cartTree "rail" (.ok [.tip "mast", .ends "ghost" "mast"])
      [("slide", .real 1)] [] = .error failure ∧ failure.fault = .noParentJoint "rail" := by
  have htree : Tree.ofJoints "cart" cartJoints [] = .ok cartTree := by cbv
  have hsome : (compile cartTree "rail" (.ok [.tip "mast"])
      [("slide", .real 1)] []).toOption.map (·.chains) = some [("rail", "mast")] := by
    decide +kernel
  have hmast : "mast" ∈ cartTree.linkNames := by decide
  have hghost : "ghost" ∉ cartTree.linkNames := by decide
  obtain ⟨hhad, hrefused⟩ := compile_ends htree "rail" [("slide", .real 1)] []
  obtain ⟨r, hok, hchains⟩ := exists_of_map_toOption hsome
  refine ⟨⟨r, hok, by simp [hchains], hhad _ r hok⟩, ?_, ?_⟩
  · obtain ⟨failure, hfail, hreport⟩ := (hrefused [.tip "mast"] (.tip "ghost") [] _ rfl).1
      (by decide) fun hends => hghost hends.2
    exact ⟨failure, hfail, (hreport ⟨r, hok⟩).1.trans (if_neg hghost)⟩
  · obtain ⟨failure, hfail, hreport⟩ := (hrefused [.tip "mast"] (.ends "ghost" "mast") [] _ rfl).1
      (by decide) fun hends => hghost hends.1
    exact ⟨failure, hfail, (hreport ⟨r, hok⟩).1.trans (if_pos hmast)⟩

/-- **A chain whose ends are not links of the tree**: a robot can be asked for the ghost of a cart,
if the chains begin there. -/
theorem not_compile_ends :
    Tree.ofJoints "cart" cartJoints [] = .ok cartTree ∧
    ¬∀ r, compile cartTree "ghost" (.ok [.tip "ghost"]) [] [] = .ok r →
      ∀ key ∈ r.chains, key.1 ∈ cartTree.linkNames ∧ key.2 ∈ cartTree.linkNames := by
  refine ⟨by cbv, fun hall => ?_⟩
  have hsome : (compile cartTree "ghost" (.ok [.tip "ghost"]) [] []).toOption.map (·.chains) =
      some [("ghost", "ghost")] := by
    decide +kernel
  obtain ⟨r, hok, hchains⟩ := exists_of_map_toOption hsome
  have hghost : "ghost" ∉ cartTree.linkNames := by decide
  exact hghost (hall r hok ("ghost", "ghost") (by simp [hchains])).1

end Robot

end Linkage
