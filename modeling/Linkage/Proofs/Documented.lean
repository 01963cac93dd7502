import Linkage.Proofs.Interchange
import Linkage.Proofs.Sparing

/-!
# Two ways to a robot

A robot can be made directly, of a root, a list of chains and settings as they are given, or of a
configuration, which is read first. The two ways check what they are given in different places.
Reading takes chains apart that a direct request hands over as they are, and it converts every
number before any of them is compared, where a direct robot compares the number that it was given.

A configuration of the shape that the documentation describes (`Linkage.Config.Documents`) is
always read, and its chains are those that a direct request names. Its settings match those given
directly, provided that every integer among them is a binary64 number: so the two ways keep in
step (`Linkage.Robot.compile_inStep`). And a configuration of any shape never gets as far as a
request that names no chain (`Linkage.Config.spares_ofConfig`).

* `Linkage.Config.Documents.exists_ofValue` – what is read of a documented configuration;
* `Linkage.Robot.ofConfig_direct` – that both ways come to the same.
-/

namespace Linkage

namespace Config

/-! ### The documented shape -/

/-- **A number as it stands in a configuration** and as it is given directly: an integer that is a
binary64 number, or one that is no integer. -/
inductive IsGiven : Value → Number Float → Prop
  | int {n : ℤ} (h : IsRepresentable n) : IsGiven (.int n) (.int n)
  | float (x : Float) : IsGiven (.float x) (.real x)

/-- **A chain by both of its ends**, in a list or side by side. -/
inductive IsPair : Value → ChainKey → Prop
  | list (root tip : String) : IsPair (.list [.text root, .text tip]) (root, tip)
  | pair (root tip : String) : IsPair (.pair (.text root) (.text tip)) (root, tip)

/-- **A section that is a list**, which may be absent. -/
def IsListOf (part : Option Value) (vs : List Value) : Prop :=
  (part = none ∧ vs = []) ∨ ∃ v, part = some v ∧ v.untied = .list vs

/-- **A section of settings**, each a number under a name, and each name once. It may be absent as
well. -/
structure IsSettingsOf (part : Option Value) (settings : Settings Float) : Prop where
  entries : (part = none ∧ settings = []) ∨ ∃ v es, part = some v ∧ v.untied = .mapping es ∧
    List.Forall₂ (fun e s => e.1 = .text s.1 ∧ IsGiven e.2 s.2) es settings
  nodup : (settings.map Prod.fst).Nodup

/-- **What a configuration of the documented shape asks for**: a root, tips, chains given by both
ends, weights and thresholds. What else the mapping holds does not matter. -/
structure Documents (entries : List (Value × Value)) (root : String) (tips : List String)
    (ends : List ChainKey) (weights thresholds : Settings Float) : Prop where
  root : given? entries "root_link" = some (.text root)
  tips : IsListOf (given? entries "tip_links") (tips.map .text)
  chains : ∃ pairs, IsListOf (given? entries "chains") pairs ∧ List.Forall₂ IsPair pairs ends
  weights : IsSettingsOf (given? entries "weights") weights
  thresholds : IsSettingsOf (given? entries "thresholds") thresholds

/-! ### Chains that are read -/

theorem IsListOf.items_eq {part : Option Value} {vs : List Value} (h : IsListOf part vs) :
    items part = .ok vs := by
  rcases h with ⟨rfl, rfl⟩ | ⟨v, rfl, hv⟩
  · rfl
  · rw [items, Value.items?, hv]

theorem readTips_text (tips : List String) : readTips (tips.map .text) = .ok (tips.map .tip) := by
  induction tips with
  | nil => rfl
  | cons tip tips ih =>
    rw [List.map_cons, readTips, ih]
    rfl

theorem readPairs_of_isPair {pairs : List Value} {ends : List ChainKey}
    (h : List.Forall₂ IsPair pairs ends) :
    readPairs pairs = .ok (ends.map fun key => .ends key.1 key.2) := by
  induction h with
  | nil => rfl
  | cons hpair _ ih =>
    rw [readPairs, ih]
    cases hpair <;> rfl

/-- A direct request names the same chains. -/
theorem listOfValue_of_isPair {pairs : List Value} {ends : List ChainKey}
    (h : List.Forall₂ IsPair pairs ends) (tips : List String) :
    (ChainRequest.listOfValue (.list (tips.map .text ++ pairs)) :
        Except (Fault Float) (List ChainRequest)) =
      .ok (tips.map .tip ++ ends.map fun key => .ends key.1 key.2) := by
  have hpairs : pairs.map ChainRequest.ofValue = ends.map fun key => .ends key.1 key.2 := by
    induction h with
    | nil => rfl
    | cons hpair _ ih =>
      rw [List.map_cons, List.map_cons, ih]
      cases hpair <;> rfl
  change Except.ok ((tips.map Value.text ++ pairs).map ChainRequest.ofValue) = _
  rw [List.map_append, hpairs, List.map_map]
  rfl

/-! ### Settings that are read -/

/-- **A number is read as one that matches it.** -/
theorem IsGiven.exists_readNumber {v : Value} {x : Number Float} (h : IsGiven v x)
    (part : String) (key : Value) :
    ∃ y, readNumber part key v = .ok y ∧ x.Matches (.real y) := by
  cases h with
  | @int n hn =>
    obtain ⟨y, hy, hmatches⟩ := hn.exists_matches
    exact ⟨y, readNumber_eq_ok_iff.2 (.int hy), hmatches⟩
  | float x => exact ⟨x, rfl, .refl _⟩

/-- A new name is put last, -/
theorem set_of_not_mem {name : String} {x : Float} {xs : List (String × Float)}
    (h : name ∉ xs.map Prod.fst) : set name x xs = xs ++ [(name, x)] := by
  induction xs with
  | nil => rfl
  | cons e rest ih =>
    obtain ⟨n, y⟩ := e
    rw [List.map_cons, List.mem_cons, not_or] at h
    rw [set, if_neg (by simpa using Ne.symm h.1), ih h.2, List.cons_append]

/-- so settings of different names are kept as they are. -/
theorem setAll_of_nodup {xs : List (String × Float)} (h : (xs.map Prod.fst).Nodup) :
    setAll [] xs = xs := by
  induction xs using List.reverseRecOn with
  | nil => rfl
  | append_singleton xs e ih =>
    rw [List.map_append, List.nodup_append] at h
    rw [setAll_concat, ih h.1]
    exact set_of_not_mem fun hmem => h.2.2 e.1 hmem e.1 (by simp) rfl

/-- Settings under the same names match if their numbers do. -/
theorem matches_settings {given : Settings Float} {xs : List (String × Float)}
    (h : List.Forall₂ (fun s y => y.1 = s.1 ∧ s.2.Matches (.real y.2)) given xs) :
    given.Matches (settings xs) := by
  intro name
  induction h with
  | nil => exact .none
  | @cons s y given xs hy _ ih =>
    obtain ⟨n, x⟩ := s
    obtain ⟨_, y⟩ := y
    obtain ⟨rfl, hmatches⟩ := hy
    change Option.Rel _ (((_, x) :: given).lookup name) (((_, .real y) :: settings xs).lookup name)
    rw [List.lookup_cons, List.lookup_cons]
    dsimp only
    split
    · exact .some hmatches
    · exact ih

/-- Entries are read one by one, each under its name. -/
theorem exists_mapM_readEntry {es : List (Value × Value)} {given : Settings Float} (part : String)
    (h : List.Forall₂ (fun e s => e.1 = .text s.1 ∧ IsGiven e.2 s.2) es given) :
    ∃ ys, es.mapM (readEntry part) = .ok ys ∧
      List.Forall₂ (fun s y => y.1 = s.1 ∧ s.2.Matches (.real y.2)) given ys := by
  induction h with
  | nil => exact ⟨[], rfl, .nil⟩
  | @cons e s es given hentry _ ih =>
    obtain ⟨_, value⟩ := e
    obtain ⟨rfl, hvalue⟩ := hentry
    obtain ⟨y, hy, hmatches⟩ := hvalue.exists_readNumber part (.text s.1)
    obtain ⟨ys, hys, hall⟩ := ih
    refine ⟨(s.1, y) :: ys, ?_, .cons ⟨rfl, hmatches⟩ hall⟩
    rw [List.mapM_cons, readEntry, hy, hys]
    rfl

/-- **A section of settings is read**, and what is read of it matches what is given directly. -/
theorem IsSettingsOf.exists_readSection {part : Option Value} {given : Settings Float}
    (h : IsSettingsOf part given) (name : String) :
    ∃ xs, readSection name part = .ok xs ∧ given.Matches (settings xs) := by
  obtain ⟨⟨rfl, rfl⟩ | ⟨v, es, rfl, hv, hes⟩, hnodup⟩ := h
  · exact ⟨[], rfl, .refl []⟩
  obtain ⟨ys, hys, hall⟩ := exists_mapM_readEntry name hes
  refine ⟨ys, ?_, matches_settings hall⟩
  have hnames : ys.map Prod.fst = given.map Prod.fst := map_eq_of_forall₂ hall fun _ _ h => h.1
  rw [readSection, Value.entries?, hv]
  dsimp only
  rw [readNumbers_eq_mapM, hys]
  exact congrArg Except.ok (setAll_of_nodup (hnames ▸ hnodup))

/-! ### What is read of a documented configuration -/

/-- **A documented configuration is read**: the root and the chains are those it documents, and its
settings match. -/
theorem Documents.exists_ofValue {v : Value} {entries : List (Value × Value)} {root : String}
    {tips : List String} {ends : List ChainKey} {weights thresholds : Settings Float}
    (h : Documents entries root tips ends weights thresholds) (hv : v.entries? = some entries) :
    ∃ config, ofValue v = .ok config ∧ config.root = root ∧
      config.chains = tips.map .tip ++ ends.map (fun key => .ends key.1 key.2) ∧
      weights.Matches (settings config.weights) ∧
      thresholds.Matches (settings config.thresholds) := by
  obtain ⟨pairs, hchains, hpairs⟩ := h.chains
  obtain ⟨ws, hws, hweights⟩ := h.weights.exists_readSection "weights"
  obtain ⟨ts, hts, hthresholds⟩ := h.thresholds.exists_readSection "thresholds"
  refine ⟨⟨root, _, ws, ts⟩, ?_, rfl, rfl, hweights, hthresholds⟩
  rw [ofValue_of_root hv h.root, h.tips.items_eq, ok_bind, readTips_text, ok_bind,
    hchains.items_eq, ok_bind, readPairs_of_isPair hpairs, ok_bind, hws, hts]
  rfl

end Config

/-! ### Both ways -/

namespace Robot

/-- **Both ways come to the same**, whatever the tree. A configuration of the documented shape is
always read. Then the robot of it and the robot that is asked for directly, by the tips and then
the pairs, with the numbers as they are, either both fail, with causes of one class, or both can be
had and are the same to whoever asks: in their chains, their joints, their constraints and their
frames, node by node. And whatever the shape of a configuration is, nothing that is reported of it
or of its robot is that a request names no chain. -/
theorem ofConfig_direct (tree : Tree Float) :
    (∀ v entries root tips ends pairs weights thresholds, Value.entries? v = some entries →
      Config.Documents entries root tips ends weights thresholds →
      List.Forall₂ Config.IsPair pairs ends →
      ∃ config, Config.ofValue v = .ok config ∧
        ((∃ failure failure', ofConfig tree config = .error failure ∧
            compile tree root (ChainRequest.listOfValue (.list (tips.map .text ++ pairs))) weights
              thresholds = .error failure' ∧
            failure'.fault.kind = failure.fault.kind) ∨
          ∃ r r', ofConfig tree config = .ok r ∧
            compile tree root (ChainRequest.listOfValue (.list (tips.map .text ++ pairs))) weights
              thresholds = .ok r' ∧
            r'.chains = r.chains ∧ r'.jointNames = r.jointNames ∧
            r'.controllables = r.controllables ∧ r'.hard = r.hard ∧
            ∀ a b, r'.frame a b = r.frame a b)) ∧
    ∀ v given, Config.ofValue v ≠ .error (.malformedRequest given) ∧
      ∀ config failure, Config.ofValue v = .ok config → ofConfig tree config = .error failure →
        failure.fault ≠ .malformedRequest given := by
  constructor
  · intro v entries root tips ends pairs weights thresholds hv hdocuments hpairs
    obtain ⟨config, hread, hroot, hchains, hweights, hthresholds⟩ := hdocuments.exists_ofValue hv
    refine ⟨config, hread, ?_⟩
    have hstep := compile_inStep hweights hthresholds tree root (.ok config.chains)
    rw [Config.listOfValue_of_isPair hpairs, ← hchains, ofConfig, hroot]
    rcases hstep.fail_or_succeed with ⟨failure', failure, hdirect, hconfig, hkind, -⟩ |
      ⟨r', r, hdirect, hconfig, ws, ts, -, -, rfl⟩
    · exact Or.inl ⟨failure, failure', hconfig, hdirect, hkind.symm⟩
    · exact Or.inr ⟨_, r', hconfig, hdirect, rfl, rfl, rfl, rfl, fun _ _ => rfl⟩
  · intro v given
    exact ⟨Config.spares_ofValue v given, fun config failure hread hfails =>
      Config.spares_ofConfig hread tree failure hfails given⟩

/-- The entries of a configuration of the cart, whose slide may go so fast. -/
def cartEntries (velocity : ℤ) : List (Value × Value) :=
  [(.text "root_link", .text "rail"), (.text "tip_links", .list [.text "mast"]),
    (.text "chains", .list [.list [.text "cart", .text "mast"]]),
    (.text "weights", .mapping [(.text "slide", .int 1)]),
    (.text "thresholds", .mapping [(.text "slide", .int velocity)])]

/-- What is asked of the cart directly. -/
def cartRequest : Value := .list [.text "mast", .pair (.text "cart") (.text "mast")]

theorem isRepresentable_one : IsRepresentable 1 := ⟨1, by decide +kernel⟩

theorem isRepresentable_two : IsRepresentable 2 := ⟨2, by decide +kernel⟩

theorem documents_cart {velocity : ℤ} (h : IsRepresentable velocity) :
    Config.Documents (cartEntries velocity) "rail" ["mast"] [("cart", "mast")]
      [("slide", .int 1)] [("slide", .int velocity)] where
  root := rfl
  tips := Or.inr ⟨_, rfl, rfl⟩
  chains := ⟨_, Or.inr ⟨_, rfl, rfl⟩, .cons (.list _ _) .nil⟩
  weights := ⟨Or.inr ⟨_, _, rfl, rfl, .cons ⟨rfl, .int isRepresentable_one⟩ .nil⟩, by simp⟩
  thresholds := ⟨Or.inr ⟨_, _, rfl, rfl, .cons ⟨rfl, .int h⟩ .nil⟩, by simp⟩

/-- **The mast of the cart** can be had both ways with a velocity that the slide can do, and is the
same. With one that it cannot do, it can be had neither way. -/
theorem ofConfig_direct_cart :
    (∃ config r r', Config.ofValue (.mapping (cartEntries 1)) = .ok config ∧
      ofConfig cartTree config = .ok r ∧
      compile cartTree "rail" (ChainRequest.listOfValue cartRequest) [("slide", .int 1)]
        [("slide", .int 1)] = .ok r' ∧
      r'.jointNames = r.jointNames ∧ r'.controllables = r.controllables) ∧
    ∃ config failure, Config.ofValue (.mapping (cartEntries 2)) = .ok config ∧
      ofConfig cartTree config = .error failure ∧ failure.fault.kind = .safety := by
  have hsome : ((compile cartTree "rail" (ChainRequest.listOfValue cartRequest)
      [("slide", .int 1)] [("slide", .int 1)]).toOption.map (·.size)) = some 1 := by
    decide +kernel
  have hkind : (match compile cartTree "rail" (ChainRequest.listOfValue cartRequest)
      [("slide", .int 1)] [("slide", .int 2)] with
    | .ok _ => none
    | .error failure => some failure.fault.kind) = some .safety := by
    decide +kernel
  have hentries : ∀ n, Value.entries? (.mapping (cartEntries n)) = some (cartEntries n) :=
    fun _ => rfl
  have hpair : List.Forall₂ Config.IsPair [.pair (.text "cart") (.text "mast")]
      [("cart", "mast")] := .cons (.pair _ _) .nil
  obtain ⟨hboth, -⟩ := ofConfig_direct cartTree
  constructor
  · obtain ⟨r', hdirect, -⟩ := exists_of_map_toOption hsome
    obtain ⟨config, hread, houtcome⟩ :=
      hboth _ _ _ _ _ _ _ _ (hentries 1) (documents_cart isRepresentable_one) hpair
    rcases houtcome with ⟨-, _, -, hfails, -⟩ | ⟨r, r₁, hok, hdirect', -, hnames, hbounds, -⟩
    · cases hdirect.symm.trans hfails
    · obtain rfl := Except.ok.inj (hdirect'.symm.trans hdirect)
      exact ⟨config, r, r₁, hread, hok, hdirect, hnames, hbounds⟩
  · rcases hdirect : compile cartTree "rail" (ChainRequest.listOfValue cartRequest)
        [("slide", .int 1)] [("slide", .int 2)] with failure' | r'
    · rw [hdirect] at hkind
      obtain ⟨config, hread, houtcome⟩ :=
        hboth _ _ _ _ _ _ _ _ (hentries 2) (documents_cart isRepresentable_two) hpair
      rcases houtcome with ⟨failure, failure₁, hfails, hdirect', heq⟩ | ⟨-, _, -, hok, -⟩
      · obtain rfl := Except.error.inj (hdirect'.symm.trans hdirect)
        exact ⟨config, failure, hread, hfails, heq.symm.trans (Option.some.inj hkind)⟩
      · cases hdirect.symm.trans hok
    · rw [hdirect] at hkind
      cases hkind

end Robot

end Linkage
