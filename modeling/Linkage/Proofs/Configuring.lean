import Linkage.Config
import Linkage.Proofs.Diagnosis
import Mathlib.Data.List.Induction
import Mathlib.Data.List.Nodup

/-!
# What is reported of a configuration

A configuration is read from a value of any shape, and much of that value is taken apart
before anything is known of it. What comes out is told here without running the reader.

The value is put to a list of *looks* (`Linkage.Config.Look`): one for each section, and one
for each item or entry that the section holds. What a look finds is said of its place alone,
whatever else is wrong with the value. It can find a *defect*
(`Linkage.Config.Look.Defect`), for which there is a message about the configuration; but it
can also go *astray* (`Linkage.Config.Look.Strays`), where the place is asked for something
that it does not offer, a number for its members or a mapping for its first one, or where
something has to be written that has too many digits. What the first look to find something
finds is reported.

## Main results

* `Linkage.Config.ofValue_eq_error_iff`: what is reported of a mapping.
* `Linkage.Config.isRead_of_ofValue`: what a configuration holds if nothing is.
* `Linkage.Config.ofValue_reports`: which reports are about the configuration.
* `Linkage.Config.not_ofValue_reports`: that not all of them are.
-/

namespace Linkage

/-- **The last of some things that `p` holds of.** -/
def IsLast {β : Type} (p : β → Prop) (xs : List β) (x : β) : Prop := IsFirst p xs.reverse x

namespace Config

/-! ### The looks -/

section Looks

variable (entries : List (Value × Value))

/-- What stands in a part of a configuration, unless it counts as absent. -/
def given? (part : String) : Option Value := Value.present? (Value.under? part entries)

/-- What a section holds that is gone through item by item. -/
def itemsOf (part : String) : List Value := ((given? entries part).bind Value.items?).getD []

/-- What a section holds that is a mapping. -/
def entriesOf (part : String) : List (Value × Value) :=
  ((given? entries part).bind Value.entries?).getD []

/-- **What a configuration is looked through for.** -/
inductive Look where
  /-- A root. -/
  | root
  /-- A section that can be gone through. -/
  | sequence (part : String)
  /-- A tip among the tips. -/
  | tip (v : Value)
  /-- A pair among the chains. -/
  | pair (v : Value)
  /-- A root that can be written. -/
  | name (root : Value)
  /-- A section that is a mapping. -/
  | mapping (part : String)
  /-- A number under a key of a section. -/
  | setting (part : String) (key value : Value)

/-- The looks at a section of settings. -/
def settingLooks (part : String) : List Look :=
  .mapping part :: (entriesOf entries part).map fun e => .setting part e.1 e.2

/-- **The looks in order.** -/
def looks : List Look :=
  .root :: .sequence "tip_links" :: ((itemsOf entries "tip_links").map .tip ++
    .sequence "chains" :: ((itemsOf entries "chains").map .pair ++
      ((given? entries "root_link").toList.map .name ++
        (settingLooks entries "weights" ++ settingLooks entries "thresholds"))))

end Looks

variable {entries : List (Value × Value)}

/-- The number that a setting comes to. -/
inductive Amounts : Value → Float → Prop
  /-- An integer comes to the number nearest to it. -/
  | int {n : Int} {x : Float} (h : Scalar.ofInt? n = some x) : Amounts (.int n) x
  | float (x : Float) : Amounts (.float x) x

/-- **A number**, which no truth value is. -/
def IsNumeric (v : Value) : Prop := (∃ n, v = .int n) ∨ ∃ x, v = .float x

namespace Look

/-- What a message about a look has to show. -/
def shown : Look → List Value
  | tip v | pair v | name v => [v]
  | setting _ key value => [key, value]
  | root | sequence _ | mapping _ => []

/-- **What is wrong with a configuration** where a look is taken, whatever else is wrong
with it. -/
inductive Defect (entries : List (Value × Value)) : Look → Fault Float → Prop
  | root (h : given? entries "root_link" = none) : Defect entries root .noRootLink
  /-- A tip is no text. -/
  | tip {v : Value} (h : v.text? = none) : Defect entries (tip v) (.malformedTip v)
  /-- A chain is a text, which is never taken apart. -/
  | text {s : String} : Defect entries (pair (.text s)) (.malformedPair (.text s))
  /-- A chain holds something other than two texts. -/
  | pair {v : Value} {items : List Value} (h : v.items? = some items)
      (hitems : ∀ first second, items ≠ [.text first, .text second]) :
      Defect entries (pair v) (.malformedPair v)
  | mapping {part : String} {v : Value} (h : given? entries part = some v)
      (hv : v.entries? = none) : Defect entries (mapping part) (.malformedSection part)
  | setting {part : String} {key value : Value} (h : ¬IsNumeric value) :
      Defect entries (setting part key value) (.malformedEntry key.plain part value)

/-- **Where a look goes astray**: it asks for something that is not offered. -/
inductive Strays (entries : List (Value × Value)) : Look → Fault Float → Prop
  /-- A section cannot be gone through. -/
  | sequence {part : String} {v : Value} (h : given? entries part = some v)
      (hv : v.items? = none) : Strays entries (sequence part) (.notIterable v)
  /-- A chain has no members to be counted. -/
  | count {v : Value} (h : v.items? = none) : Strays entries (pair v) (.notCountable v)
  /-- A chain is a mapping with two texts for keys, and asked for what is under zero. -/
  | key {v x y : Value} {first second : String}
      (h : v.untied = .mapping [(.text first, x), (.text second, y)]) :
      Strays entries (pair v) (.noIndex 0)
  /-- A chain is a set of two texts, and none of them is the first. -/
  | index {v : Value} {first second : String} (h : v.untied = .set [.text first, .text second]) :
      Strays entries (pair v) (.notIndexable v)
  /-- A message would have to show what cannot be written. -/
  | digits {look : Look} {fault : Fault Float} (h : Defect entries look fault)
      (hshown : Value.areWritable look.shown = false) :
      Strays entries look (.tooManyDigits none)
  /-- The root cannot be written, -/
  | root {v : Value} (h : v.isWritable = false) : Strays entries (name v) (.tooManyDigits none)
  /-- or the key of a number. -/
  | name {part : String} {key value : Value} {x : Float} (h : Amounts value x)
      (hkey : key.isWritable = false) :
      Strays entries (setting part key value) (.tooManyDigits none)
  /-- An integer has no number nearest to it. -/
  | large {part : String} {key : Value} {n : Int} (h : (Scalar.ofInt? n : Option Float) = none) :
      Strays entries (setting part key (.int n)) .tooLarge

/-- **What a look finds.** -/
inductive Finds (entries : List (Value × Value)) (look : Look) (fault : Fault Float) : Prop
  | defect (h : Defect entries look fault) (hshown : Value.areWritable look.shown = true)
  | stray (h : Strays entries look fault)

/-- A look is the first to find something. -/
def Decides (entries : List (Value × Value)) (look : Look) : Prop :=
  IsFirst (fun look => ∃ fault, Finds entries look fault) (looks entries) look

/-- A defect is one of the configuration: something is missing or invalid. -/
theorem Defect.kind {look : Look} {fault : Fault Float} (h : Defect entries look fault) :
    fault.kind = .missing ∨ fault.kind = .invalid := by
  cases h with
  | root => exact Or.inl rfl
  | _ => exact Or.inr rfl

/-- What goes astray is not. -/
theorem Strays.kind {look : Look} {fault : Fault Float} (h : Strays entries look fault) :
    fault.kind ≠ .missing ∧ fault.kind ≠ .invalid := by
  cases h <;> exact ⟨nofun, nofun⟩

end Look

/-! ### The readers, one by one -/

section Readers

variable {part : String} {v key value : Value} {fault : Fault Float}

/-- One tip. -/
def readTip : Value → Read ChainRequest
  | .text link => .ok (.tip link)
  | v => refuse (.malformedTip v) [v]

theorem readTips_eq_mapM (vs : List Value) : readTips vs = vs.mapM readTip := by
  induction vs with
  | nil => rfl
  | cons v vs ih =>
    rw [List.mapM_cons, ← ih]
    cases v <;> rfl

theorem readPairs_eq_mapM (vs : List Value) : readPairs vs = vs.mapM readPair := by
  induction vs with
  | nil => rfl
  | cons v vs ih => rw [readPairs, ih, List.mapM_cons]

/-- One setting, under the name that its key goes by. -/
def readEntry (part : String) (e : Value × Value) : Read (String × Float) := do
  let x ← readNumber part e.1 e.2
  return (← readPlain e.1, x)

/-- Settings put into a list, one after the other. -/
def setAll (found xs : List (String × Float)) : List (String × Float) :=
  xs.foldl (fun found e => set e.1 e.2 found) found

/-- The numbers of a section are read one by one before they are put together. -/
theorem readNumbers_eq_mapM (part : String) (found : List (String × Float))
    (es : List (Value × Value)) :
    readNumbers part found es = setAll found <$> es.mapM (readEntry part) := by
  induction es generalizing found with
  | nil => rfl
  | cons e es ih =>
    rw [List.mapM_cons, readNumbers, readEntry]
    rcases readNumber part e.1 e.2 with fault | x
    · rfl
    rcases readPlain e.1 with fault | name
    · rfl
    change readNumbers part (set name x found) es = _
    rw [ih]
    cases es.mapM (readEntry part) <;> rfl

theorem readNumber_eq_ok_iff {x : Float} : readNumber part key v = .ok x ↔ Amounts v x := by
  constructor
  · intro h
    unfold readNumber at h
    split at h
    · next n =>
      split at h
      · next y hn =>
        obtain rfl := Except.ok.inj h
        exact .int hn
      · cases h
    · obtain rfl := Except.ok.inj h
      exact .float _
    · cases h
  · intro h
    cases h with
    | int h => rw [readNumber, h]
    | float => rfl

/-- What is no number is refused. -/
theorem readNumber_of_not_isNumeric (h : ¬IsNumeric v) :
    readNumber part key v = refuse (.malformedEntry key.plain part v) [key, v] := by
  cases v with
  | int n => exact absurd (Or.inl ⟨n, rfl⟩) h
  | float x => exact absurd (Or.inr ⟨x, rfl⟩) h
  | _ => rfl

end Readers

namespace Look

/-! ### The looks taken -/

variable {look : Look} {fault : Fault Float}

/-- What a look finds, worked out with the readers. -/
def finding? (entries : List (Value × Value)) : Look → Option (Fault Float)
  | root => if given? entries "root_link" = none then some .noRootLink else none
  | sequence part => faultOf? (items (given? entries part))
  | tip v => faultOf? (readTip v)
  | pair v => faultOf? (readPair v)
  | name v => faultOf? (readPlain v)
  | mapping part =>
    (given? entries part).bind fun v =>
      if v.entries?.isNone then some (.malformedSection part) else none
  | setting part key value => faultOf? (readEntry part (key, value))

/-- A defect is found in one way or the other. -/
theorem Finds.of_defect (h : Defect entries look fault) :
    Finds entries look (if Value.areWritable look.shown then fault else .tooManyDigits none) := by
  split
  · next hshown => exact .defect h hshown
  · next hshown => exact .stray (.digits h (Bool.eq_false_iff.2 hshown))

/-- A defect is refused, -/
theorem Defect.finding? (h : Defect entries look fault) :
    look.finding? entries =
      some (if Value.areWritable look.shown then fault else .tooManyDigits none) := by
  cases h with
  | root h => exact if_pos h
  | @tip v h =>
    cases v with
    | text s => cases h
    | _ => rfl
  | text => rfl
  | @pair v items h hitems =>
    rw [Look.finding?]
    unfold readPair
    split
    · rfl
    rw [h]
    split
    · next heq => cases heq
    · next first second heq => exact absurd (Option.some.inj heq) (hitems first second)
    · rfl
  | mapping h hv =>
    rw [Look.finding?, h, Option.bind_some, hv]
    rfl
  | setting h =>
    rw [Look.finding?, readEntry, readNumber_of_not_isNumeric h]
    rfl

/-- and what goes astray is a failure as it stands. -/
theorem Strays.finding? (h : Strays entries look fault) : look.finding? entries = some fault := by
  cases h with
  | sequence h hv =>
    rw [Look.finding?, h, items, hv]
    rfl
  | @count v h =>
    rw [Look.finding?]
    unfold readPair
    split
    · cases h
    · rw [h]
      rfl
  | @key v x y first second h =>
    have hitems : v.items? = some [.text first, .text second] := by
      rw [Value.items?, h]
      rfl
    rw [Look.finding?]
    unfold readPair
    split
    · cases h
    · rw [hitems, h]
      rfl
  | @index v first second h =>
    have hitems : v.items? = some [.text first, .text second] := by
      rw [Value.items?, h]
    rw [Look.finding?]
    unfold readPair
    split
    · cases h
    · rw [hitems, h]
      rfl
  | digits h hshown => rw [h.finding?, if_neg (Bool.eq_false_iff.1 hshown)]
  | root h =>
    rw [Look.finding?, readPlain, if_neg (Bool.eq_false_iff.1 h)]
    rfl
  | name h hkey =>
    rw [Look.finding?, readEntry, readNumber_eq_ok_iff.2 h, ok_bind, readPlain,
      if_neg (Bool.eq_false_iff.1 hkey)]
    rfl
  | large h =>
    rw [Look.finding?, readEntry, readNumber, h]
    rfl

/-- What comes of a value where a pair is expected. -/
theorem finds_of_readPair {v : Value} (h : faultOf? (readPair v) = some fault) :
    Finds entries (pair v) fault := by
  unfold readPair at h
  split at h
  · obtain rfl := Option.some.inj h
    exact .of_defect .text
  split at h
  · next hitems =>
    obtain rfl := Option.some.inj h
    exact .stray (.count hitems)
  · next first second hitems =>
    rw [Value.items?] at hitems
    split at h
    · next es huntied =>
      obtain rfl := Option.some.inj h
      -- A mapping is gone through by its keys, so the two texts are all of them.
      rw [huntied] at hitems
      obtain ⟨⟨k, x⟩, _, rfl, hk, hitems⟩ := List.map_eq_cons_iff.1 (Option.some.inj hitems)
      obtain ⟨⟨l, y⟩, _, rfl, hl, hitems⟩ := List.map_eq_cons_iff.1 hitems
      obtain rfl := List.map_eq_nil_iff.1 hitems
      cases hk
      cases hl
      exact .stray (.key huntied)
    · next vs huntied =>
      obtain rfl := Option.some.inj h
      rw [huntied] at hitems
      obtain rfl := Option.some.inj hitems
      exact .stray (.index huntied)
    · cases h
  · next items hother hitems =>
    obtain rfl := Option.some.inj h
    exact .of_defect (.pair hitems hother)

/-- What comes of an entry of a section of settings. -/
theorem finds_of_readEntry {part : String} {key value : Value}
    (h : faultOf? (readEntry part (key, value)) = some fault) :
    Finds entries (setting part key value) fault := by
  by_cases hvalue : IsNumeric value
  · rcases hread : readNumber part key value with fault' | x
    · rw [readEntry, hread] at h
      obtain rfl := Option.some.inj h
      rcases hvalue with ⟨n, rfl⟩ | ⟨x, rfl⟩
      · rw [readNumber] at hread
        split at hread
        · cases hread
        · next hn =>
          cases hread
          exact .stray (.large hn)
      · cases hread
    · rw [readEntry, hread, ok_bind, readPlain] at h
      split at h
      · cases h
      · next hkey =>
        obtain rfl := Option.some.inj h
        exact .stray (.name (readNumber_eq_ok_iff.1 hread) (Bool.eq_false_iff.2 hkey))
  · rw [readEntry, readNumber_of_not_isNumeric hvalue] at h
    obtain rfl := Option.some.inj h
    exact .of_defect (.setting hvalue)

theorem finds_of_finding? (h : look.finding? entries = some fault) : Finds entries look fault := by
  cases look with
  | root =>
    obtain ⟨hroot, ⟨⟩⟩ := Option.ite_none_right_eq_some.1 h
    exact .defect (.root hroot) rfl
  | sequence part =>
    rw [finding?] at h
    rcases hgiven : given? entries part with _ | v
    · rw [hgiven] at h
      cases h
    · rw [hgiven, items] at h
      split at h
      · cases h
      · next hitems =>
        obtain rfl := Option.some.inj h
        exact .stray (.sequence hgiven hitems)
  | tip v =>
    cases htext : v.text? with
    | some s =>
      obtain rfl : v = .text s := by
        cases v with
        | text t => rw [Option.some.inj htext]
        | _ => cases htext
      cases h
    | none =>
      have hdefect : Defect entries (tip v) (.malformedTip v) := .tip htext
      rw [hdefect.finding?] at h
      obtain rfl := Option.some.inj h
      exact .of_defect hdefect
  | pair v => exact finds_of_readPair h
  | name v =>
    rw [finding?, readPlain] at h
    split at h
    · cases h
    · next hv =>
      obtain rfl := Option.some.inj h
      exact .stray (.root (Bool.eq_false_iff.2 hv))
  | mapping part =>
    obtain ⟨v, hgiven, h⟩ := Option.bind_eq_some_iff.1 h
    obtain ⟨hv, ⟨⟩⟩ := Option.ite_none_right_eq_some.1 h
    exact .defect (.mapping hgiven (Option.isNone_iff_eq_none.1 hv)) rfl
  | setting part key value => exact finds_of_readEntry h

theorem finding?_eq_some_iff : look.finding? entries = some fault ↔ Finds entries look fault := by
  constructor
  · exact finds_of_finding?
  · rintro (⟨h, hshown⟩ | ⟨h⟩)
    · rw [h.finding?, if_pos hshown]
    · exact h.finding?

end Look

/-! ### What comes of a configuration -/

section Outcome

variable {v : Value} {fault : Fault Float}

open Look

/-- The items of a section that can be gone through are those that are read. -/
theorem itemsOf_eq {part : String} {vs : List Value} (h : items (given? entries part) = .ok vs) :
    itemsOf entries part = vs := by
  rw [itemsOf]
  rcases hgiven : given? entries part with _ | v
  · rw [hgiven] at h
    exact Except.ok.inj h
  · rw [hgiven, items] at h
    split at h
    · next items hitems =>
      rw [Option.bind_some, hitems]
      exact Except.ok.inj h
    · cases h

/-- A section that is gone through is looked at as a whole, and then item by item. -/
theorem faultOf?_sequence {β γ : Type} {part : String} {f : Value → Read β} {g : List β → Read γ}
    {rest : Option (Fault Float)} (h : ∀ xs, faultOf? (g xs) = rest) :
    faultOf? (items (given? entries part) >>= fun vs => vs.mapM f >>= g) =
      ((sequence part).finding? entries).or
        (((itemsOf entries part).findSome? fun v => faultOf? (f v)).or rest) := by
  refine faultOf?_bind fun vs hvs => ?_
  rw [itemsOf_eq hvs, ← faultOf?_mapM]
  exact faultOf?_bind fun xs _ => h xs

/-- A section of settings is looked at as a whole, and then entry by entry. -/
theorem faultOf?_readSection (part : String) :
    faultOf? (readSection part (given? entries part)) =
      (settingLooks entries part).findSome? (·.finding? entries) := by
  rw [settingLooks, findSome?_cons_eq_or, List.findSome?_map, finding?, entriesOf]
  rcases given? entries part with _ | v
  · rfl
  rw [readSection, Option.bind_some, Option.bind_some]
  rcases v.entries? with _ | es
  · rfl
  · change faultOf? (readNumbers part [] es) = _
    rw [readNumbers_eq_mapM, faultOf?_map, faultOf?_mapM]
    rfl

/-- Without a root nothing more is read, -/
theorem ofValue_of_no_root (h : v.entries? = some entries)
    (hroot : given? entries "root_link" = none) : ofValue v = .error .noRootLink := by
  rw [given?] at hroot
  rw [ofValue, h]
  dsimp only
  rw [hroot]

/-- and with one, all sections are. -/
theorem ofValue_of_root {root : Value} (h : v.entries? = some entries)
    (hroot : given? entries "root_link" = some root) :
    ofValue v = do
      let tips ← readTips (← items (given? entries "tip_links"))
      let pairs ← readPairs (← items (given? entries "chains"))
      let name ← readPlain root
      let weights ← readSection "weights" (given? entries "weights")
      let thresholds ← readSection "thresholds" (given? entries "thresholds")
      return ⟨name, tips ++ pairs, weights, thresholds⟩ := by
  rw [given?] at hroot
  rw [ofValue, h]
  dsimp only
  rw [hroot]
  rfl

/-- **Reading a configuration takes its looks in order.** -/
theorem faultOf?_ofValue (h : v.entries? = some entries) :
    faultOf? (ofValue v) = (looks entries).findSome? (·.finding? entries) := by
  rw [looks, findSome?_cons_eq_or, finding?]
  rcases hroot : given? entries "root_link" with _ | root
  · rw [ofValue_of_no_root h hroot]
    rfl
  rw [ofValue_of_root h hroot]
  simp only [findSome?_cons_eq_or, List.findSome?_append, List.findSome?_map, readTips_eq_mapM,
    readPairs_eq_mapM, reduceCtorEq, if_false, Option.none_or, Option.toList_some,
    List.map_cons, List.map_nil, List.findSome?_nil, Option.or_none]
  refine faultOf?_sequence fun tips => ?_
  refine faultOf?_sequence fun pairs => ?_
  -- The root is written only after the chains, and before the settings.
  refine faultOf?_bind fun name _ => ?_
  rw [← faultOf?_readSection, ← faultOf?_readSection]
  refine faultOf?_bind fun weights _ => ?_
  exact faultOf?_map _ _

/-- **What is reported of a mapping** is what the first look to find something finds. -/
theorem ofValue_eq_error_iff (h : v.entries? = some entries) :
    ofValue v = .error fault ↔ ∃ look, Decides entries look ∧ Finds entries look fault := by
  rw [← faultOf?_eq_some_iff, faultOf?_ofValue h, findSome?_eq_some_iff_isFirst]
  simp only [finding?_eq_some_iff]
  rfl

end Outcome

/-! ### What a configuration holds -/

section Settings

theorem lookup_cons_eq_ite (name : String) (e : String × Float) (rest : List (String × Float)) :
    (e :: rest).lookup name = if name = e.1 then some e.2 else rest.lookup name := by
  by_cases h : name = e.1
  · rw [if_pos h, List.lookup_cons, beq_iff_eq.2 h]
  · rw [if_neg h, List.lookup_cons, beq_eq_false_iff_ne.2 h]

/-- What is found under a name once a setting has been put in, -/
theorem lookup_set (name name' : String) (x : Float) (xs : List (String × Float)) :
    (set name x xs).lookup name' = if name' = name then some x else xs.lookup name' := by
  induction xs with
  | nil => exact lookup_cons_eq_ite name' (name, x) []
  | cons e rest ih =>
    obtain ⟨n, y⟩ := e
    rw [set]
    by_cases hn : n = name
    · subst hn
      rw [if_pos (beq_self_eq_true n), lookup_cons_eq_ite, lookup_cons_eq_ite]
      split <;> rfl
    · rw [if_neg (by simpa using hn), lookup_cons_eq_ite, lookup_cons_eq_ite, ih]
      by_cases h : name' = n
      · rw [if_pos h, if_pos h, if_neg (h.trans_ne hn)]
      · rw [if_neg h, if_neg h]

/-- and under which names something is. -/
theorem mem_names_set {name name' : String} {x : Float} {xs : List (String × Float)} :
    name' ∈ (set name x xs).map Prod.fst ↔ name' = name ∨ name' ∈ xs.map Prod.fst := by
  induction xs with
  | nil => simp [set]
  | cons e rest ih =>
    obtain ⟨n, y⟩ := e
    rw [set]
    by_cases hn : n = name
    · subst hn
      simp
    · simp only [beq_eq_false_iff_ne.2 hn, Bool.false_eq_true, if_false, List.map_cons,
        List.mem_cons, ih]
      tauto

theorem nodup_set {name : String} {x : Float} {xs : List (String × Float)}
    (h : (xs.map Prod.fst).Nodup) : ((set name x xs).map Prod.fst).Nodup := by
  induction xs with
  | nil => exact List.nodup_singleton name
  | cons e rest ih =>
    obtain ⟨n, y⟩ := e
    obtain ⟨hn, hrest⟩ := List.nodup_cons.1 h
    rw [set]
    by_cases hname : n = name
    · subst hname
      rw [if_pos (beq_self_eq_true n)]
      exact h
    · rw [if_neg (by simpa using hname)]
      refine List.nodup_cons.2 ⟨fun hmem => ?_, ih hrest⟩
      exact (mem_names_set.1 hmem).elim hname hn

theorem setAll_concat (found xs : List (String × Float)) (e : String × Float) :
    setAll found (xs ++ [e]) = set e.1 e.2 (setAll found xs) := by
  rw [setAll, List.foldl_append]
  rfl

/-- **The last setting of a name counts.** -/
theorem lookup_setAll (name : String) (xs : List (String × Float)) :
    (setAll [] xs).lookup name = xs.reverse.lookup name := by
  induction xs using List.reverseRecOn with
  | nil => rfl
  | append_singleton xs e ih =>
    rw [setAll_concat, lookup_set, List.reverse_concat, lookup_cons_eq_ite, ih]

theorem nodup_setAll (xs : List (String × Float)) : ((setAll [] xs).map Prod.fst).Nodup := by
  induction xs using List.reverseRecOn with
  | nil => exact List.nodup_nil
  | append_singleton xs e ih =>
    rw [setAll_concat]
    exact nodup_set ih

/-- A setting comes to one number. -/
theorem Amounts.eq {v : Value} {x y : Float} (hx : Amounts v x) (hy : Amounts v y) : x = y := by
  cases hx with
  | int h =>
    cases hy with
    | int h' => exact Option.some.inj (h.symm.trans h')
  | float => cases hy; rfl

/-- What is found first under a name is what the first entry of the name comes to. -/
theorem lookup_eq_some_iff_isFirst {es : List (Value × Value)} {xs : List (String × Float)}
    (h : List.Forall₂ (fun e y => y.1 = e.1.plain ∧ Amounts e.2 y.2) es xs) {name : String}
    {x : Float} :
    xs.lookup name = some x ↔ ∃ e, IsFirst (fun e => e.1.plain = name) es e ∧ Amounts e.2 x := by
  induction h with
  | nil =>
    constructor
    · intro h
      cases h
    · rintro ⟨e, h, -⟩
      exact absurd h.mem List.not_mem_nil
  | @cons e y es xs hy _ ih =>
    obtain ⟨n, y⟩ := y
    obtain ⟨rfl, hy⟩ := hy
    simp only [isFirst_cons_iff]
    by_cases hname : name = e.1.plain
    · subst hname
      rw [lookup_cons_eq_ite, if_pos rfl]
      constructor
      · intro h
        obtain rfl := Option.some.inj h
        exact ⟨e, Or.inl ⟨rfl, rfl⟩, hy⟩
      · rintro ⟨e', ⟨-, rfl⟩ | ⟨hne, -⟩, hx⟩
        · exact congrArg some (hy.eq hx)
        · exact absurd rfl hne
    · rw [lookup_cons_eq_ite, if_neg hname, ih]
      refine exists_congr fun e' => and_congr_left fun _ => ?_
      constructor
      · intro h
        exact Or.inr ⟨Ne.symm hname, h⟩
      · rintro (⟨heq, -⟩ | ⟨-, h⟩)
        · exact absurd heq.symm hname
        · exact h

/-- **What the entries of a section mean**: for each name, the number of the last entry whose
key goes by it. -/
structure Means (es : List (Value × Value)) (xs : List (String × Float)) : Prop where
  nodup : (xs.map Prod.fst).Nodup
  lookup : ∀ name x, xs.lookup name = some x ↔
    ∃ e, IsLast (fun e => e.1.plain = name) es e ∧ Amounts e.2 x

theorem means_setAll {es : List (Value × Value)} {xs : List (String × Float)}
    (h : List.Forall₂ (fun e y => y.1 = e.1.plain ∧ Amounts e.2 y.2) es xs) :
    Means es (setAll [] xs) where
  nodup := nodup_setAll xs
  lookup name x := by
    rw [lookup_setAll]
    exact lookup_eq_some_iff_isFirst (List.forall₂_reverse_iff.2 h)

theorem of_readEntry_eq_ok {part : String} {e : Value × Value} {y : String × Float}
    (h : readEntry part e = .ok y) : y.1 = e.1.plain ∧ Amounts e.2 y.2 := by
  obtain ⟨x, hx, h⟩ := exists_of_bind_eq_ok h
  rw [readPlain] at h
  split at h
  · obtain rfl := Except.ok.inj h
    exact ⟨rfl, readNumber_eq_ok_iff.1 hx⟩
  · cases h

/-- A section of settings that is read gives what its entries mean. -/
theorem means_of_readSection {part : String} {xs : List (String × Float)}
    (h : readSection part (given? entries part) = .ok xs) : Means (entriesOf entries part) xs := by
  rw [entriesOf]
  rcases hgiven : given? entries part with _ | v
  · rw [hgiven] at h
    obtain rfl := Except.ok.inj h
    exact means_setAll .nil
  rw [hgiven, readSection] at h
  split at h
  · cases h
  next es hes =>
  rw [readNumbers_eq_mapM] at h
  obtain ⟨ys, hys, rfl⟩ := exists_of_map_eq_ok h
  rw [Option.bind_some, hes]
  exact means_setAll ((mapM_eq_ok_iff.1 hys).imp fun _ _ => of_readEntry_eq_ok)

end Settings

/-- **What a configuration holds** if nothing is wrong with it. -/
structure IsRead (entries : List (Value × Value)) (config : Config) : Prop where
  root : ∃ v, given? entries "root_link" = some v ∧ config.root = v.plain
  /-- The tips come first, and then the pairs, each in its order. -/
  chains : ∃ (tips : List String) (ends : List ChainKey),
    itemsOf entries "tip_links" = tips.map .text ∧
    List.Forall₂ (fun v key => v.items? = some [.text key.1, .text key.2])
      (itemsOf entries "chains") ends ∧
    config.chains = tips.map .tip ++ ends.map fun key => .ends key.1 key.2
  weights : Means (entriesOf entries "weights") config.weights
  thresholds : Means (entriesOf entries "thresholds") config.thresholds

/-- Tips that are read are texts, -/
theorem exists_of_readTips {vs : List Value} {chains : List ChainRequest}
    (h : readTips vs = .ok chains) :
    ∃ tips : List String, vs = tips.map .text ∧ chains = tips.map .tip := by
  rw [readTips_eq_mapM, mapM_eq_ok_iff] at h
  induction h with
  | nil => exact ⟨[], rfl, rfl⟩
  | @cons v chain vs chains hv _ ih =>
    obtain ⟨tips, rfl, rfl⟩ := ih
    cases v with
    | text tip =>
      obtain rfl := Except.ok.inj hv
      exact ⟨tip :: tips, rfl, rfl⟩
    | _ => cases hv

/-- a pair is two texts, -/
theorem exists_of_readPair {v : Value} {chain : ChainRequest} (h : readPair v = .ok chain) :
    ∃ key : ChainKey, v.items? = some [.text key.1, .text key.2] ∧ chain = .ends key.1 key.2 := by
  unfold readPair at h
  split at h
  · cases h
  split at h
  · cases h
  · next first second hitems =>
    split at h
    · cases h
    · cases h
    · exact ⟨(first, second), hitems, (Except.ok.inj h).symm⟩
  · cases h

/-- and so are pairs. -/
theorem exists_of_readPairs {vs : List Value} {chains : List ChainRequest}
    (h : readPairs vs = .ok chains) :
    ∃ ends : List ChainKey,
      List.Forall₂ (fun v key => v.items? = some [.text key.1, .text key.2]) vs ends ∧
      chains = ends.map fun key => .ends key.1 key.2 := by
  rw [readPairs_eq_mapM, mapM_eq_ok_iff] at h
  induction h with
  | nil => exact ⟨[], .nil, rfl⟩
  | cons hv _ ih =>
    obtain ⟨ends, hends, rfl⟩ := ih
    obtain ⟨key, hitems, rfl⟩ := exists_of_readPair hv
    exact ⟨key :: ends, .cons hitems hends, rfl⟩

/-- **A configuration that is read holds what its value does.** -/
theorem isRead_of_ofValue {v : Value} {config : Config} (h : v.entries? = some entries)
    (hread : ofValue v = .ok config) : IsRead entries config := by
  rcases hroot : given? entries "root_link" with _ | root
  · rw [ofValue_of_no_root h hroot] at hread
    cases hread
  rw [ofValue_of_root h hroot] at hread
  obtain ⟨items, hitems, hread⟩ := exists_of_bind_eq_ok hread
  obtain ⟨chains, hchains, hread⟩ := exists_of_bind_eq_ok hread
  obtain ⟨items', hitems', hread⟩ := exists_of_bind_eq_ok hread
  obtain ⟨chains', hchains', hread⟩ := exists_of_bind_eq_ok hread
  obtain ⟨name, hname, hread⟩ := exists_of_bind_eq_ok hread
  obtain ⟨weights, hweights, hread⟩ := exists_of_bind_eq_ok hread
  obtain ⟨thresholds, hthresholds, hread⟩ := exists_of_bind_eq_ok hread
  obtain rfl := Except.ok.inj hread
  obtain ⟨tips, rfl, rfl⟩ := exists_of_readTips hchains
  obtain ⟨ends, hends, rfl⟩ := exists_of_readPairs hchains'
  rw [← itemsOf_eq hitems'] at hends
  refine ⟨⟨root, hroot, ?_⟩, ⟨tips, ends, itemsOf_eq hitems, hends, rfl⟩,
    means_of_readSection hweights, means_of_readSection hthresholds⟩
  rw [readPlain] at hname
  split at hname
  · exact (Except.ok.inj hname).symm
  · cases hname

/-! ### Which reports are about the configuration -/

open Look

/-- **What is reported of any value.** A report that something is missing or invalid is about a
value that is no mapping, or about the first defect, if that can be shown. Every other report
says where a look has gone astray before anything was found. -/
theorem ofValue_reports (v : Value) (fault : Fault Float) :
    (ofValue v = .error fault ∧ (fault.kind = .missing ∨ fault.kind = .invalid) ↔
      v.entries? = none ∧ fault = .notMapping v ∨
        ∃ entries look, v.entries? = some entries ∧ Decides entries look ∧
          Defect entries look fault ∧ Value.areWritable look.shown = true) ∧
    (ofValue v = .error fault ∧ ¬(fault.kind = .missing ∨ fault.kind = .invalid) ↔
      ∃ entries look, v.entries? = some entries ∧ Decides entries look ∧
        Strays entries look fault) := by
  rcases hentries : v.entries? with _ | entries
  · have hread : ofValue v = .error (.notMapping v) := by
      rw [ofValue, hentries]
    rw [hread]
    constructor
    · constructor
      · rintro ⟨h, -⟩
        exact Or.inl ⟨rfl, (Except.error.inj h).symm⟩
      · rintro (⟨-, rfl⟩ | ⟨entries, -, h, -⟩)
        · exact ⟨rfl, Or.inr rfl⟩
        · cases h
    · constructor
      · rintro ⟨h, hkind⟩
        obtain rfl := Except.error.inj h
        exact absurd (Or.inr rfl) hkind
      · rintro ⟨entries, -, h, -⟩
        cases h
  rw [ofValue_eq_error_iff hentries]
  constructor
  · constructor
    · rintro ⟨⟨look, hlook, ⟨h, hshown⟩ | ⟨h⟩⟩, hkind⟩
      · exact Or.inr ⟨entries, look, rfl, hlook, h, hshown⟩
      · exact absurd hkind (not_or.2 h.kind)
    · rintro (⟨h, -⟩ | ⟨entries', look, h, hlook, hdefect, hshown⟩)
      · cases h
      · obtain rfl := Option.some.inj h
        exact ⟨⟨look, hlook, .defect hdefect hshown⟩, hdefect.kind⟩
  · constructor
    · rintro ⟨⟨look, hlook, ⟨h, -⟩ | ⟨h⟩⟩, hkind⟩
      · exact absurd h.kind hkind
      · exact ⟨entries, look, rfl, hlook, h⟩
    · rintro ⟨entries', look, h, hlook, hstrays⟩
      obtain rfl := Option.some.inj h
      exact ⟨⟨look, hlook, .stray hstrays⟩, not_or.2 hstrays.kind⟩

/-- A configuration that asks for one chain, given as some value. -/
def fork (chain : Value) : Value :=
  .mapping [(.text "root_link", .text "base"), (.text "chains", .list [chain])]

/-- **Not everything that is wrong with a configuration is reported as such**: a number where a
pair is expected is counted. -/
theorem not_ofValue_reports :
    ¬∀ v : Value, (∃ config, ofValue v = .ok config) ∨
      ∃ fault, ofValue v = .error fault ∧ (fault.kind = .missing ∨ fault.kind = .invalid) := by
  intro h
  have hread : ofValue (fork (.int 5)) = .error (.notCountable (.int 5)) := rfl
  rcases h (fork (.int 5)) with ⟨config, hok⟩ | ⟨fault, herror, hkind⟩
  · cases hread.symm.trans hok
  · obtain rfl := Except.error.inj (hread.symm.trans herror)
    exact absurd hkind (by decide)

/-- A mapping with two texts for keys is asked for what is under zero. -/
example : ofValue (fork (.mapping [(.text "base", .null), (.text "hand", .null)])) =
    .error (.noIndex 0) := rfl

end Config

end Linkage
