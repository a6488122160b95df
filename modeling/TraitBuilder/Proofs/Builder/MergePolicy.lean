import TraitBuilder.Proofs.Builder.Readers

/-!
# The policy of merging

What a merge leaves of a member depends on the kind of the member.  A required one takes the value
that is merged, but is not downgraded: where the template lacks a value, it keeps its own.  One with
a default value and an optional one hold exactly what is merged, even if that is no value, and the
elements of a list are added to those that are there.  Merging a value sets all that is required.

* `TakesTemplate`, `TakesValue`: the policy, kind by kind.
* `TakesTemplate.of_merged`, `TakesValue.of_merged`: it is read off what the merge does to a single
  member, which depends on nothing but that member.
* `merges_by_policy`: both methods follow the policy on every builder that a run leads to, and what
  they do to a member does not depend on the other members.
-/

namespace TraitBuilder

open Code Meaning

variable {D : Type}

namespace Blueprint

/-- The call of the method that merges a template returns and leaves `gs`. -/
def MergesTemplate (b : Blueprint) (given : Tokens → Value D) (n : Nat) (fs ts gs : Fields D) :
    Prop :=
  Leaves ((b.link given (n + 2)).method true (builderOf fs) (plain "merge_from_builder")
    [builderOf ts]) gs

/-- The call of the method that merges a value returns and leaves `gs`. -/
def MergesValue (b : Blueprint) (given : Tokens → Value D) (n : Nat) (fs : Fields D) (v : Value D)
    (gs : Fields D) : Prop :=
  Leaves ((b.link given (n + 2)).method true (builderOf fs) (plain "merge_from") [v]) gs

/-- What a call returns when the getter of the trait is asked for a member of a value. -/
def answer (b : Blueprint) (given : Tokens → Value D) (n : Nat) (v : Value D) (m : Member) :
    Answer D (Value D) :=
  (b.link given (n + 1)).associated b.typeName m.name [v]

/-! ## The policy -/

/-- The builder held `fs` and holds `gs` after a template that holds `ts` has been merged. -/
structure TakesTemplate (b : Blueprint) (fs ts gs : Fields D) : Prop where
  required_set : ∀ m ∈ b.required, ¬ b.IsUnset ts m → ∃ v,
    ts.get? m.name = some (.present v) ∧ gs.get? m.name = some (.present v) ∧ ¬ b.IsUnset gs m
  required_unset : ∀ m ∈ b.required, b.IsUnset ts m →
    gs.get? m.name = fs.get? m.name ∧ (b.IsUnset gs m ↔ b.IsUnset fs m)
  /-- A member with a default value and an optional one. -/
  stored : ∀ m ∈ b.members, m.isRequired = false → (∀ element e, m.role ≠ .list element e) →
    gs.get? m.name = ts.get? m.name
  lists : ∀ m ∈ b.members, ∀ element e, m.role = .list element e → ∃ vs ws,
    fs.get? m.name = some (.list vs) ∧ ts.get? m.name = some (.list ws) ∧
      gs.get? m.name = some (.list (vs ++ ws))

/-- The builder held `fs` and holds `gs` after a value has been merged whose getters answer so. -/
structure TakesValue (b : Blueprint) (answer : Member → Answer D (Value D)) (fs gs : Fields D) :
    Prop where
  single : ∀ m ∈ b.members, (∀ element e, m.role ≠ .list element e) → ∃ r, answer m = .ok r ∧
    gs.get? m.name = some (if m.isRequired then .present r else r)
  lists : ∀ m ∈ b.members, ∀ element e, m.role = .list element e → ∃ vs ws,
    fs.get? m.name = some (.list vs) ∧ answer m = .ok (.list ws) ∧
      gs.get? m.name = some (.list (vs ++ ws))
  set : ∀ m ∈ b.members, ¬ b.IsUnset gs m

/-! ## What happens to a single member -/

section Single

variable {b : Blueprint} {fs ts gs : Fields D}

/-- Every member has been merged with that of the template. -/
def EachTemplate (b : Blueprint) (fs ts gs : Fields D) : Prop :=
  ∀ m ∈ b.members, ∃ u t, fs.get? m.name = some u ∧ ts.get? m.name = some t ∧
    gs.get? m.name = some (m.mergedTemplate u t)

/-- Every member has been merged with what its getter answered. -/
def EachValue (b : Blueprint) (answer : Member → Answer D (Value D)) (fs gs : Fields D) : Prop :=
  ∀ m ∈ b.members, ∃ u r, fs.get? m.name = some u ∧ answer m = .ok r ∧
    gs.get? m.name = some (m.merged u r)

/-- A required member is unset exactly if it holds no value, so what it holds tells its status. -/
theorem isUnset_congr (hn : b.WellNamed) (hfs : b.Sound fs) (hgs : b.Sound gs) {m : Member}
    (h : gs.get? m.name = fs.get? m.name) : b.IsUnset gs m ↔ b.IsUnset fs m := by
  rw [hgs.isUnset_iff hn, hfs.isUnset_iff hn, h]

theorem TakesTemplate.of_merged (hn : b.WellNamed) (hfs : b.Sound fs) (hts : b.Sound ts)
    (hgs : b.Sound gs) (h : b.EachTemplate fs ts gs) : b.TakesTemplate fs ts gs where
  required_set m hm hset := by
    obtain ⟨u, t, -, ht, hmerged⟩ := h m (mem_required.mp hm).1
    rw [hts.isUnset_iff hn] at hset
    obtain ⟨v, hv⟩ := hts.exists_present hm fun habsent => hset ⟨hm, habsent⟩
    obtain rfl : t = .present v := Option.some.inj (ht.symm.trans hv)
    have hafter : gs.get? m.name = some (.present v) := by
      rw [hmerged]
      simp [Member.mergedTemplate, Member.isRequired_iff.mp (mem_required.mp hm).2]
    refine ⟨v, hv, hafter, fun hunset => ?_⟩
    have habsent := ((hgs.isUnset_iff hn).mp hunset).2
    rw [hafter] at habsent
    cases habsent
  required_unset m hm hunset := by
    obtain ⟨u, t, hu, ht, hmerged⟩ := h m (mem_required.mp hm).1
    have habsent := ((hts.isUnset_iff hn).mp hunset).2
    obtain rfl : t = .absent := Option.some.inj (ht.symm.trans habsent)
    have hkept : gs.get? m.name = fs.get? m.name := by
      rw [hmerged, hu]
      simp [Member.mergedTemplate, Member.isRequired_iff.mp (mem_required.mp hm).2]
    exact ⟨hkept, isUnset_congr hn hfs hgs hkept⟩
  stored m hm hopt hlist := by
    obtain ⟨u, t, -, ht, hmerged⟩ := h m hm
    rw [hmerged, ht]
    unfold Member.mergedTemplate
    cases hrole : m.role with
    | single default =>
      cases default with
      | none => simp [Member.isRequired_iff.mpr hrole] at hopt
      | some e => rfl
    | optional default => rfl
    | list element default => exact absurd hrole (hlist element default)
  lists m hm element e hrole := by
    obtain ⟨u, t, hu, ht, hmerged⟩ := h m hm
    obtain ⟨vs, hvs⟩ := hfs.isList hm hrole
    obtain ⟨ws, hws⟩ := hts.isList hm hrole
    obtain rfl : u = .list vs := Option.some.inj (hu.symm.trans hvs)
    obtain rfl : t = .list ws := Option.some.inj (ht.symm.trans hws)
    refine ⟨vs, ws, hvs, hws, hmerged.trans ?_⟩
    simp [Member.mergedTemplate, hrole]

theorem TakesValue.of_merged {answer : Member → Answer D (Value D)} (hn : b.WellNamed)
    (hfs : b.Sound fs) (hgs : b.Sound gs) (h : b.EachValue answer fs gs)
    (hanswer : ∀ m ∈ b.members, ∀ element e, m.role = .list element e → ∀ r, answer m = .ok r →
      r.IsList) :
    b.TakesValue answer fs gs := by
  have hsingle : ∀ m ∈ b.members, (∀ element e, m.role ≠ .list element e) → ∃ r,
      answer m = .ok r ∧ gs.get? m.name = some (if m.isRequired then .present r else r) := by
    intro m hm hlist
    obtain ⟨u, r, -, hr, hmerged⟩ := h m hm
    refine ⟨r, hr, ?_⟩
    rw [hmerged, Member.merged_empty fun element e hrole => absurd hrole (hlist element e)]
  refine ⟨hsingle, fun m hm element e hrole => ?_, fun m hm hunset => ?_⟩
  · obtain ⟨u, r, hu, hr, hmerged⟩ := h m hm
    obtain ⟨vs, hvs⟩ := hfs.isList hm hrole
    obtain ⟨ws, rfl⟩ := hanswer m hm element e hrole r hr
    obtain rfl : u = .list vs := Option.some.inj (hu.symm.trans hvs)
    refine ⟨vs, ws, hvs, hr, hmerged.trans ?_⟩
    simp [Member.merged, hrole]
  · obtain ⟨hreq, habsent⟩ := (hgs.isUnset_iff hn).mp hunset
    have hrole := Member.isRequired_iff.mp (mem_required.mp hreq).2
    obtain ⟨r, -, hafter⟩ := hsingle m hm (by simp [hrole])
    rw [habsent, if_pos (mem_required.mp hreq).2] at hafter
    cases hafter

end Single

/-! ## Both methods -/

section Methods

variable {b : Blueprint} {fs ts gs : Fields D} (given : Tokens → Value D) (n : Nat)

theorem mergesTemplate_each (hd : b.Declarable) (hfs : b.Sound fs) (hts : b.Sound ts) :
    ∃ gs, b.MergesTemplate given n fs ts gs ∧ b.Sound gs ∧ b.EachTemplate fs ts gs := by
  have hmem : b.mergeFromBuilderFunction ∈ b.builderFunctions := by simp [builderFunctions]
  obtain ⟨gs, hrun, hgs, hall⟩ := mergeFromBuilder_merges given n hd.toWellNamed hts hfs
  refine ⟨gs, ?_, hgs, fun m hm => ?_⟩
  · rw [MergesTemplate, Leaves, show plain "merge_from_builder" = b.mergeFromBuilderFunction.name
      from rfl, method_builder hd.toWellNamed hmem (Or.inr ⟨rfl, rfl⟩)]
    exact hrun
  · obtain ⟨u, w, hu, hw, t, ht, heq⟩ := hall m hm
    exact ⟨u, t, hu, ht, by rw [hw, heq (hd.receiver m hm)]⟩

theorem mergesValue_each (hd : b.Declarable) {v : Value D}
    (hv : b.Implements (b.link given (n + 1)) v) (hfs : b.Sound fs) :
    ∃ gs, b.MergesValue given n fs v gs ∧ b.Sound gs ∧ b.EachValue (b.answer given n v) fs gs := by
  have hmem : b.mergeFromFunction ∈ b.builderFunctions := by simp [builderFunctions]
  obtain ⟨gs, hrun, hgs, hall⟩ := mergeFrom_merges given n hd.toWellNamed hv hfs
  refine ⟨gs, ?_, hgs, fun m hm => ?_⟩
  · rw [MergesValue, Leaves, show plain "merge_from" = b.mergeFromFunction.name from rfl,
      method_builder hd.toWellNamed hmem (Or.inr ⟨rfl, rfl⟩)]
    exact hrun
  · obtain ⟨u, w, hu, hw, r, hr, heq⟩ := hall m hm
    exact ⟨u, r, hu, hr, by rw [hw, heq (hd.receiver m hm)]⟩

variable {given n}

/-- A call leaves one state only. -/
theorem MergesTemplate.each (hd : b.Declarable) (hfs : b.Sound fs) (hts : b.Sound ts)
    (h : b.MergesTemplate given n fs ts gs) : b.Sound gs ∧ b.EachTemplate fs ts gs := by
  obtain ⟨gs', hrun, hgs', hall⟩ := mergesTemplate_each given n hd hfs hts
  rw [MergesTemplate, Leaves, hrun] at h
  cases h
  exact ⟨hgs', hall⟩

theorem MergesValue.each (hd : b.Declarable) {v : Value D}
    (hv : b.Implements (b.link given (n + 1)) v) (hfs : b.Sound fs)
    (h : b.MergesValue given n fs v gs) :
    b.Sound gs ∧ b.EachValue (b.answer given n v) fs gs := by
  obtain ⟨gs', hrun, hgs', hall⟩ := mergesValue_each given n hd hv hfs
  rw [MergesValue, Leaves, hrun] at h
  cases h
  exact ⟨hgs', hall⟩

theorem EachTemplate.congr {fs' ts' gs' : Fields D} (h : b.EachTemplate fs ts gs)
    (h' : b.EachTemplate fs' ts' gs') {m : Member} (hm : m ∈ b.members)
    (hfs : fs'.get? m.name = fs.get? m.name) (hts : ts'.get? m.name = ts.get? m.name) :
    gs'.get? m.name = gs.get? m.name := by
  obtain ⟨u, t, hu, ht, hmerged⟩ := h m hm
  obtain ⟨u', t', hu', ht', hmerged'⟩ := h' m hm
  obtain rfl : u' = u := Option.some.inj (hu'.symm.trans (hfs.trans hu))
  obtain rfl : t' = t := Option.some.inj (ht'.symm.trans (hts.trans ht))
  rw [hmerged, hmerged']

theorem EachValue.congr {answer answer' : Member → Answer D (Value D)} {fs' gs' : Fields D}
    (h : b.EachValue answer fs gs) (h' : b.EachValue answer' fs' gs') {m : Member}
    (hm : m ∈ b.members) (hfs : fs'.get? m.name = fs.get? m.name)
    (hanswer : answer' m = answer m) : gs'.get? m.name = gs.get? m.name := by
  obtain ⟨u, r, hu, hr, hmerged⟩ := h m hm
  obtain ⟨u', r', hu', hr', hmerged'⟩ := h' m hm
  obtain rfl : u' = u := Option.some.inj (hu'.symm.trans (hfs.trans hu))
  obtain rfl : r' = r := Except.ok.inj (hr'.symm.trans (hanswer.trans hr))
  rw [hmerged, hmerged']

/-- What is known of merging into a builder that holds `fs`. -/
structure MergesByPolicy (b : Blueprint) (fs : Fields D) : Prop where
  /-- Merging a template returns and follows the policy. -/
  template : ∀ (given : Tokens → Value D) (n : Nat) (ts : Fields D), b.Reachable ts →
    ∃ gs, b.MergesTemplate given n fs ts gs ∧ b.TakesTemplate fs ts gs
  /-- Merging a value whose getters return returns and follows the policy. -/
  value : ∀ (given : Tokens → Value D) (n : Nat) (v : Value D),
    b.Implements (b.link given (n + 1)) v →
      ∃ gs, b.MergesValue given n fs v gs ∧ b.TakesValue (b.answer given n v) fs gs
  /-- A member ends up the same in another merge of a template if it is the same on both sides
  before, whatever the other members are. -/
  template_apart : ∀ (given given' : Tokens → Value D) (n n' : Nat) (ts gs fs' ts' gs' : Fields D),
    b.Reachable ts → b.Reachable fs' → b.Reachable ts' → b.MergesTemplate given n fs ts gs →
      b.MergesTemplate given' n' fs' ts' gs' → ∀ m ∈ b.members,
        fs'.get? m.name = fs.get? m.name → ts'.get? m.name = ts.get? m.name →
          gs'.get? m.name = gs.get? m.name ∧ (b.IsUnset gs' m ↔ b.IsUnset gs m)
  /-- So it does in another merge of a value. -/
  value_apart : ∀ (given given' : Tokens → Value D) (n n' : Nat) (v v' : Value D)
    (gs fs' gs' : Fields D), b.Implements (b.link given (n + 1)) v → b.Reachable fs' →
      b.Implements (b.link given' (n' + 1)) v' → b.MergesValue given n fs v gs →
        b.MergesValue given' n' fs' v' gs' → ∀ m ∈ b.members,
          fs'.get? m.name = fs.get? m.name → b.answer given' n' v' m = b.answer given n v m →
            gs'.get? m.name = gs.get? m.name ∧ (b.IsUnset gs' m ↔ b.IsUnset gs m)

/-- Merging follows the policy after every run. -/
theorem merges_by_policy (hd : b.Declarable) (h : b.Reachable fs) : b.MergesByPolicy fs where
  template given n ts hts := by
    have hfs := h.sound hd.toWellNamed
    have hts := hts.sound hd.toWellNamed
    obtain ⟨gs, hrun, hgs, hall⟩ := mergesTemplate_each given n hd hfs hts
    exact ⟨gs, hrun, .of_merged hd.toWellNamed hfs hts hgs hall⟩
  value given n v hv := by
    have hfs := h.sound hd.toWellNamed
    obtain ⟨gs, hrun, hgs, hall⟩ := mergesValue_each given n hd hv hfs
    refine ⟨gs, hrun, .of_merged hd.toWellNamed hfs hgs hall fun m hm element e hrole r hr => ?_⟩
    obtain ⟨r', hr', hlist⟩ := hv m hm
    obtain rfl : r' = r := Except.ok.inj (hr'.symm.trans hr)
    exact hlist element e hrole
  template_apart given given' n n' ts gs fs' ts' gs' hts hfs' hts' hrun hrun' m hm hown hother := by
    have hn := hd.toWellNamed
    obtain ⟨hgs, hall⟩ := hrun.each hd (h.sound hn) (hts.sound hn)
    obtain ⟨hgs', hall'⟩ := hrun'.each hd (hfs'.sound hn) (hts'.sound hn)
    have hsame := hall.congr hall' hm hown hother
    exact ⟨hsame, isUnset_congr hn hgs hgs' hsame⟩
  value_apart given given' n n' v v' gs fs' gs' hv hfs' hv' hrun hrun' m hm hown hother := by
    have hn := hd.toWellNamed
    obtain ⟨hgs, hall⟩ := hrun.each hd hv (h.sound hn)
    obtain ⟨hgs', hall'⟩ := hrun'.each hd hv' (hfs'.sound hn)
    have hsame := hall.congr hall' hm hown hother
    exact ⟨hsame, isUnset_congr hn hgs hgs' hsame⟩

end Methods

end Blueprint

/-! ## Books -/

/-- A builder of books that has a width keeps it when a new one is merged into it. -/
theorem boundBook_mergesByPolicy : bookBlueprint.Declarable ∧
    bookBlueprint.Reachable boundBook ∧ bookBlueprint.MergesByPolicy boundBook ∧
    bookBlueprint.Reachable blankBook ∧ ∃ gs,
      bookBlueprint.MergesTemplate (fun _ => .list [.number 7]) 0 boundBook blankBook gs ∧
      bookBlueprint.TakesTemplate boundBook blankBook gs := by
  have hpolicy := Blueprint.merges_by_policy bookBlueprint_declarable boundBook_reachable
  exact ⟨bookBlueprint_declarable, boundBook_reachable, hpolicy, blankBook_reachable,
    hpolicy.template _ 0 _ blankBook_reachable⟩

example : bookBlueprint.MergesTemplate (fun _ => .list [.number 7]) 0 boundBook blankBook
    (boundBook.set (plain "pages") (.list [.number 7, .number 7])) :=
  rfl

end TraitBuilder
