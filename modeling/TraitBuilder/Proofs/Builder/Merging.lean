import TraitBuilder.Proofs.Builder.Places

/-!
# Merging into a builder

Both methods that merge call, member by member, the methods of single members, so they keep the
state as it should be.  They return if they can read what they merge: a value whose getters return,
or a builder whose own state is as it should be.

* `call_getter`: the getters of the builder hand back what is stored.
* `mergeFrom_merges`: merging a value copies what its getters return.
* `mergeFromBuilder_merges`: merging a builder copies what it holds, except for what is unset.
* `mergeFrom_sound`, `mergeFromBuilder_sound`: merging keeps the state as it should be.
-/

namespace TraitBuilder

open Code Meaning

variable {D : Type}

namespace Member

/-- What the getter of the builder hands back. -/
def getterOutcome (m : Member) : Outcome :=
  match m.role with
  | .list _ _ => .term (.ownFieldRef m.name)
  | _ => if m.isRequired then m.readRequired else m.readStored

theorem getter_mem_accessors (b : Blueprint) (m : Member) :
    ∃ decorations, m.builderGetter decorations m.getterOutcome ∈ m.accessors b := by
  unfold accessors getterOutcome
  cases hrole : m.role with
  | single default =>
    cases hreq : m.isRequired with
    | true => exact ⟨m.getterDoc b :: panicDoc, by simp [singleAccessors, hreq]⟩
    | false => exact ⟨[m.getterDoc b], by simp [singleAccessors, hreq]⟩
  | optional default =>
    have hopt : m.isRequired = false := isRequired_eq_false (by simp [hrole])
    exact ⟨[m.getterDoc b], by simp [optionalAccessors, hopt]⟩
  | list element default =>
    exact ⟨_, List.mem_of_getLast? (show (m.listAccessors b element).getLast? = some _ from rfl)⟩

/-- What the member holds after `returned` has been merged into it.  The elements of a list are
added to those that are there. -/
def merged (m : Member) (old returned : Value D) : Value D :=
  match m.role, old, returned with
  | .list _ _, .list vs, .list ws => .list (vs ++ ws)
  | .single none, _, v => .present v
  | _, _, v => v

/-- What the member holds after the same member of a template has been merged into it.  One that is
required and unset in the template stays as it is. -/
def mergedTemplate (m : Member) (old template : Value D) : Value D :=
  match m.role, old, template with
  | .list _ _, .list vs, .list ws => .list (vs ++ ws)
  | .single none, old, .absent => old
  | _, _, v => v

/-- If the list was empty, then exactly what was merged is there. -/
theorem merged_empty {m : Member} {v u : Value D}
    (hlist : ∀ element e, m.role = .list element e → u = .list [] ∧ v.IsList) :
    m.merged u v = if m.isRequired then .present v else v := by
  unfold merged isRequired need
  cases hrole : m.role with
  | single default => cases default <;> simp
  | optional default => simp
  | list element default =>
    obtain ⟨rfl, vs, rfl⟩ := hlist element default hrole
    simp

end Member

namespace Blueprint

/-! ## Getters -/

section Getters

variable {b : Blueprint} {m : Member} {fs : Fields D} (given : Tokens → Value D) (n : Nat)

theorem call_getter (hn : b.WellNamed) (hm : m ∈ b.members) {v : Value D}
    (h : finish (b.context given .builder (b.link given n)) ⟨builderOf fs, []⟩ m.getterOutcome =
      .ok (v, ⟨builderOf fs, []⟩)) :
    (b.link given (n + 1)).method false (builderOf fs) m.name [] = .ok (v, builderOf fs) := by
  obtain ⟨decorations, hf⟩ := m.getter_mem_accessors b
  have hmem := accessor_mem_builderFunctions hm hf
  rw [show m.name = (m.builderGetter decorations m.getterOutcome).name from rfl,
    method_builder hn hmem (Or.inl rfl)]
  simp [runFunction, Member.builderGetter, executeAll, h]

/-- The getter of a member that is stored as it is hands back what is stored. -/
theorem call_getter_stored (hn : b.WellNamed) (hm : m ∈ b.members) (hopt : m.isRequired = false)
    {v : Value D} (hv : fs.get? m.name = some v) :
    (b.link given (n + 1)).method false (builderOf fs) m.name [] = .ok (v, builderOf fs) := by
  refine call_getter given n hn hm ?_
  generalize b.context given .builder (b.link given n) = k
  have hfield : evaluate k ⟨builderOf fs, []⟩ (.ownField m.name) = .ok v :=
    evaluate_ownField rfl hv
  have hread : perform k ⟨builderOf fs, []⟩ (m.property.read (.ownFieldRef m.name)) =
      .ok (v, ⟨builderOf fs, []⟩) :=
    perform_read_ownField rfl hv
  unfold Member.getterOutcome
  split
  · simp [finish, perform, Term.ownFieldRef, evaluate, hfield]
  · simp [finish, hopt, Member.readStored, hread]

theorem call_getter_required (hn : b.WellNamed) (hm : m ∈ b.required) {v : Value D}
    (hv : fs.get? m.name = some (.present v)) :
    ∃ w, (m.name ≠ plain "self" → w = v) ∧
      (b.link given (n + 1)).method false (builderOf fs) m.name [] = .ok (w, builderOf fs) := by
  obtain ⟨hmem, hreq⟩ := mem_required.mp hm
  have hrole := Member.isRequired_iff.mp hreq
  let k : Context D := b.context given .builder (b.link given n)
  obtain ⟨w, hw, heq⟩ := exists_evaluate_var (k := k)
    (show ((Env.mk (builderOf fs) []).bind m.name v).locals.get? m.name = some v by
      simp [Env.bind])
  have hoption : evaluate k ⟨builderOf fs, []⟩ (.ownFieldRef m.name) = .ok (.present v) :=
    evaluate_ownFieldRef rfl hv
  have hfound : evaluate k ((Env.mk (builderOf fs) []).bind m.name v)
      (m.property.read (.var m.name)) = .ok w :=
    evaluate_read m.property hw
  refine ⟨w, heq, call_getter given n hn hmem ?_⟩
  simp only [Member.getterOutcome, hrole, hreq, if_true, Member.readRequired, finish]
  rw [hoption, Answer.ok_bind]
  simp only
  rw [hfound]
  rfl

end Getters

/-! ## Merging a value -/

variable {b : Blueprint} {m : Member} {fs gs : Fields D} {given : Tokens → Value D} {n : Nat}

/-- The value implements the user's trait: its getters return, and those of lists return lists. -/
def Implements (b : Blueprint) (link : Link D) (v : Value D) : Prop :=
  ∀ m ∈ b.members, ∃ r, link.associated b.typeName m.name [v] = .ok r ∧
    ∀ element e, m.role = .list element e → r.IsList

/-- Merging a value copies what its getter returns into the member and touches no other. -/
theorem mergeFromValue_updates (given : Tokens → Value D) (n : Nat) (hn : b.WellNamed)
    (hm : m ∈ b.members) {v u : Value D}
    (hv : b.Implements (b.link given (n + 1)) v) (h : b.Sound fs)
    (hu : fs.get? m.name = some u) :
    ∃ w gs, execute (b.context given .builder (b.link given (n + 1)))
      (m.mergeFromValue b.typeName (plain "value")) ⟨builderOf fs, [(plain "value", v)]⟩ =
        .ok ⟨builderOf gs, [(plain "value", v)]⟩ ∧ b.Sound gs ∧ b.Updates m w fs gs ∧
          ∃ r, (b.link given (n + 1)).associated b.typeName m.name [v] = .ok r ∧
            (m.name ≠ plain "self" → w = m.merged u r) := by
  let k : Context D := b.context given .builder (b.link given (n + 1))
  let env : Env D := ⟨builderOf fs, [(plain "value", v)]⟩
  obtain ⟨r, hr, hlist⟩ := hv m hm
  have hvalue : evaluate k env (.var (plain "value")) = .ok v :=
    evaluate_var (by decide) (by simp [env])
  have hreturned : evaluate k env (.call (.associated b.typeName m.property.name)
      [.var (plain "value")] false) = .ok r := by
    have hargs : evaluateAll k env [.var (plain "value")] = .ok [v] := by
      simp [evaluateAll, hvalue]
    rw [evaluate_call_associated hargs]
    exact hr
  have howned := evaluate_toOwned m.property hreturned
  unfold Member.mergeFromValue Member.merged
  cases hrole : m.role with
  | single default =>
    obtain ⟨w, gs, heq, hcall, hgs, hupdates⟩ :=
      call_setter_updates given n hn hm (by simp [hrole]) h r
    refine ⟨_, gs, execute_callOwn rfl howned hcall, hgs, hupdates, r, hr, fun hname => ?_⟩
    rw [heq hname, Member.setTo, hrole]
    cases default <;> rfl
  | optional default =>
    obtain ⟨w, gs, heq, hcall, hgs, hupdates⟩ :=
      call_nullableSetter_updates given n hn hm hrole h r
    exact ⟨w, gs, execute_callOwn rfl howned hcall, hgs, hupdates, r, hr, heq⟩
  | list element default =>
    obtain ⟨ws, rfl⟩ := hlist element default hrole
    obtain ⟨vs, hvs⟩ := h.isList hm hrole
    obtain rfl : u = .list vs := Option.some.inj (hu.symm.trans hvs)
    exact ⟨_, _, execute_callOwn rfl (evaluate_clonedElements hreturned)
      (call_bulkAdder given n hn hm hrole hvs ws), h.set_list hn hm hrole _,
        Updates.set_field h.toLaid hm _, _, hr, fun _ => rfl⟩

/-- Merging a value returns if the getters of the value do, keeps the state as it should be, and
copies what the getters return. -/
theorem mergeFrom_merges (given : Tokens → Value D) (n : Nat) (hn : b.WellNamed) {v : Value D}
    (hv : b.Implements (b.link given (n + 1)) v) (h : b.Sound fs) :
    ∃ gs, Leaves (runFunction (b.context given .builder (b.link given (n + 1)))
      b.mergeFromFunction (builderOf fs) [v]) gs ∧ b.Sound gs ∧ ∀ m ∈ b.members, ∃ u w,
        fs.get? m.name = some u ∧ gs.get? m.name = some w ∧
          ∃ r, (b.link given (n + 1)).associated b.typeName m.name [v] = .ok r ∧
            (m.name ≠ plain "self" → w = m.merged u r) := by
  cases hmembers : b.members with
  | nil =>
    refine ⟨fs, ?_, h, fun m hm => absurd hm List.not_mem_nil⟩
    simp only [mergeFromFunction, hmembers, List.map_nil]
    exact runFunction_changer rfl rfl
  | cons m ms =>
    rw [← hmembers]
    obtain ⟨gs, hrun, hgs, hall⟩ := executeAll_members hn.distinctFields (fun _ h => h.toLaid)
      (fun fs => ⟨builderOf fs, [(plain "value", v)]⟩)
      (fun m => [m.mergeFromValue b.typeName (plain "value")]) _
      (fun m hm fs u (hfs : b.Sound fs) hu => by
        obtain ⟨w, gs, hrun, hrest⟩ := mergeFromValue_updates given n hn hm hv hfs hu
        exact ⟨w, gs, executeAll_single hrun, hrest⟩) h
    have hparameter : markUnused (plain "value")
        (b.members.map (·.mergeFromValue b.typeName (plain "value"))).isEmpty = plain "value" := by
      simp [hmembers, markUnused]
    rw [← List.map_eq_flatMap] at hrun
    refine ⟨gs, ?_, hgs, hall⟩
    simp only [mergeFromFunction, hparameter]
    exact runFunction_changer rfl hrun

theorem mergeFrom_sound (given : Tokens → Value D) (n : Nat) (hn : b.WellNamed) {v : Value D}
    (hv : b.Implements (b.link given (n + 1)) v) (h : b.Sound fs) :
    ∃ gs, Leaves (runFunction (b.context given .builder (b.link given (n + 1)))
      b.mergeFromFunction (builderOf fs) [v]) gs ∧ b.Sound gs := by
  obtain ⟨gs, hrun, hgs, -⟩ := mergeFrom_merges given n hn hv h
  exact ⟨gs, hrun, hgs⟩

/-! ## Merging a builder -/

theorem evaluate_template {k : Context D} {env : Env D}
    (h : env.locals = [(templateVar, builderOf gs)]) :
    evaluate k env (.var templateVar) = .ok (builderOf gs) :=
  evaluate_var (by decide) (by rw [h]; simp)

theorem evaluate_templateUnset {k : Context D} {env : Env D} (hreq : b.hasRequired = true)
    (h : env.locals = [(templateVar, builderOf gs)]) (hgs : b.Sound gs) :
    evaluate k env templateUnset = .ok (.set (b.unsetIn gs)) := by
  exact evaluate_field (evaluate_template h) (hgs.tracked hreq)

/-- The template has the variant in its set exactly if the member has no value there. -/
theorem variant_mem_unsetIn (hn : b.WellNamed) (hm : m ∈ b.required) :
    m.property.variant ∈ b.unsetIn gs ↔ gs.get? m.name = some .absent := by
  rw [← lacks_iff, unsetIn, List.mem_map]
  constructor
  · rintro ⟨m', hm', heq⟩
    obtain ⟨hmem, hlacks⟩ := List.mem_filter.mp hm'
    rwa [← hn.eq_of_variant hmem hm heq]
  · intro hlacks
    exact ⟨m, List.mem_filter.mpr ⟨hm, hlacks⟩, rfl⟩

theorem Laid.exists_present (h : b.Laid gs) (hm : m ∈ b.required)
    (hlacks : gs.get? m.name ≠ some .absent) : ∃ v, gs.get? m.name = some (.present v) := by
  obtain ⟨hmem, hreq⟩ := mem_required.mp hm
  obtain ⟨v, hv, hholds⟩ := h.members m hmem
  rw [Member.Holds, Member.isRequired_iff.mp hreq] at hholds
  rcases hholds with rfl | ⟨w, rfl⟩
  · exact absurd hv hlacks
  · exact ⟨w, hv⟩

/-- Copying a member that is not required or has a value in the template. -/
theorem mergeFromBuilder_updates (given : Tokens → Value D) (n : Nat) (hn : b.WellNamed)
    (hm : m ∈ b.members) (hgs : b.Sound gs)
    (hset : m ∈ b.required → gs.get? m.name ≠ some .absent) {u t : Value D} (h : b.Sound fs)
    (hu : fs.get? m.name = some u) (ht : gs.get? m.name = some t) :
    ∃ w fs', execute (b.context given .builder (b.link given (n + 1)))
      (m.mergeFromBuilder templateVar) ⟨builderOf fs, [(templateVar, builderOf gs)]⟩ =
        .ok ⟨builderOf fs', [(templateVar, builderOf gs)]⟩ ∧ b.Sound fs' ∧ b.Updates m w fs fs' ∧
          (m.name ≠ plain "self" → w = m.mergedTemplate u t) := by
  let k : Context D := b.context given .builder (b.link given (n + 1))
  let env : Env D := ⟨builderOf fs, [(templateVar, builderOf gs)]⟩
  have htemplate : evaluate k env (.var templateVar) = .ok (builderOf gs) := evaluate_template rfl
  -- the getter of the template takes the option off the value of a required member
  have hreturned : ∃ r, evaluate k env (.method (.var templateVar) m.property.name []) = .ok r ∧
      (m.name ≠ plain "self" → t = if m.isRequired then .present r else r) := by
    by_cases hreq : m.isRequired = true
    · have hmem := mem_required.mpr ⟨hm, hreq⟩
      obtain ⟨v, hv⟩ := hgs.exists_present hmem (hset hmem)
      obtain ⟨w, heq, hcall⟩ := call_getter_required given n hn hmem hv
      refine ⟨w, evaluate_method htemplate hcall, fun hname => ?_⟩
      rw [if_pos hreq, heq hname, ← Option.some.inj (ht.symm.trans hv)]
    · have hopt : m.isRequired = false := by simpa using hreq
      refine ⟨t, evaluate_method htemplate (call_getter_stored given n hn hm hopt ht), fun _ => ?_⟩
      rw [if_neg hreq]
  obtain ⟨r, hr, hstored⟩ := hreturned
  have howned := evaluate_toOwned m.property hr
  unfold Member.mergeFromBuilder Member.mergedTemplate
  cases hrole : m.role with
  | single default =>
    obtain ⟨w, fs', heq, hcall, hfs', hupdates⟩ :=
      call_setter_updates given n hn hm (by simp [hrole]) h r
    refine ⟨_, fs', execute_callOwn rfl howned hcall, hfs', hupdates, fun hname => ?_⟩
    rw [heq hname, hstored hname, Member.setTo, Member.isRequired, Member.need, hrole]
    cases default <;> rfl
  | optional default =>
    obtain ⟨w, fs', heq, hcall, hfs', hupdates⟩ :=
      call_nullableSetter_updates given n hn hm hrole h r
    refine ⟨w, fs', execute_callOwn rfl howned hcall, hfs', hupdates, fun hname => ?_⟩
    rw [heq hname, hstored hname, Member.isRequired_eq_false (by simp [hrole])]
    rfl
  | list element default =>
    obtain ⟨vs, hvs⟩ := h.isList hm hrole
    obtain ⟨ws, hws⟩ := hgs.isList hm hrole
    obtain rfl : u = .list vs := Option.some.inj (hu.symm.trans hvs)
    obtain rfl : t = .list ws := Option.some.inj (ht.symm.trans hws)
    exact ⟨_, _, execute_callOwn rfl (evaluate_clonedElements (evaluate_field htemplate hws))
      (call_bulkAdder given n hn hm hrole hvs ws), h.set_list hn hm hrole _,
        Updates.set_field h.toLaid hm _, fun _ => rfl⟩

/-- A required member is copied exactly if the set of the template does not contain its variant. -/
theorem evaluate_notUnset {k : Context D} {env : Env D} (hm : m ∈ b.required)
    (hlocals : env.locals = [(templateVar, builderOf gs)]) (hgs : b.Sound gs) :
    evaluate k env (.not (.method templateUnset (plain "contains")
      [.borrow false (b.variant m)])) =
        .ok (.truth (!decide (m.property.variant ∈ b.unsetIn gs))) := by
  have hset : evaluate k env templateUnset = .ok (.set (b.unsetIn gs)) :=
    evaluate_templateUnset (hasRequired_of_mem hm) hlocals hgs
  simp [evaluate, evaluateAll, hset, callMethod, readBuiltin, plain, variant]

/-- Merging a member of a template touches no other member. -/
theorem mergeMember_updates (given : Tokens → Value D) (n : Nat) (hn : b.WellNamed)
    (hm : m ∈ b.members) (hgs : b.Sound gs) {u t : Value D} (h : b.Sound fs)
    (hu : fs.get? m.name = some u) (ht : gs.get? m.name = some t) :
    ∃ w fs', execute (b.context given .builder (b.link given (n + 1))) (b.mergeMember m)
      ⟨builderOf fs, [(templateVar, builderOf gs)]⟩ =
        .ok ⟨builderOf fs', [(templateVar, builderOf gs)]⟩ ∧ b.Sound fs' ∧ b.Updates m w fs fs' ∧
          (m.name ≠ plain "self" → w = m.mergedTemplate u t) := by
  unfold mergeMember
  by_cases hreq : m.isRequired = true
  · have hmem := mem_required.mpr ⟨hm, hreq⟩
    rw [if_pos hreq]
    by_cases hlacks : gs.get? m.name = some .absent
    · refine ⟨u, fs, execute_when_false ?_, h, Updates.refl hu, fun _ => ?_⟩
      · rw [evaluate_notUnset hmem rfl hgs]
        simp [(variant_mem_unsetIn hn hmem).mpr hlacks]
      · obtain rfl : t = .absent := Option.some.inj (ht.symm.trans hlacks)
        simp [Member.mergedTemplate, Member.isRequired_iff.mp hreq]
    · obtain ⟨w, fs', hrun, hrest⟩ :=
        mergeFromBuilder_updates given n hn hm hgs (fun _ => hlacks) h hu ht
      refine ⟨w, fs', execute_when_true ?_ hrun, hrest⟩
      rw [evaluate_notUnset hmem rfl hgs]
      simp [mt (variant_mem_unsetIn hn hmem).mp hlacks]
  · rw [if_neg hreq]
    exact mergeFromBuilder_updates given n hn hm hgs
      (fun hmem => absurd (mem_required.mp hmem).2 hreq) h hu ht

/-- Merging a builder whose state is as it should be returns, keeps the state as it should be, and
copies the members one by one. -/
theorem mergeFromBuilder_merges (given : Tokens → Value D) (n : Nat) (hn : b.WellNamed)
    (hgs : b.Sound gs) (h : b.Sound fs) :
    ∃ fs', Leaves (runFunction (b.context given .builder (b.link given (n + 1)))
      b.mergeFromBuilderFunction (builderOf fs) [builderOf gs]) fs' ∧ b.Sound fs' ∧
        ∀ m ∈ b.members, ∃ u w, fs.get? m.name = some u ∧ fs'.get? m.name = some w ∧
          ∃ t, gs.get? m.name = some t ∧ (m.name ≠ plain "self" → w = m.mergedTemplate u t) := by
  cases hmembers : b.members with
  | nil =>
    refine ⟨fs, ?_, h, fun m hm => absurd hm List.not_mem_nil⟩
    simp only [mergeFromBuilderFunction, hmembers, List.map_nil]
    exact runFunction_changer rfl rfl
  | cons m ms =>
    rw [← hmembers]
    obtain ⟨fs', hrun, hfs', hall⟩ := executeAll_members hn.distinctFields (fun _ h => h.toLaid)
      (fun fs => ⟨builderOf fs, [(templateVar, builderOf gs)]⟩) (fun m => [b.mergeMember m])
      (fun m u w => ∃ t, gs.get? m.name = some t ∧
        (m.name ≠ plain "self" → w = m.mergedTemplate u t))
      (fun m hm fs u (hfs : b.Sound fs) hu => by
        obtain ⟨t, ht, -⟩ := hgs.members m hm
        obtain ⟨w, fs', hrun, hfs', hupdates, heq⟩ :=
          mergeMember_updates given n hn hm hgs hfs hu ht
        exact ⟨w, fs', executeAll_single hrun, hfs', hupdates, t, ht, heq⟩) h
    have hparameter : markUnused templateVar (b.members.map b.mergeMember).isEmpty =
        templateVar := by
      simp [hmembers, markUnused]
    rw [← List.map_eq_flatMap] at hrun
    refine ⟨fs', ?_, hfs', hall⟩
    simp only [mergeFromBuilderFunction, hparameter]
    exact runFunction_changer rfl hrun

theorem mergeFromBuilder_sound (given : Tokens → Value D) (n : Nat) (hn : b.WellNamed)
    (hgs : b.Sound gs) (h : b.Sound fs) :
    ∃ fs', Leaves (runFunction (b.context given .builder (b.link given (n + 1)))
      b.mergeFromBuilderFunction (builderOf fs) [builderOf gs]) fs' ∧ b.Sound fs' := by
  obtain ⟨fs', hrun, hfs', -⟩ := mergeFromBuilder_merges given n hn hgs h
  exact ⟨fs', hrun, hfs'⟩

end Blueprint

end TraitBuilder
