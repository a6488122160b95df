import TraitBuilder.Proofs.Builder.Copying

/-!
# Reading a builder and what is built of it

The builder and the partial store the same fields in the same way, and the constructor of the
partial copies them one by one; a value stores a required member without the option around it.  So
their getters can be compared field by field: those of the builder and the partial look at the same
field, and that of a value at what the field contains.

* `run_partialNew`: a partial holds the very fields of the builder.
* `finish_readRequired_unset`, `finish_readRequired_set`, `finish_readStored`: what a getter does
  with the field, whatever it is a field of.
* `readers_agree`: the getters of the builder and the partial return the same value or panic with
  the same message, and the getter of a value returns that value too.
-/

namespace TraitBuilder

open Code Meaning

variable {D : Type}

/-! ## Single getters -/

namespace Meaning

variable {k : Context D} {kind : Kind} {fs : Fields D} {m : Member} {v : Value D}

theorem finish_readRequired_unset (h : fs.get? m.name = some .absent) :
    finish k ⟨.record kind fs, []⟩ m.readRequired = .error (.panic m.unsetMessage) := by
  have hoption : evaluate k ⟨.record kind fs, []⟩ (.ownFieldRef m.name) = .ok .absent :=
    evaluate_ownFieldRef rfl h
  rw [Member.readRequired, finish, hoption]
  rfl

theorem finish_readRequired_set (hname : m.name ≠ plain "self")
    (h : fs.get? m.name = some (.present v)) :
    finish k ⟨.record kind fs, []⟩ m.readRequired = .ok (v, ⟨.record kind fs, []⟩) := by
  have hoption : evaluate k ⟨.record kind fs, []⟩ (.ownFieldRef m.name) = .ok (.present v) :=
    evaluate_ownFieldRef rfl h
  have hfound : evaluate k ((Env.mk (.record kind fs) []).bind m.name v)
      (m.property.read (.var m.name)) = .ok v :=
    evaluate_read m.property (evaluate_var hname (by simp [Env.bind]))
  rw [Member.readRequired, finish, hoption, Answer.ok_bind]
  simp only
  rw [hfound]
  rfl

theorem finish_readStored (h : fs.get? m.name = some v) :
    finish k ⟨.record kind fs, []⟩ m.readStored = .ok (v, ⟨.record kind fs, []⟩) :=
  perform_read_ownField rfl h

theorem runFunction_of_panic {f : Function} {receiver : Value D} {message : String}
    (hparameters : f.parameters = []) (hstatements : f.body.statements = [])
    (h : finish k ⟨receiver, []⟩ f.body.outcome = .error (.panic message)) :
    runFunction k f receiver [] = .error (.panic message) := by
  simp [runFunction, hparameters, hstatements, executeAll, h]

/-- A record whose terms evaluate to the values of given fields of the same names. -/
theorem evaluateRecord_eq {env : Env D} {r : Record} (hnames : fs.map (·.1) = r.map (·.1))
    (h : ∀ f ∈ r, ∀ v, (f.1, v) ∈ fs → evaluate k env f.2 = .ok v) :
    evaluateRecord k env r = .ok fs := by
  induction r generalizing fs with
  | nil =>
    obtain rfl := List.map_eq_nil_iff.mp hnames
    rfl
  | cons f r ih =>
    obtain ⟨x, t⟩ := f
    obtain ⟨g, fs, rfl, hx, htail⟩ := List.map_eq_cons_iff.mp hnames
    obtain ⟨y, v⟩ := g
    obtain rfl : y = x := hx
    have hfirst : evaluate k env t = .ok v := h _ List.mem_cons_self v List.mem_cons_self
    have hrest : evaluateRecord k env r = .ok fs :=
      ih htail fun g hg w hw => h g (List.mem_cons_of_mem _ hg) w (List.mem_cons_of_mem _ hw)
    rw [evaluateRecord] at hrest ⊢
    rw [List.mapM_cons, hrest]
    simp only [hfirst, Answer.ok_bind, Answer.pure_eq]

end Meaning

namespace Blueprint

variable {b : Blueprint} {fs : Fields D} {m : Member} (given : Tokens → Value D) (n : Nat)

/-! ## The partial -/

/-- Every field of a partial is a copy of the builder's field of the same name. -/
theorem partialInitials_eq (b : Blueprint) :
    b.partialInitials = b.partialFields.map fun f =>
      (f.1, .clone (.borrow false (.field (.var builderVar) f.1))) := by
  rw [partialInitials, partialFields, List.map_append, List.map_map]
  split <;> rfl

/-- A partial holds the very fields of the builder. -/
theorem run_partialNew (hn : b.WellNamed) (h : b.Laid fs) :
    runFunction (b.context given .partialType (b.link given n)) b.partialNew .unit
      [builderOf fs] = .ok (.record .partialType fs, .unit) := by
  let k : Context D := b.context given .partialType (b.link given n)
  let env : Env D :=
    ⟨.unit, (b.partialNew.parameters.map (·.1)).zip [builderOf fs]⟩
  have hnodup : (fs.map (·.1.name)).Nodup := by
    refine Fields.nodup_of_map_fst h.names ?_
    rw [List.map_map]
    exact hn.fields
  have hfields : fs.map (·.1) = b.partialInitials.map (·.1) := by
    rw [h.names, partialInitials_eq, List.map_map]
    rfl
  have hcopy : ∀ f ∈ b.partialInitials, ∀ v, (f.1, v) ∈ fs → evaluate k env f.2 = .ok v := by
    intro f hf v hv
    -- there is a field, so the parameter is not marked as unused
    have hbuilder : evaluate k env (.var builderVar) = .ok (builderOf fs) := by
      have hne : b.partialInitials.isEmpty = false := by
        rw [List.isEmpty_eq_false_iff]
        exact List.ne_nil_of_mem hf
      exact evaluate_var (by decide) (by simp [env, partialNew, markUnused, hne])
    rw [partialInitials_eq] at hf
    obtain ⟨field, -, rfl⟩ := List.mem_map.mp hf
    refine evaluate_keeps rfl ?_
    rw [evaluate]
    exact evaluate_field hbuilder (Fields.get?_of_mem hnodup hv)
  have hfinish : finish k env b.partialNew.body.outcome = .ok (.record .partialType fs, env) := by
    simp only [partialNew, finish, evaluateRecord_eq hfields hcopy]
    rfl
  exact runFunction_of_finish rfl rfl hfinish

theorem method_buildPartial (hn : b.WellNamed) (h : b.Laid fs) (htypes : b.value ≠ b.partialType) :
    (b.link given (n + 2)).method false (builderOf fs) (plain "build_partial") [] =
      .ok (.record .partialType fs, builderOf fs) := by
  let k : Context D := b.context given .builder (b.link given (n + 1))
  have hmem : b.buildPartialFunction ∈ b.builderFunctions := by simp [builderFunctions]
  have hfind : findFunction ((b.functionsOf .partialType).filter fun f => f.receiver = .none)
      (plain "new") = some b.partialNew := rfl
  have hnew : (b.link given (n + 1)).associated b.partialType (plain "new") [builderOf fs] =
      .ok (.record .partialType fs) := by
    simp only [link, callOf, if_neg htypes.symm, if_true, runNamed, hfind]
    rw [run_partialNew given n hn h]
    rfl
  have hself : evaluateAll k ⟨builderOf fs, []⟩ [.self] = .ok [builderOf fs] := by
    rw [evaluateAll, evaluate_self]
    rfl
  have hcall : evaluate k ⟨builderOf fs, []⟩ (builtFrom b.partialType) =
      .ok (.record .partialType fs) := by
    rw [builtFrom, evaluate_call_associated hself]
    exact hnew
  rw [show plain "build_partial" = b.buildPartialFunction.name from rfl,
    method_builder hn hmem (Or.inl rfl)]
  exact runFunction_of_finish rfl rfl (perform_call_associated hcall)

/-- What the getter of the partial hands back. -/
def partialOutcome (m : Member) : Outcome := if m.isRequired then m.readRequired else m.readStored

/-- The getter of the partial is run when it is called through the trait. -/
theorem associated_partialGetter (hn : b.WellNamed) (hm : m ∈ b.members) :
    (b.link given (n + 1)).associated b.typeName m.name [.record .partialType fs] = do
      return (← runFunction (b.context given .partialType (b.link given n))
        (traitGetter m (partialOutcome m)) (.record .partialType fs) []).1 := by
  have hnames : (b.partialGetters.map (·.name.name)).Nodup := by
    rw [partialGetters, List.map_map]
    exact hn.distinctFields.members_nodup
  have hmem : traitGetter m (partialOutcome m) ∈ b.partialGetters :=
    List.mem_map.mpr ⟨m, hm, rfl⟩
  have hfind : findFunction b.partialGetters m.name = some (traitGetter m (partialOutcome m)) :=
    findFunction_of_mem hnames hmem
  simp only [link, callOf, if_true, runNamed, traitGettersOf, hfind]

theorem call_partialGetter (hn : b.WellNamed) (hm : m ∈ b.members) {v : Value D}
    (h : finish (b.context given .partialType (b.link given n)) ⟨.record .partialType fs, []⟩
      (partialOutcome m) = .ok (v, ⟨.record .partialType fs, []⟩)) :
    (b.link given (n + 1)).associated b.typeName m.name [.record .partialType fs] = .ok v := by
  rw [associated_partialGetter given n hn hm, runFunction_of_finish rfl rfl h]
  rfl

/-! ## Unset members -/

/-- The member is required, and its variant is in the set of the unset properties. -/
def IsUnset (b : Blueprint) (fs : Fields D) (m : Member) : Prop :=
  m ∈ b.required ∧ ∃ xs, fs.get? unsetField = some (.set xs) ∧ m.property.variant ∈ xs

theorem Sound.isUnset_iff (hn : b.WellNamed) (h : b.Sound fs) :
    b.IsUnset fs m ↔ m ∈ b.required ∧ fs.get? m.name = some .absent := by
  constructor
  · rintro ⟨hm, hset⟩
    exact ⟨hm, (h.absent_iff hn hm).mpr hset⟩
  · rintro ⟨hm, habsent⟩
    exact ⟨hm, (h.absent_iff hn hm).mp habsent⟩

/-- The getters of the builder and the partial panic for a required member without a value. -/
theorem getters_unset (hn : b.WellNamed) (hm : m ∈ b.required)
    (h : fs.get? m.name = some .absent) :
    (b.link given (n + 1)).method false (builderOf fs) m.name [] =
        .error (.panic m.unsetMessage) ∧
      (b.link given (n + 1)).associated b.typeName m.name [.record .partialType fs] =
        .error (.panic m.unsetMessage) := by
  obtain ⟨hmem, hreq⟩ := mem_required.mp hm
  have houtcome : m.getterOutcome = m.readRequired := by
    rw [Member.getterOutcome, Member.isRequired_iff.mp hreq, if_pos hreq]
  constructor
  · obtain ⟨decorations, hf⟩ := m.getter_mem_accessors b
    rw [houtcome] at hf
    rw [show m.name = (m.builderGetter decorations m.readRequired).name from rfl,
      method_builder hn (accessor_mem_builderFunctions hmem hf) (Or.inl rfl)]
    exact runFunction_of_panic rfl rfl (finish_readRequired_unset h)
  · rw [associated_partialGetter given n hn hmem, partialOutcome, if_pos hreq,
      runFunction_of_panic rfl rfl (finish_readRequired_unset h)]
    rfl

/-- Otherwise they return what is stored, without the option around a required value. -/
theorem getters_set (hd : b.Declarable) (hm : m ∈ b.members) {v : Value D}
    (h : fs.get? m.name = some (if m.isRequired then .present v else v)) :
    (b.link given (n + 1)).method false (builderOf fs) m.name [] = .ok (v, builderOf fs) ∧
      (b.link given (n + 1)).associated b.typeName m.name [.record .partialType fs] = .ok v := by
  have hn := hd.toWellNamed
  have hname := hd.receiver m hm
  by_cases hreq : m.isRequired = true
  -- the value is bound to a variable with the name of the member, which is not the receiver
  · rw [if_pos hreq] at h
    obtain ⟨w, heq, hcall⟩ := call_getter_required given n hn (mem_required.mpr ⟨hm, hreq⟩) h
    refine ⟨by rw [hcall, heq hname], call_partialGetter given n hn hm ?_⟩
    rw [partialOutcome, if_pos hreq]
    exact finish_readRequired_set hname h
  · rw [if_neg hreq] at h
    refine ⟨call_getter_stored given n hn hm (by simpa using hreq) h,
      call_partialGetter given n hn hm ?_⟩
    rw [partialOutcome, if_neg hreq]
    exact finish_readStored h

/-! ## All readers -/

/-- The builder, the partial and the value read the same. -/
structure ReadersAgree (b : Blueprint) (fs : Fields D) : Prop where
  /-- The constructor of the partial makes one that holds what the builder holds, and the method
  that builds a partial hands it back, if a type can be told from the other by its name. -/
  buildPartial : ∀ (given : Tokens → Value D) (n : Nat),
    runFunction (b.context given .partialType (b.link given n)) b.partialNew .unit
        [builderOf fs] = .ok (.record .partialType fs, .unit) ∧
      (b.value ≠ b.partialType →
        (b.link given (n + 2)).method false (builderOf fs) (plain "build_partial") [] =
          .ok (.record .partialType fs, builderOf fs))
  /-- Where a required member is unset, both getters panic with the same message. -/
  unset : ∀ (given : Tokens → Value D) (n : Nat), ∀ m ∈ b.members, b.IsUnset fs m →
    (b.link given (n + 1)).method false (builderOf fs) m.name [] =
        .error (.panic (m.label ++ " not set")) ∧
      (b.link given (n + 1)).associated b.typeName m.name [.record .partialType fs] =
        .error (.panic (m.label ++ " not set"))
  /-- Everywhere else, both return the same value. -/
  set : ∀ (given : Tokens → Value D) (n : Nat), ∀ m ∈ b.members, ¬ b.IsUnset fs m → ∃ v,
    (b.link given (n + 1)).method false (builderOf fs) m.name [] = .ok (v, builderOf fs) ∧
      (b.link given (n + 1)).associated b.typeName m.name [.record .partialType fs] = .ok v
  /-- If a build succeeds, then the getters of the value return what those of the builder do. -/
  build : ∀ (given : Tokens → Value D) (n : Nat), ∃ r,
    (b.link given (n + 3)).method false (builderOf fs) (plain "build") [] =
        .ok (r, builderOf fs) ∧
      ((∃ e, r = .failure e) ∨ ∃ gs, r = b.built gs ∧ ∀ m ∈ b.members, ∃ v,
        (b.link given (n + 1)).associated b.typeName m.name [.record .value gs] = .ok v ∧
          (b.link given (n + 1)).method false (builderOf fs) m.name [] = .ok (v, builderOf fs) ∧
          (b.link given (n + 1)).associated b.typeName m.name [.record .partialType fs] = .ok v)

/-- The getters of a builder, of the partial and of the value that are built of it agree after every
run. -/
theorem readers_agree (hd : b.Declarable) (h : b.Reachable fs) : b.ReadersAgree fs where
  buildPartial given n := by
    have hlaid := (h.sound hd.toWellNamed).toLaid
    exact ⟨run_partialNew given n hd.toWellNamed hlaid,
      method_buildPartial given n hd.toWellNamed hlaid⟩
  unset given n m _ hunset := by
    obtain ⟨hreq, habsent⟩ := ((h.sound hd.toWellNamed).isUnset_iff hd.toWellNamed).mp hunset
    exact getters_unset given n hd.toWellNamed hreq habsent
  set given n m hm hset := by
    have hsound := h.sound hd.toWellNamed
    rw [hsound.isUnset_iff hd.toWellNamed] at hset
    by_cases hreq : m.isRequired = true
    · have hmem := mem_required.mpr ⟨hm, hreq⟩
      obtain ⟨v, hv⟩ := hsound.exists_present hmem fun habsent => hset ⟨hmem, habsent⟩
      exact ⟨v, getters_set given n hd hm (by rw [if_pos hreq, hv])⟩
    · obtain ⟨v, hv, -⟩ := hsound.members m hm
      exact ⟨v, getters_set given n hd hm (by rw [if_neg hreq, hv])⟩
  build given n := by
    obtain ⟨r, hbuild, -, hresult⟩ := (h.sound hd.toWellNamed).build hd.toWellNamed given n
    refine ⟨r, hbuild, ?_⟩
    rcases hresult with hfailure | ⟨gs, hbuilt, hcarries⟩
    · exact Or.inl ⟨_, hfailure⟩
    · refine Or.inr ⟨gs, hbuilt, fun m hm => ?_⟩
      obtain ⟨v, hv, hfs⟩ := hcarries m hm
      exact ⟨v, call_valueGetter given n hd.toWellNamed hm hv, getters_set given n hd hm hfs⟩

end Blueprint

/-! ## Books -/

/-- A new builder of books: the width is required, and the other members have initial values. -/
def blankBook : Fields Unit := [
  (plain "width", .absent),
  (plain "age", .list [.number 7]),
  (plain "owner", .absent),
  (plain "pages", .list [.number 7]),
  (unsetField, .set [plain "Width"])]

/-- The builder after the width has been set. -/
def boundBook : Fields Unit := [
  (plain "width", .present (.number 3)),
  (plain "age", .list [.number 7]),
  (plain "owner", .absent),
  (plain "pages", .list [.number 7]),
  (unsetField, .set [])]

theorem blankBook_reachable : bookBlueprint.Reachable blankBook :=
  .new (n := 0) bookBlueprint_defaultsFit rfl

theorem boundBook_reachable : bookBlueprint.Reachable boundBook := by
  have hchanges : bookBlueprint.Changes (fun _ => .list [.number 7]) 1
      (widthMember.setterMethod bookBlueprint) [(.number 3 : Value Unit)] :=
    { function := Blueprint.accessor_mem_builderFunctions (m := widthMember) (by decide)
        List.mem_cons_self
      receiver := rfl
      defaults := bookBlueprint_defaultsFit
      arguments := .cons trivial .nil }
  refine blankBook_reachable.step hchanges (fun as has => ?_) rfl
  simp at has

/-- The getters agree where the width is unset and where it is set. -/
theorem books_readersAgree : bookBlueprint.Declarable ∧
    bookBlueprint.Reachable blankBook ∧ bookBlueprint.ReadersAgree blankBook ∧
    bookBlueprint.Reachable boundBook ∧ bookBlueprint.ReadersAgree boundBook :=
  ⟨bookBlueprint_declarable,
    blankBook_reachable, Blueprint.readers_agree bookBlueprint_declarable blankBook_reachable,
    boundBook_reachable, Blueprint.readers_agree bookBlueprint_declarable boundBook_reachable⟩

end TraitBuilder
