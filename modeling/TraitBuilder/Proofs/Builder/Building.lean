import TraitBuilder.Proofs.Builder.Clearing

/-!
# Building a value

A build looks only at the set of the unset properties: it fails with the variants in the set, or
else copies every field.  If the state of the builder is as it should be, then the copies do not
fail, and the variants are those of the required members without a value.

* `build_unset`: if a required member has no value, then the build fails and names all of them.
* `build_set`: otherwise it returns a value with the values of all members.
-/

namespace TraitBuilder

open Code Meaning

variable {D : Type}

namespace Blueprint

/-- The error that names the required members without a value. -/
def unsetError (b : Blueprint) (fs : Fields D) : Value D :=
  .record .buildError [(errorField, .list ((b.unsetIn fs).map .variant))]

/-- The fields of a value hold what the builder holds; a required member is there unwrapped. -/
def Carries (b : Blueprint) (fs gs : Fields D) : Prop :=
  ∀ m ∈ b.members, ∃ v, gs.get? m.name = some v ∧
    fs.get? m.name = some (if m.isRequired then .present v else v)

/-- A built value, as a success if a build can fail. -/
def built (b : Blueprint) (gs : Fields D) : Value D :=
  if b.hasRequired then .success (.record .value gs) else .record .value gs

variable {b : Blueprint} {fs : Fields D} (given : Tokens → Value D)

/-! ## The error -/

/-- The constructor of the error, called by its name, lists the elements of a set. -/
theorem call_errorNew (n : Nat) (xs : List Ident) :
    (b.link given (n + 1)).associated b.buildError (plain "new") [.set xs] =
      .ok (.record .buildError [(errorField, .list (xs.map .variant))]) := by
  let k : Context D := b.context given .buildError (b.link given n)
  have hset : evaluate k ⟨.unit, [(errorField, .set xs)]⟩ (.var errorField) = .ok (.set xs) :=
    evaluate_var (by decide) (by simp)
  have hlist : evaluate k ⟨.unit, [(errorField, .set xs)]⟩
      (.method (.var errorField) (plain "iter") []) = .ok (.list (xs.map .variant)) := by
    rw [evaluate, evaluateAll, hset]
    rfl
  have hfinish : finish k ⟨.unit, [(errorField, .set xs)]⟩ b.errorNew.body.outcome =
      .ok (.record .buildError [(errorField, .list (xs.map .variant))],
        ⟨.unit, [(errorField, .set xs)]⟩) := by
    have hcollected := evaluate_keeps (f := .collect) rfl (evaluate_keeps (f := .copied) rfl hlist)
    simp only [errorNew, finish, evaluateRecord, List.mapM_cons, List.mapM_nil, hcollected]
    rfl
  have hfind : findFunction ((b.functionsOf .buildError).filter fun f => f.receiver = .none)
      (plain "new") = some b.errorNew := rfl
  simp only [link, callOf, if_true, runNamed, hfind]
  rw [runFunction_of_finish rfl rfl hfinish]
  rfl

/-! ## The value -/

section Value

variable {env : Env D} {k : Context D}

/-- What the value holds of a member, unless the member is required and has no value. -/
theorem evaluate_finalValue {m : Member} {v : Value D}
    (hbuilder : env.locals.get? builderVar = some (builderOf fs))
    (hunset : m.isRequired = true → env.locals.get? Member.unsetVar ≠ none)
    (hv : fs.get? m.name = some (if m.isRequired then .present v else v)) :
    evaluate k env (m.finalValue builderVar) = .ok v := by
  have hcopied : evaluate k env (m.copied builderVar) =
      .ok (if m.isRequired then .present v else v) := by
    refine evaluate_keeps rfl ?_
    rw [evaluate, evaluate_field (evaluate_var (by decide) hbuilder) hv]
  unfold Member.finalValue
  by_cases hreq : m.isRequired = true
  · obtain ⟨e, he⟩ := Option.ne_none_iff_exists'.mp (hunset hreq)
    rw [if_pos hreq] at hcopied ⊢
    have harguments : evaluateAll k env [m.copied builderVar, .var Member.unsetVar] =
        .ok [.present v, e] := by
      rw [evaluateAll, hcopied, evaluateAll, evaluate_var (by decide) he]
      rfl
    simp [evaluate, harguments, call, callLibrary]
  · rw [if_neg hreq] at hcopied ⊢
    exact hcopied

/-- The value of the builder's field, unwrapped if the member is required. -/
theorem Laid.exists_carried (h : b.Laid fs)
    (hset : ∀ m ∈ b.required, fs.get? m.name ≠ some .absent) {m : Member} (hm : m ∈ b.members) :
    ∃ v, fs.get? m.name = some (if m.isRequired then .present v else v) := by
  by_cases hreq : m.isRequired = true
  · have hmem := mem_required.mpr ⟨hm, hreq⟩
    simpa [hreq] using h.exists_present hmem (hset m hmem)
  · obtain ⟨v, hv, -⟩ := h.members m hm
    exact ⟨v, by rw [if_neg hreq, hv]⟩

theorem evaluateRecord_valueInitials (k : Context D) (env : Env D) (hn : b.WellNamed)
    (h : b.Laid fs)
    (hset : ∀ m ∈ b.required, fs.get? m.name ≠ some .absent)
    (hbuilder : b.members ≠ [] → env.locals.get? builderVar = some (builderOf fs))
    (hunset : b.hasRequired = true → env.locals.get? Member.unsetVar ≠ none) :
    ∃ gs, evaluateRecord k env b.valueInitials = .ok gs ∧ b.Carries fs gs := by
  have hvalue : ∀ m ∈ b.members, ∃ v, evaluate k env (m.finalValue builderVar) = .ok v ∧
      fs.get? m.name = some (if m.isRequired then .present v else v) := by
    intro m hm
    obtain ⟨v, hv⟩ := h.exists_carried hset hm
    refine ⟨v, evaluate_finalValue (hbuilder (List.ne_nil_of_mem hm)) (fun hreq => ?_) hv, hv⟩
    exact hunset (hasRequired_of_mem (mem_required.mpr ⟨hm, hreq⟩))
  obtain ⟨gs, hgs, hnames, hvalues⟩ := evaluateRecord_map Member.name _ hvalue
  have hnodup : (gs.map (·.1.name)).Nodup := by
    refine Fields.nodup_of_map_fst hnames ?_
    rw [List.map_map]
    exact hn.distinctFields.members_nodup
  refine ⟨gs, hgs, fun m hm => ?_⟩
  obtain ⟨v, hmem, hv⟩ := hvalues m hm
  exact ⟨v, Fields.get?_of_mem hnodup hmem, hv⟩

end Value

theorem members_ne_nil_of_hasRequired (hreq : b.hasRequired = true) : b.members ≠ [] := by
  obtain ⟨m, hm, -⟩ := List.any_eq_true.mp hreq
  exact List.ne_nil_of_mem hm

theorem execute_bindUnset {xs : List Ident} (n : Nat)
    (hset : fs.get? unsetField = some (.set xs)) :
    ∃ e, executeAll (b.context given .value (b.link given (n + 1))) [b.bindUnset]
      ⟨.unit, [(builderVar, builderOf fs)]⟩ =
        .ok ⟨.unit, [(Member.unsetVar, e), (builderVar, builderOf fs)]⟩ := by
  let k : Context D := b.context given .value (b.link given (n + 1))
  let env : Env D := ⟨.unit, [(builderVar, builderOf fs)]⟩
  have hbuilder : evaluate k env (.var builderVar) = .ok (builderOf fs) :=
    evaluate_var (by decide) (by simp [env])
  have harguments : evaluateAll k env [.borrow false (.field (.var builderVar) unsetField)] =
      .ok [.set xs] := by
    rw [evaluateAll, evaluate, evaluate_field hbuilder hset]
    rfl
  have hthunk : evaluate k env (.thunk (.call (.associated b.buildError (plain "new"))
      [.borrow false (.field (.var builderVar) unsetField)] false)) =
        .ok (.record .buildError [(errorField, .list (xs.map .variant))]) := by
    rw [evaluate, evaluate_call_associated harguments]
    exact call_errorNew given n xs
  refine ⟨.record .buildError [(errorField, .list (xs.map .variant))], ?_⟩
  rw [executeAll, bindUnset, execute, hthunk]
  rfl

theorem run_valueNew (n : Nat) (hn : b.WellNamed) (h : b.Sound fs)
    (hset : ∀ m ∈ b.required, fs.get? m.name ≠ some .absent) :
    ∃ gs, runFunction (b.context given .value (b.link given (n + 1))) b.valueNew .unit
      [builderOf fs] = .ok (b.built gs, .unit) ∧ b.Carries fs gs := by
  let k : Context D := b.context given .value (b.link given (n + 1))
  by_cases hreq : b.hasRequired = true
  · have hparameter : markUnused builderVar b.members.isEmpty = builderVar := by
      simp [markUnused, members_ne_nil_of_hasRequired hreq]
    obtain ⟨e, hbind⟩ := execute_bindUnset (b := b) given n (h.tracked hreq)
    let env : Env D := ⟨.unit, [(Member.unsetVar, e), (builderVar, builderOf fs)]⟩
    obtain ⟨gs, hgs, hcarries⟩ := evaluateRecord_valueInitials k env hn h.toLaid hset
      (fun _ => rfl) fun _ => by simp [env]
    have hstatements : executeAll k b.valueNew.body.statements
        ⟨.unit, (b.valueNew.parameters.map (·.1)).zip [builderOf fs]⟩ = .ok env := by
      simp only [valueNew, hreq, if_true, hparameter]
      exact hbind
    have hfinish : finish k env b.valueNew.body.outcome = .ok (b.built gs, env) := by
      simp only [valueNew, hreq, if_true, finish, hgs, built]
      rfl
    exact ⟨gs, runFunction_of_finish rfl hstatements hfinish, hcarries⟩
  · let env : Env D := ⟨.unit, [(markUnused builderVar b.members.isEmpty, builderOf fs)]⟩
    obtain ⟨gs, hgs, hcarries⟩ := evaluateRecord_valueInitials k env hn h.toLaid hset
      (fun hmembers => by simp [env, markUnused, hmembers]) fun hreq' => absurd hreq' hreq
    have hreq' : b.hasRequired = false := by simpa using hreq
    have hstatements : executeAll k b.valueNew.body.statements
        ⟨.unit, (b.valueNew.parameters.map (·.1)).zip [builderOf fs]⟩ = .ok env := by
      simp only [valueNew, hreq', Bool.false_eq_true, if_false]
      rfl
    have hfinish : finish k env b.valueNew.body.outcome = .ok (b.built gs, env) := by
      simp only [valueNew, hreq', Bool.false_eq_true, if_false, finish, hgs, built]
      rfl
    exact ⟨gs, runFunction_of_finish rfl hstatements hfinish, hcarries⟩

theorem call_valueNew (n : Nat) (hn : b.WellNamed) (h : b.Sound fs)
    (hset : ∀ m ∈ b.required, fs.get? m.name ≠ some .absent) :
    ∃ gs, (b.link given (n + 2)).associated b.value (plain "new") [builderOf fs] =
      .ok (b.built gs) ∧ b.Carries fs gs := by
  have hfind : findFunction ((b.functionsOf .value).filter fun f => f.receiver = .none)
      (plain "new") = some b.valueNew := by
    simp [functionsOf, valueFunctions, findFunction, valueNew]
  obtain ⟨gs, hrun, hcarries⟩ := run_valueNew given n hn h hset
  refine ⟨gs, ?_, hcarries⟩
  rw [link]
  simp only [callOf, if_true, runNamed, hfind]
  rw [hrun]
  rfl

/-! ## The build -/

theorem method_build (n : Nat) (hn : b.WellNamed) :
    (b.link given (n + 3)).method false (builderOf fs) (plain "build") [] =
      runFunction (b.context given .builder (b.link given (n + 2))) b.buildFunction (builderOf fs)
        [] := by
  obtain ⟨hname, hreceiver, -⟩ := b.header_buildFunction
  have hmem : b.buildFunction ∈ b.builderFunctions := by simp [builderFunctions]
  rw [← hname, method_builder hn hmem (Or.inl hreceiver)]

theorem evaluate_anyUnset {k : Context D} {env : Env D} (hreq : b.hasRequired = true)
    (hself : env.self = builderOf fs) (h : b.Sound fs) :
    evaluate k env (.not (.method Member.ownUnset (plain "is_empty") [])) =
      .ok (.truth !(b.unsetIn fs).isEmpty) := by
  have hset : evaluate k env Member.ownUnset = .ok (.set (b.unsetIn fs)) :=
    evaluate_ownField hself (h.tracked hreq)
  simp [evaluate, evaluateAll, hset, callMethod, readBuiltin, plain]

theorem unsetIn_ne_nil_iff : b.unsetIn fs ≠ [] ↔
    ∃ m ∈ b.required, fs.get? m.name = some .absent := by
  simp [unsetIn, List.filter_eq_nil_iff, lacks_iff]

section Build

variable {k : Context D} {n : Nat}

/-- The test of the set hands back the error if the set is not empty. -/
theorem execute_checkUnset {given : Tokens → Value D} (hlink : k.link = b.link given (n + 1))
    (hreq : b.hasRequired = true) (h : b.Sound fs) :
    executeAll k b.buildFunction.body.statements ⟨builderOf fs, []⟩ =
      if b.unsetIn fs = [] then .ok ⟨builderOf fs, []⟩
      else .error (.returned (.failure (b.unsetError fs))) := by
  have hany : evaluate k ⟨builderOf fs, []⟩
      (.not (.method Member.ownUnset (plain "is_empty") [])) =
        .ok (.truth !(b.unsetIn fs).isEmpty) :=
    evaluate_anyUnset hreq rfl h
  have harguments : evaluateAll k ⟨builderOf fs, []⟩ [.ownFieldRef unsetField] =
      .ok [.set (b.unsetIn fs)] := by
    rw [evaluateAll, evaluate_ownFieldRef rfl (h.tracked hreq)]
    rfl
  have hnew : evaluate k ⟨builderOf fs, []⟩ (.call (.associated b.buildError (plain "new"))
      [.ownFieldRef unsetField] false) = .ok (b.unsetError fs) := by
    rw [evaluate_call_associated harguments, hlink, call_errorNew, unsetError]
  have herror : evaluate k ⟨builderOf fs, []⟩ (.apply .err [.call
      (.associated b.buildError (plain "new")) [.ownFieldRef unsetField] false]) =
        .ok (.failure (b.unsetError fs)) := by
    rw [Term.apply, evaluate, evaluateAll, hnew]
    rfl
  rw [buildFunction, if_pos hreq]
  cases hset : b.unsetIn fs with
  | nil =>
    rw [hset] at hany
    rw [executeAll, execute_when_false hany, if_pos rfl]
    rfl
  | cons x xs =>
    rw [hset] at hany
    rw [if_neg (List.cons_ne_nil x xs), executeAll, execute, hany, Answer.ok_bind]
    simp [executeAll, execute, herror]

/-- If a required member has no value, then the build fails and names all of them. -/
theorem build_unset (n : Nat) (hn : b.WellNamed) (h : b.Sound fs)
    (hunset : ∃ m ∈ b.required, fs.get? m.name = some .absent) :
    (b.link given (n + 3)).method false (builderOf fs) (plain "build") [] =
      .ok (.failure (b.unsetError fs), builderOf fs) := by
  have hreq : b.hasRequired = true := hasRequired_of_mem hunset.choose_spec.1
  obtain ⟨-, hreceiver, hparameters⟩ := b.header_buildFunction
  rw [method_build given n hn]
  refine runFunction_of_returned (by rw [hparameters]; rfl) (by simp [hreceiver]) ?_
  have hcheck := execute_checkUnset (k := b.context given .builder (b.link given (n + 2)))
    (n := n + 1) rfl hreq h
  rw [if_neg (unsetIn_ne_nil_iff.mpr hunset)] at hcheck
  rw [hparameters]
  exact hcheck

/-- If all required members have values, then the build returns a value that holds them. -/
theorem build_set (n : Nat) (hn : b.WellNamed) (h : b.Sound fs)
    (hset : ∀ m ∈ b.required, fs.get? m.name ≠ some .absent) :
    ∃ gs, (b.link given (n + 3)).method false (builderOf fs) (plain "build") [] =
      .ok (b.built gs, builderOf fs) ∧ b.Carries fs gs := by
  obtain ⟨-, -, hparameters⟩ := b.header_buildFunction
  obtain ⟨gs, hnew, hcarries⟩ := call_valueNew given n hn h hset
  refine ⟨gs, ?_, hcarries⟩
  let k : Context D := b.context given .builder (b.link given (n + 2))
  have hstatements : executeAll k b.buildFunction.body.statements ⟨builderOf fs, []⟩ =
      .ok ⟨builderOf fs, []⟩ := by
    by_cases hreq : b.hasRequired = true
    · have hempty : b.unsetIn fs = [] := by
        by_contra hne
        obtain ⟨m, hm, habsent⟩ := unsetIn_ne_nil_iff.mp hne
        exact hset m hm habsent
      rw [execute_checkUnset rfl hreq h, if_pos hempty]
    · rw [buildFunction, if_neg hreq]
      rfl
  have houtcome : b.buildFunction.body.outcome = .term (builtFrom b.value) := by
    unfold buildFunction
    split <;> rfl
  have hfinish : finish k ⟨builderOf fs, []⟩ b.buildFunction.body.outcome =
      .ok (b.built gs, ⟨builderOf fs, []⟩) := by
    have hself : evaluateAll k ⟨builderOf fs, []⟩ [.self] = .ok [builderOf fs] := by
      rw [evaluateAll, evaluate_self]
      rfl
    have hcall : evaluate k ⟨builderOf fs, []⟩ (builtFrom b.value) = .ok (b.built gs) := by
      rw [builtFrom, evaluate_call_associated hself]
      exact hnew
    rw [houtcome, finish]
    exact perform_call_associated hcall
  rw [method_build given n hn]
  refine runFunction_of_finish (by rw [hparameters]; rfl) ?_ hfinish
  rw [hparameters]
  exact hstatements

end Build

end Blueprint

end TraitBuilder
