import TraitBuilder.Generated.Serialization
import TraitBuilder.Proofs.Builder.Copying

/-!
# Reading a value

What was read of each member is applied to a new builder by the member's own setter, and building
the builder gives the result.  What is missing leaves the initial value of the member as it is,
except that an optional member is absent then.

* `Member.filled`: what the builder holds of a member in the end.
* `run_deserialize`: reading fails exactly if a required member was missing.
-/

namespace TraitBuilder

open Code Meaning

variable {D : Type}

namespace Member

/-- What the builder holds of the member after what was read of it has been applied. -/
def filled (m : Member) (old read : Value D) : Value D :=
  match m.role, read with
  | .optional _, r => r
  | .single none, .present v => .present v
  | _, .present v => v
  | _, _ => old

/-- What may be read of a member: an option, which is one of a list if the member is a list. -/
def Reads (m : Member) (r : Value D) : Prop :=
  r = .absent ∨ ∃ v, r = .present v ∧ ∀ element e, m.role = .list element e → v.IsList

end Member

namespace Blueprint

/-- While the fields that were read are applied to a builder.  They are in the variable `x`. -/
def reading (x : Ident) (rs : Fields D) (d : Value D) (fs : Fields D) : Env D :=
  ⟨.unit, [(builderVar, builderOf fs), (x, .record .shadow rs), (deserializerVar, d)]⟩

section Applying

variable {b : Blueprint} {k : Context D} {rs fs gs : Fields D} {d : Value D}

theorem place_reading {x : Ident} (hx : x.name ≠ builderVar.name) (rs : Fields D) (d : Value D) :
    Place k (.var builderVar) (reading x rs d) := by
  have hfree : Fields.get? [(x, .record .shadow rs), (deserializerVar, d)] builderVar = none := by
    rw [Fields.get?_cons, if_neg hx]
    rfl
  exact Place.ofVariable k .unit (by decide) hfree

/-- A setter is called with what was read, if there is something. -/
theorem execute_applyPresent {x : Ident} (hx : x ≠ plain "self")
    (hne : x.name ≠ builderVar.name) {result : Term} {v : Value D} {setter : Ident}
    (hresult : evaluate k (reading fieldsVar rs d fs) result = .ok (.present v))
    (hcall : Leaves (k.link.method true (builderOf fs) setter [v]) gs) :
    execute k (.whenSome x result [.run (.method (.var builderVar) setter [.var x])])
      (reading fieldsVar rs d fs) = .ok (reading fieldsVar rs d gs) := by
  have hplace := (place_reading (k := k) (x := fieldsVar) (by decide) rs d).bound (by decide) hne v
  have hargument : evaluateAll k ((reading fieldsVar rs d fs).bind x v) [.var x] = .ok [v] := by
    rw [evaluateAll, evaluate_var hx (Fields.get?_cons_self x v _)]
    rfl
  exact execute_whenSome hresult (executeAll_single (hplace.execute_call hargument hcall)) rfl

/-- What was read of a member is applied to it and to no other. -/
theorem applyField_updates (given : Tokens → Value D) (n : Nat) (hd : b.Declarable) {m : Member}
    (hm : m ∈ b.members) {r u : Value D} (hr : rs.get? m.name = some r) (hreads : m.Reads r)
    (h : b.Sound fs) (hu : fs.get? m.name = some u) :
    ∃ gs, execute (b.context given .value (b.link given (n + 2))) (applyField m)
      (reading fieldsVar rs d fs) = .ok (reading fieldsVar rs d gs) ∧ b.Sound gs ∧
        b.Updates m (m.filled u r) fs gs := by
  let k : Context D := b.context given .value (b.link given (n + 2))
  have hplace := place_reading (k := k) (x := fieldsVar) (by decide) rs d
  have hfield : evaluate k (reading fieldsVar rs d fs) (.field (.var fieldsVar) m.name) = .ok r :=
    evaluate_field (evaluate_var (by decide) rfl) hr
  unfold applyField Member.setFromResult Member.filled
  cases hrole : m.role with
  | optional default =>
    obtain ⟨w, gs, heq, hcall, hgs, hupdates⟩ :=
      call_nullableSetter_updates given (n + 1) hd.toWellNamed hm hrole h r
    obtain rfl := heq (hd.receiver m hm)
    have hargument : evaluateAll k (reading fieldsVar rs d fs)
        [.field (.var fieldsVar) m.name] = .ok [w] := by
      rw [evaluateAll, hfield]
      rfl
    exact ⟨gs, hplace.execute_call hargument hcall, hgs, hupdates⟩
  | single default =>
    rcases hreads with rfl | ⟨v, rfl, -⟩
    · refine ⟨fs, execute_whenSome_absent hfield, h, Updates.refl ?_⟩
      cases default <;> exact hu
    · obtain ⟨w, gs, heq, hcall, hgs, hupdates⟩ :=
        call_setter_updates given (n + 1) hd.toWellNamed hm (by simp [hrole]) h v
      obtain rfl := heq (hd.receiver m hm)
      refine ⟨gs, execute_applyPresent (by decide) (by decide) hfield hcall, hgs, ?_⟩
      rw [Member.setTo, hrole] at hupdates
      cases default <;> exact hupdates
  | list element default =>
    rcases hreads with rfl | ⟨v, rfl, hlist⟩
    · exact ⟨fs, execute_whenSome_absent hfield, h, Updates.refl hu⟩
    · obtain ⟨vs, rfl⟩ := hlist element default hrole
      obtain ⟨gs, hcall, hgs, hupdates⟩ :=
        call_listSetter_updates given n hd.toWellNamed hm hrole h vs
      exact ⟨gs, execute_applyPresent (by decide) (by decide) hfield hcall, hgs, hupdates⟩

theorem executeAll_applyField (given : Tokens → Value D) (n : Nat) (hd : b.Declarable)
    (hreads : ∀ m ∈ b.members, ∃ r, rs.get? m.name = some r ∧ m.Reads r) (h : b.Sound fs) :
    ∃ gs, executeAll (b.context given .value (b.link given (n + 2))) (b.members.map applyField)
      (reading (markUnused fieldsVar b.members.isEmpty) rs d fs) =
        .ok (reading (markUnused fieldsVar b.members.isEmpty) rs d gs) ∧ b.Sound gs ∧
          ∀ m ∈ b.members, ∃ u w, fs.get? m.name = some u ∧ gs.get? m.name = some w ∧
            ∃ r, rs.get? m.name = some r ∧ w = m.filled u r := by
  rw [List.map_eq_flatMap]
  refine executeAll_members hd.distinctFields (fun _ h => h.toLaid)
    (reading (markUnused fieldsVar b.members.isEmpty) rs d) (fun m => [applyField m]) _
    (fun m hm fs u hfs hu => ?_) h
  -- the variable is marked as unused only if there is no member
  have hvar : markUnused fieldsVar b.members.isEmpty = fieldsVar := by
    simp [markUnused, List.ne_nil_of_mem hm]
  obtain ⟨r, hr, hread⟩ := hreads m hm
  obtain ⟨gs, hrun, hgs, hupdates⟩ :=
    applyField_updates (d := d) given n hd hm hr hread hfs hu
  rw [hvar]
  exact ⟨_, gs, executeAll_single hrun, hgs, hupdates, r, hr, rfl⟩

end Applying

/-! ## The result -/

section Result

variable {b : Blueprint} {k : Context D} {env : Env D} {fs gs : Fields D}

theorem finish_deserializeResult_built
    (hbuilder : evaluate k env (.var builderVar) = .ok (builderOf fs))
    (hbuild : k.link.method false (builderOf fs) (plain "build") [] =
      .ok (b.built gs, builderOf fs)) :
    finish k env (.term b.deserializeResult) = .ok (.success (.record .value gs), env) := by
  have hbuilt : evaluate k env (.method (.var builderVar) (plain "build") []) =
      .ok (b.built gs) := evaluate_method hbuilder hbuild
  unfold deserializeResult
  unfold built at hbuilt
  split at hbuilt <;> rename_i hreq
  · rw [if_pos hreq]
    simp only [finish, perform, hbuilt, Answer.ok_bind]
    rfl
  · rw [if_neg hreq]
    simp only [finish, Term.apply, perform]
    rw [evaluate, evaluateAll, hbuilt]
    rfl

theorem finish_deserializeResult_failure {e : Value D} (hreq : b.hasRequired = true)
    (hbuilder : evaluate k env (.var builderVar) = .ok (builderOf fs))
    (hbuild : k.link.method false (builderOf fs) (plain "build") [] =
      .ok (.failure e, builderOf fs)) :
    finish k env (.term b.deserializeResult) = .ok (.failure e, env) := by
  have hbuilt : evaluate k env (.method (.var builderVar) (plain "build") []) =
      .ok (.failure e) := evaluate_method hbuilder hbuild
  rw [deserializeResult, if_pos hreq]
  simp only [finish, perform, hbuilt, Answer.ok_bind]
  rfl

end Result

/-! ## The whole function -/

/-- The builder that is built holds of each member what was read, or its initial value. -/
def Filled (b : Blueprint) (given : Tokens → Value D) (rs fs : Fields D) : Prop :=
  ∀ m ∈ b.members, ∃ r, rs.get? m.name = some r ∧
    fs.get? m.name = some (m.filled (m.initialValue given) r)

section Whole

variable {b : Blueprint} {given : Tokens → Value D} {rs fs : Fields D}

/-- After the fields that were read have been applied to a new builder. -/
def applied (b : Blueprint) (rs fs : Fields D) : Env D :=
  reading (markUnused fieldsVar b.members.isEmpty) rs (.success (.record .shadow rs)) fs

theorem place_applied {k : Context D} :
    Place k (.var builderVar) (b.applied rs) := by
  refine place_reading ?_ _ _
  unfold markUnused
  split <;> decide

/-- What was read is applied to a new builder. -/
theorem executeAll_deserialize (n : Nat) (hd : b.Declarable) (hdefaults : b.DefaultsFit given)
    (hreads : ∀ m ∈ b.members, ∃ r, rs.get? m.name = some r ∧ m.Reads r) :
    ∃ fs, executeAll (b.context given .value (b.link given (n + 3)))
      b.deserializeFunction.body.statements
        ⟨.unit, [(deserializerVar, .success (.record .shadow rs))]⟩ = .ok (b.applied rs fs) ∧
      b.Sound fs ∧ b.Filled given rs fs := by
  let k : Context D := b.context given .value (b.link given (n + 3))
  let d : Value D := .success (.record .shadow rs)
  let x := markUnused fieldsVar b.members.isEmpty
  obtain ⟨fresh, hnew, hfresh⟩ := new_fresh hd.distinctFields hdefaults (n + 2)
  obtain ⟨fs, hrun, hsound, hall⟩ :=
    executeAll_applyField (d := d) given (n + 1) hd hreads hfresh.toSound
  have hstatements : executeAll k b.deserializeFunction.body.statements
      ⟨.unit, [(deserializerVar, d)]⟩ = .ok (reading x rs d fs) := by
    have hread : evaluate k ⟨.unit, [(deserializerVar, d)]⟩
        (.orReturn (.call .readFields [.var deserializerVar] false)) =
          .ok (.record .shadow rs) := by
      rw [evaluate, evaluate, evaluateAll, evaluate_var (by decide) (Fields.get?_cons_self _ d [])]
      rfl
    have hcreate : evaluate k ⟨.unit, [(x, .record .shadow rs), (deserializerVar, d)]⟩
        b.newBuilder = .ok (builderOf fresh) := by
      rw [newBuilder, evaluate_call_associated rfl]
      exact hnew
    simp only [deserializeFunction, deserializeBody, executeAll_append, executeAll, execute, hread,
      Answer.ok_bind, Answer.pure_eq, Env.bind]
    rw [hcreate]
    exact hrun
  refine ⟨fs, hstatements, hsound, fun m hm => ?_⟩
  obtain ⟨u, w, hu, hw, r, hr, rfl⟩ := hall m hm
  obtain rfl : m.initialValue given = u := Option.some.inj ((hfresh.initial m hm).symm.trans hu)
  exact ⟨r, hr, hw⟩

/-- What the builder gives that was read: an error if something that is required is unset, otherwise
a value that holds the same. -/
theorem run_deserialize_of_applied (n : Nat) (hd : b.Declarable) (hsound : b.Sound fs)
    (happlied : executeAll (b.context given .value (b.link given (n + 3)))
      b.deserializeFunction.body.statements
        ⟨.unit, [(deserializerVar, .success (.record .shadow rs))]⟩ = .ok (b.applied rs fs)) :
    ∃ r, runFunction (b.context given .value (b.link given (n + 3))) b.deserializeFunction .unit
        [.success (.record .shadow rs)] = .ok (r, .unit) ∧
      (r = .failure (b.unsetError fs) ∧ (∃ m ∈ b.required, fs.get? m.name = some .absent) ∨
        ∃ gs, r = .success (.record .value gs) ∧ b.Carries fs gs) := by
  have hplace : Place (b.context given .value (b.link given (n + 3))) (.var builderVar)
      (b.applied rs) := place_applied
  have hbuilder := hplace.evaluate fs
  by_cases hunset : ∃ m ∈ b.required, fs.get? m.name = some .absent
  · have hfinish := finish_deserializeResult_failure
      (hasRequired_of_mem hunset.choose_spec.1) hbuilder
      (build_unset given n hd.toWellNamed hsound hunset)
    exact ⟨_, runFunction_of_finish rfl happlied hfinish, Or.inl ⟨rfl, hunset⟩⟩
  · have hset : ∀ m ∈ b.required, fs.get? m.name ≠ some .absent :=
      fun m hm habsent => hunset ⟨m, hm, habsent⟩
    obtain ⟨gs, hbuild, hcarries⟩ := build_set given n hd.toWellNamed hsound hset
    have hfinish := finish_deserializeResult_built hbuilder hbuild
    exact ⟨_, runFunction_of_finish rfl happlied hfinish, Or.inr ⟨gs, rfl, hcarries⟩⟩

/-- Reading a value fails exactly if something that is required was missing, with an error that
names all such members; otherwise the value holds what was read. -/
theorem run_deserialize (n : Nat) (hd : b.Declarable) (hdefaults : b.DefaultsFit given)
    (hreads : ∀ m ∈ b.members, ∃ r, rs.get? m.name = some r ∧ m.Reads r) :
    ∃ fs r, b.Filled given rs fs ∧
      runFunction (b.context given .value (b.link given (n + 3))) b.deserializeFunction .unit
        [.success (.record .shadow rs)] = .ok (r, .unit) ∧
      (r = .failure (b.unsetError fs) ∧ (∃ m ∈ b.required, fs.get? m.name = some .absent) ∨
        ∃ gs, r = .success (.record .value gs) ∧ b.Carries fs gs) := by
  obtain ⟨fs, happlied, hsound, hfilled⟩ := executeAll_deserialize n hd hdefaults hreads
  obtain ⟨r, hrun, houtcome⟩ := run_deserialize_of_applied n hd hsound happlied
  exact ⟨fs, r, hfilled, hrun, houtcome⟩

end Whole

end Blueprint

end TraitBuilder
