import TraitBuilder.Proofs.Builder.Merging

/-!
# New and cleared builders

The constructor evaluates the initial values of all members; those that are required have none.  If
a builder can be created from outside, clearing takes over the set of a new builder after it has
reset every member, so between the two the set is not right.  Otherwise clearing only empties the
lists.

* `new_fresh`: a new builder holds the initial values, and its state is as it should be.
* `clear_fresh`: a cleared builder is so as well, if a builder can be created from outside.
* `clear_emptied`: otherwise clearing empties the lists and changes nothing else.
* `clear_sound`: clearing keeps the state as it should be in any case.
-/

namespace TraitBuilder

open Code Meaning

variable {D : Type}

namespace Member

/-- The value of the member in a new builder. -/
def initialValue (given : Tokens → Value D) (m : Member) : Value D :=
  match m.role with
  | .single none | .optional none => .absent
  | .single (some e) | .list _ (some e) => given e.tokens
  | .optional (some e) => .present (given e.tokens)
  | .list _ none => .list []

variable {given : Tokens → Value D} {m : Member}

theorem initialValue_of_required (h : m.isRequired = true) : m.initialValue given = .absent := by
  rw [initialValue, isRequired_iff.mp h]

theorem holds_initialValue
    (h : ∀ element e, m.role = .list element (some e) → (given e.tokens).IsList) :
    m.Holds (m.initialValue given) := by
  unfold Holds initialValue
  rcases hrole : m.role with (_ | e) | (_ | e) | ⟨element, _ | e⟩
  · exact Or.inl rfl
  · trivial
  · trivial
  · trivial
  · exact ⟨[], rfl⟩
  · exact h element e hrole

end Member

namespace Blueprint

/-- The initial values of lists that the user wrote can be collected into lists. -/
def DefaultsFit (b : Blueprint) (given : Tokens → Value D) : Prop :=
  ∀ m ∈ b.members, ∀ element e, m.role = .list element (some e) → (given e.tokens).IsList

/-- A builder for which nothing has been set. -/
structure Fresh (b : Blueprint) (given : Tokens → Value D) (fs : Fields D) : Prop
    extends b.Sound fs where
  initial : ∀ m ∈ b.members, fs.get? m.name = some (m.initialValue given)

section Fresh

variable {b : Blueprint} {given : Tokens → Value D} {fs : Fields D}

theorem unsetIn_of_absent (h : ∀ m ∈ b.required, fs.get? m.name = some .absent) :
    b.unsetIn fs = b.required.map (·.property.variant) := by
  rw [unsetIn, List.filter_eq_self.mpr fun m hm => lacks_iff.mpr (h m hm)]

theorem absent_of_initial
    (h : ∀ m ∈ b.members, fs.get? m.name = some (m.initialValue given)) :
    ∀ m ∈ b.required, fs.get? m.name = some .absent := by
  intro m hm
  obtain ⟨hmem, hreq⟩ := mem_required.mp hm
  rw [h m hmem, Member.initialValue_of_required hreq]

theorem Fresh.unset (h : b.Fresh given fs) (hreq : b.hasRequired = true) :
    fs.get? unsetField = some (.set (b.required.map (·.property.variant))) := by
  rw [h.tracked hreq, unsetIn_of_absent (absent_of_initial h.initial)]

/-- A builder that holds the initial values of all members and the set of a new builder. -/
theorem fresh_of_initial (hdefaults : b.DefaultsFit given)
    (hnames : fs.map (·.1) = b.builderFields.map (·.1))
    (hinitial : ∀ m ∈ b.members, fs.get? m.name = some (m.initialValue given))
    (hset : b.hasRequired = true →
      fs.get? unsetField = some (.set (b.required.map (·.property.variant)))) :
    b.Fresh given fs where
  names := hnames
  members m hm := ⟨_, hinitial m hm, Member.holds_initialValue (hdefaults m hm)⟩
  tracked hreq := by rw [hset hreq, unsetIn_of_absent (absent_of_initial hinitial)]
  initial := hinitial

end Fresh

/-! ## New builders -/

section New

variable {b : Blueprint} {k : Context D} {env : Env D}

theorem evaluate_initial {m : Member}
    (hdefault : ∀ element e, m.role = .list element (some e) → (k.given e.tokens).IsList) :
    evaluate k env m.initial = .ok (m.initialValue k.given) := by
  have hgiven (ts : Tokens) : evaluate k env (.given ts) = .ok (k.given ts) := by rw [evaluate]
  unfold Member.initial Member.initialValue
  rcases hrole : m.role with (_ | e) | (_ | e) | ⟨element, _ | e⟩
  · exact evaluate_none
  · exact evaluate_setterConversion (hgiven _)
  · exact evaluate_none
  · exact evaluate_some (evaluate_setterConversion (hgiven _))
  · simp [Term.apply, evaluate, evaluateAll, call, callLibrary]
  · obtain ⟨vs, hvs⟩ := hdefault element e hrole
    simp [evaluate, evaluateAll, hvs, call]

theorem evaluateAll_variants (ms : List Member) :
    evaluateAll k env (ms.map b.variant) = .ok (ms.map fun m => .variant m.property.variant) := by
  induction ms with
  | nil => simp [evaluateAll]
  | cons m ms ih =>
    rw [List.map_cons, evaluateAll, ih]
    simp [variant, evaluate]

theorem evaluate_allUnset (hdeclared : k.declared = b.required.map (·.property.variant)) :
    evaluate k env b.allUnset = .ok (.set (b.required.map (·.property.variant))) := by
  simp only [allUnset, Term.apply, evaluate, evaluateAll, evaluateAll_variants, Answer.ok_bind,
    Answer.pure_eq, call, callLibrary, hdeclared]
  refine congrArg (fun xs => Except.ok (Value.set xs)) (List.filter_eq_self.mpr fun x hx => ?_)
  obtain ⟨m, hm, rfl⟩ := List.mem_map.mp hx
  exact List.any_eq_true.mpr ⟨_, List.mem_map.mpr ⟨m, hm, rfl⟩, by simp⟩

theorem evaluateRecord_builderInitials (env : Env D) (hn : b.DistinctFields)
    (hdefaults : b.DefaultsFit k.given)
    (hdeclared : k.declared = b.required.map (·.property.variant)) :
    ∃ fs, evaluateRecord k env b.builderInitials = .ok fs ∧ b.Fresh k.given fs := by
  have hinitial : ∀ m ∈ b.members, ∃ v, evaluate k env m.initial = .ok v ∧
      v = m.initialValue k.given :=
    fun m hm => ⟨_, evaluate_initial (hdefaults m hm), rfl⟩
  obtain ⟨gs, hgs, hnames, hvalues⟩ := evaluateRecord_map Member.name Member.initial hinitial
  let unset : Fields D := if b.hasRequired then
    [(unsetField, .set (b.required.map (·.property.variant)))] else []
  have hunset : evaluateRecord k env (if b.hasRequired then [(unsetField, b.allUnset)] else []) =
      .ok unset := by
    unfold unset
    split
    · simp [evaluateRecord, evaluate_allUnset hdeclared]
    · rfl
  have hall : (gs ++ unset).map (·.1) = b.builderFields.map (·.1) := by
    unfold unset builderFields
    rw [List.map_append, List.map_append, hnames, List.map_map]
    split <;> rfl
  have hnodup : ((gs ++ unset).map (·.1.name)).Nodup := by
    refine Fields.nodup_of_map_fst hall ?_
    rw [List.map_map]
    exact hn
  refine ⟨gs ++ unset, ?_, fresh_of_initial hdefaults hall (fun m hm => ?_) fun hreq => ?_⟩
  · rw [builderInitials, evaluateRecord_append, hgs, Answer.ok_bind, hunset]
    rfl
  · obtain ⟨v, hv, rfl⟩ := hvalues m hm
    exact Fields.get?_of_mem hnodup (List.mem_append_left _ hv)
  · refine Fields.get?_of_mem hnodup (List.mem_append_right _ ?_)
    unfold unset
    rw [if_pos hreq]
    exact List.mem_singleton.mpr rfl

/-- The constructor of the builder, called by its name, makes a fresh builder. -/
theorem new_fresh {given : Tokens → Value D} (hn : b.DistinctFields)
    (hdefaults : b.DefaultsFit given) (n : Nat) :
    ∃ fs, (b.link given (n + 1)).associated b.builder (plain "new") [] =
      .ok (builderOf fs) ∧ b.Fresh given fs := by
  -- the constructor comes first, so it is found even if a method has the same name
  have hfind : findFunction (b.builderFunctions.filter fun f => f.receiver = .none)
      (plain "new") = some b.builderNew := by
    simp [builderFunctions, builderNew, findFunction]
  obtain ⟨fs, hrun, hfresh⟩ := evaluateRecord_builderInitials
    (k := b.context given .builder (b.link given n)) ⟨.unit, []⟩ hn hdefaults rfl
  have hfinish : finish (b.context given .builder (b.link given n)) ⟨.unit, []⟩
      b.builderNew.body.outcome = .ok (builderOf fs, ⟨.unit, []⟩) := by
    simp only [builderNew, finish, hrun]
    rfl
  refine ⟨fs, ?_, hfresh⟩
  simp only [link, callOf, if_true, runNamed, functionsOf, hfind]
  rw [runFunction_of_finish rfl rfl hfinish]
  rfl

end New

/-! ## Clearing -/

section Clearing

variable {b : Blueprint} {fs gs : Fields D}

/-- A member with an initial value takes that of the template. -/
theorem clear_of_needsTemplate {m : Member} (hneeds : m.needsTemplate = true) (t : Ident) :
    m.clear (some t) = [.assign (.ownField m.name) (.field (.var t) m.name)] := by
  unfold Member.needsTemplate at hneeds
  unfold Member.clear
  split <;> simp_all

theorem executeAll_clear {k : Context D} {given : Tokens → Value D} {locals : Fields D}
    {m : Member} (hm : m ∈ b.members) (hfs : b.Laid fs) (hgs : b.Fresh given gs)
    (htemplate : m.needsTemplate = true → locals = [(templateVar, builderOf gs)]) :
    executeAll k (m.clear (if m.needsTemplate then some templateVar else none))
      ⟨builderOf fs, locals⟩ =
        .ok ⟨builderOf (fs.set m.name (m.initialValue given)), locals⟩ := by
  have hthere := hfs.get?_ne_none hm
  by_cases hneeds : m.needsTemplate = true
  · have hfield : evaluate k ⟨builderOf fs, locals⟩ (.field (.var templateVar) m.name) =
        .ok (m.initialValue given) :=
      evaluate_field (evaluate_template (htemplate hneeds)) (hgs.initial m hm)
    rw [if_pos hneeds, clear_of_needsTemplate hneeds]
    exact executeAll_single (execute_assign_own rfl hthere hfield)
  · rw [if_neg hneeds]
    unfold Member.clear Member.initialValue
    unfold Member.needsTemplate at hneeds
    cases hrole : m.role with
    | single default => simp [hrole] at hneeds
    | optional default =>
      cases default with
      | none => exact executeAll_single (execute_assign_own rfl hthere evaluate_none)
      | some e => simp [hrole] at hneeds
    | list element default =>
      obtain ⟨vs, hvs⟩ := hfs.isList hm hrole
      cases default with
      | none => exact executeAll_single (execute_emptied_own rfl hvs)
      | some e => simp [hrole] at hneeds

/-- Resetting all members.  The set of the unset properties is not right in between. -/
theorem executeAll_clear_members (k : Context D) {given : Tokens → Value D} (locals : Fields D)
    (hn : b.DistinctFields) (hdefaults : b.DefaultsFit given) (h : b.Laid fs)
    (hgs : b.Fresh given gs)
    (htemplate : b.needsTemplate = true → locals = [(templateVar, builderOf gs)]) :
    ∃ fs', executeAll k
      (b.members.flatMap fun m => m.clear (if m.needsTemplate then some templateVar else none))
        ⟨builderOf fs, locals⟩ = .ok ⟨builderOf fs', locals⟩ ∧ b.Laid fs' ∧
          ∀ m ∈ b.members, fs'.get? m.name = some (m.initialValue given) := by
  obtain ⟨fs', hrun, hlaid, hall⟩ := executeAll_members (k := k) hn (fun _ h => h)
    (fun fs => ⟨builderOf fs, locals⟩)
    (fun m => m.clear (if m.needsTemplate then some templateVar else none))
    (fun m _ w => w = m.initialValue given) (fun m hm fs _ (hfs : b.Laid fs) _ =>
      ⟨m.initialValue given, _, executeAll_clear hm hfs hgs fun hneeds =>
          htemplate (List.any_eq_true.mpr ⟨m, hm, hneeds⟩),
        hfs.set_member hn hm (Member.holds_initialValue (hdefaults m hm)),
        Updates.set_field hfs hm _, rfl⟩) h
  refine ⟨fs', hrun, hlaid, fun m hm => ?_⟩
  obtain ⟨-, w, -, hw, rfl⟩ := hall m hm
  exact hw

theorem needsTemplate_of_hasRequired (hreq : b.hasRequired = true) : b.needsTemplate = true := by
  obtain ⟨m, hm, hrequired⟩ := List.any_eq_true.mp hreq
  refine List.any_eq_true.mpr ⟨m, hm, ?_⟩
  simp [Member.needsTemplate, Member.isRequired_iff.mp hrequired]

/-- Resetting all members and taking over the set of a new builder makes a builder fresh. -/
theorem executeAll_clearStatements {given : Tokens → Value D} (hn : b.DistinctFields)
    (hdefaults : b.DefaultsFit given) (n : Nat) (h : b.Laid fs) :
    ∃ gs locals, executeAll (b.context given .builder (b.link given (n + 1))) b.clearStatements
      ⟨builderOf fs, []⟩ = .ok ⟨builderOf gs, locals⟩ ∧ b.Fresh given gs := by
  let k : Context D := b.context given .builder (b.link given (n + 1))
  obtain ⟨template, hnew, htemplate⟩ := new_fresh hn hdefaults n
  let locals : Fields D := if b.needsTemplate then [(templateVar, builderOf template)] else []
  have hbind : executeAll k (if b.needsTemplate then [.bind false templateVar b.newBuilder] else [])
      ⟨builderOf fs, []⟩ = .ok ⟨builderOf fs, locals⟩ := by
    unfold locals
    split
    · have hcall : evaluate k ⟨builderOf fs, []⟩ b.newBuilder = .ok (builderOf template) := by
        rw [newBuilder, evaluate_call_associated rfl]
        exact hnew
      simp [executeAll, execute, hcall, Env.bind]
    · rfl
  obtain ⟨fs', hmembers, hlaid, hinitial⟩ :=
    executeAll_clear_members k locals hn hdefaults h htemplate fun hneeds => if_pos hneeds
  have hstart : executeAll k b.clearStatements ⟨builderOf fs, []⟩ =
      executeAll k (if b.hasRequired then [.assign Member.ownUnset templateUnset] else [])
        ⟨builderOf fs', locals⟩ := by
    rw [clearStatements, executeAll_append, executeAll_append, hbind, Answer.ok_bind, hmembers,
      Answer.ok_bind]
  by_cases hreq : b.hasRequired = true
  · have hthere := hlaid.unset_ne_none hreq
    have hset : evaluate k ⟨builderOf fs', locals⟩ templateUnset =
        .ok (.set (b.required.map (·.property.variant))) :=
      evaluate_field (evaluate_template (if_pos (needsTemplate_of_hasRequired hreq)))
        (htemplate.unset hreq)
    have hlaid' := hlaid.set_unset hn hreq (.set (b.required.map (·.property.variant)))
    refine ⟨_, locals, hstart.trans ?_, fresh_of_initial hdefaults hlaid'.names
      (fun m hm => ?_) fun _ => Fields.get?_set_self hthere _⟩
    · rw [if_pos hreq]
      exact executeAll_single (execute_assign_own rfl hthere hset)
    · rw [Fields.get?_set_of_ne (hn.name_ne_unsetField hreq hm), hinitial m hm]
  · refine ⟨fs', locals, hstart.trans ?_, fresh_of_initial hdefaults hlaid.names hinitial
      fun h => absurd h hreq⟩
    rw [if_neg hreq, executeAll]

/-- If a builder can be created from outside, then clearing makes a builder fresh. -/
theorem clear_fresh {given : Tokens → Value D} (hn : b.DistinctFields)
    (hdefaults : b.DefaultsFit given) (n : Nat) (hfactory : b.builderFactory = true)
    (h : b.Laid fs) :
    ∃ gs, Leaves (runFunction (b.context given .builder (b.link given (n + 1))) b.clearFunction
      (builderOf fs) []) gs ∧ b.Fresh given gs := by
  obtain ⟨gs, locals, hrun, hfresh⟩ := executeAll_clearStatements hn hdefaults n h
  refine ⟨gs, ?_, hfresh⟩
  rw [clearFunction, if_pos hfactory]
  exact runFunction_changer rfl hrun

/-- If no builder can be created from outside, then clearing only empties the lists. -/
theorem clear_emptied (given : Tokens → Value D) (n : Nat) (hn : b.WellNamed)
    (hfactory : b.builderFactory = false) (h : b.Sound fs) :
    ∃ gs, Leaves (runFunction (b.context given .builder (b.link given (n + 1))) b.clearFunction
      (builderOf fs) []) gs ∧ b.Sound gs ∧
        ∀ m ∈ b.members, gs.get? m.name = (fs.get? m.name).map m.emptiedValue := by
  let k : Context D := b.context given .builder (b.link given (n + 1))
  obtain ⟨gs, hrun, hgs, hall⟩ := executeAll_partialClear_members hn (Place.ofReceiver k []) h
  refine ⟨gs, ?_, hgs, hall⟩
  rw [clearFunction, if_neg (by simp [hfactory])]
  exact runFunction_changer rfl hrun

theorem clear_sound {given : Tokens → Value D} (hn : b.WellNamed)
    (hdefaults : b.DefaultsFit given) (n : Nat) (h : b.Sound fs) :
    ∃ gs, Leaves (runFunction (b.context given .builder (b.link given (n + 1))) b.clearFunction
      (builderOf fs) []) gs ∧ b.Sound gs := by
  by_cases hfactory : b.builderFactory = true
  · obtain ⟨gs, hrun, hgs⟩ := clear_fresh hn.distinctFields hdefaults n hfactory h.toLaid
    exact ⟨gs, hrun, hgs.toSound⟩
  · obtain ⟨gs, hrun, hgs, -⟩ := clear_emptied given n hn (by simpa using hfactory) h
    exact ⟨gs, hrun, hgs⟩

end Clearing

end Blueprint

end TraitBuilder
