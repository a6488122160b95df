import TraitBuilder.Proofs.Builder.State
import TraitBuilder.Proofs.Meaning.Intake

/-!
# Accessors of a builder

What the methods of single members do to the state of a builder.  Every one of them returns if its
arguments fit, hands back the builder, and keeps the state as it should be: only the setter of a
required member touches the set of the unset properties, and it takes out the variant of the member
that it sets.

* `run_setter_required`, `run_setter_default`, …: the state that each method leaves behind.
* `accessor_sound`: the methods of single members keep the state as it should be.
* `call_setter_updates`, `call_nullableSetter_updates`: setters touch no other member.
-/

namespace TraitBuilder

open Code Meaning

variable {D : Type}

/-- The instance of the builder with the given fields. -/
abbrev builderOf (fs : Fields D) : Value D := .record .builder fs

/-- A method returned, handing back the builder in the given state. -/
abbrev Leaves (answer : Answer D (Value D × Value D)) (fs : Fields D) : Prop :=
  answer = .ok (builderOf fs, builderOf fs)

/-! ## Single methods -/

namespace Member

/-- What the field of the member holds after its setter: only what cannot be missing in the builder
is there without the option. -/
def setTo (m : Member) (v : Value D) : Value D :=
  match m.role with
  | .single (some _) | .list _ _ => v
  | _ => .present v

variable {k : Context D} {b : Blueprint} {m : Member} {fs : Fields D} {v : Value D}

/-- What a setter stores.  It is the argument, unless that is named like the receiver, as no
parameter of a program is. -/
theorem exists_stored (k : Context D) (m : Member) (receiver v : Value D) :
    ∃ w, (m.name ≠ plain "self" → w = v) ∧ evaluate k ⟨receiver, [(m.name, v)]⟩
      (setterConversion m.property.ty (.var m.name)) = .ok w := by
  obtain ⟨w, hw, heq⟩ := exists_evaluate_var
    (show (Env.mk receiver [(m.name, v)]).locals.get? m.name = some v by simp)
  exact ⟨w, heq, evaluate_setterConversion hw⟩

theorem run_setter_required (hrole : m.role = .single none) (hm : fs.get? m.name ≠ none)
    {xs : List Ident} (hset : fs.get? unsetField = some (.set xs))
    (hne : m.name.name ≠ unsetField.name) :
    ∃ w, (m.name ≠ plain "self" → w = v) ∧
      Leaves (runFunction k (m.setterMethod b) (builderOf fs) [v])
        ((fs.set m.name (.present w)).set unsetField
          (.set (xs.filter (· ≠ m.property.variant)))) := by
  obtain ⟨w, heq, hw⟩ := exists_stored k m (builderOf fs) v
  have hset' : (fs.set m.name (.present w)).get? unsetField = some (.set xs) := by
    rw [Fields.get?_set_of_ne hne.symm, hset]
  have hrun : executeAll k (m.setterStatements b) ⟨builderOf fs, [(m.name, v)]⟩ =
      .ok ⟨builderOf ((fs.set m.name (.present w)).set unsetField
        (.set (xs.filter (· ≠ m.property.variant)))), [(m.name, v)]⟩ := by
    simp only [setterStatements, hrole, executeAll]
    rw [execute_assign_own rfl hm (evaluate_some hw), Answer.ok_bind, ownUnset, Blueprint.variant,
      execute_remove_own rfl hset', Answer.ok_bind]
  exact ⟨w, heq, runFunction_changer rfl hrun⟩

theorem run_setter_default {e : Expr} (hrole : m.role = .single (some e))
    (hm : fs.get? m.name ≠ none) :
    ∃ w, (m.name ≠ plain "self" → w = v) ∧
      Leaves (runFunction k (m.setterMethod b) (builderOf fs) [v]) (fs.set m.name w) := by
  obtain ⟨w, heq, hw⟩ := exists_stored k m (builderOf fs) v
  have hrun : executeAll k (m.setterStatements b) ⟨builderOf fs, [(m.name, v)]⟩ =
      .ok ⟨builderOf (fs.set m.name w), [(m.name, v)]⟩ := by
    simp only [setterStatements, hrole, executeAll]
    rw [execute_assign_own rfl hm hw, Answer.ok_bind]
  exact ⟨w, heq, runFunction_changer rfl hrun⟩

theorem run_setter_optional {e : Option Expr} (hrole : m.role = .optional e)
    (hm : fs.get? m.name ≠ none) :
    ∃ w, (m.name ≠ plain "self" → w = v) ∧
      Leaves (runFunction k (m.setterMethod b) (builderOf fs) [v])
        (fs.set m.name (.present w)) := by
  obtain ⟨w, heq, hw⟩ := exists_stored k m (builderOf fs) v
  have hrun : executeAll k (m.setterStatements b) ⟨builderOf fs, [(m.name, v)]⟩ =
      .ok ⟨builderOf (fs.set m.name (.present w)), [(m.name, v)]⟩ := by
    simp only [setterStatements, hrole, executeAll]
    rw [execute_assign_own rfl hm (evaluate_some hw), Answer.ok_bind]
  exact ⟨w, heq, runFunction_changer rfl hrun⟩

section Changers

variable {decorations : List Decoration} {name : Ident} {ty : TypeExpr} {comma : Bool}

theorem run_assign_parameter (hm : fs.get? m.name ≠ none) :
    ∃ w, (m.name ≠ plain "self" → w = v) ∧
      Leaves (runFunction k (changer b decorations name [(m.name, ty)] comma
        [.assign (.ownField m.name) (.var m.name)]) (builderOf fs) [v]) (fs.set m.name w) := by
  obtain ⟨w, hw, heq⟩ := exists_evaluate_var
    (show (Env.mk (builderOf fs) [(m.name, v)]).locals.get? m.name = some v by simp)
  have hrun : executeAll k [.assign (.ownField m.name) (.var m.name)]
      ⟨builderOf fs, [(m.name, v)]⟩ = .ok ⟨builderOf (fs.set m.name w), [(m.name, v)]⟩ :=
    executeAll_single (execute_assign_own rfl hm hw)
  exact ⟨w, heq, runFunction_changer rfl hrun⟩

theorem run_assign_none (hm : fs.get? m.name ≠ none) :
    Leaves (runFunction k (changer b decorations name [] comma
      [.assign (.ownField m.name) .none]) (builderOf fs) []) (fs.set m.name .absent) := by
  have hrun : executeAll k [.assign (.ownField m.name) .none] ⟨builderOf fs, []⟩ =
      .ok ⟨builderOf (fs.set m.name .absent), []⟩ :=
    executeAll_single (execute_assign_own rfl hm evaluate_none)
  exact runFunction_changer rfl hrun

theorem run_emptied {vs : List (Value D)} (hm : fs.get? m.name = some (.list vs)) :
    Leaves (runFunction k (changer b decorations name [] comma [emptied (.ownField m.name)])
      (builderOf fs) []) (fs.set m.name (.list [])) := by
  have hrun : executeAll k [emptied (.ownField m.name)] ⟨builderOf fs, []⟩ =
      .ok ⟨builderOf (fs.set m.name (.list [])), []⟩ :=
    executeAll_single (execute_emptied_own rfl hm)
  exact runFunction_changer rfl hrun

theorem run_push {element : Ty} {vs : List (Value D)} (hm : fs.get? m.name = some (.list vs)) :
    Leaves (runFunction k (changer b decorations name [(elementVar, ty)] comma
        [.run (.method (.ownField m.name) (plain "push")
          [setterConversion element (.var elementVar)])]) (builderOf fs) [v])
      (fs.set m.name (.list (vs ++ [v]))) := by
  have hv : evaluate k ⟨builderOf fs, [(elementVar, v)]⟩
      (setterConversion element (.var elementVar)) = .ok v :=
    evaluate_setterConversion (evaluate_var (by decide) (by simp))
  have hrun : executeAll k [.run (.method (.ownField m.name) (plain "push")
      [setterConversion element (.var elementVar)])] ⟨builderOf fs, [(elementVar, v)]⟩ =
      .ok ⟨builderOf (fs.set m.name (.list (vs ++ [v]))), [(elementVar, v)]⟩ :=
    executeAll_single (execute_push_own rfl hm hv)
  exact runFunction_changer rfl hrun

section Taking

variable {u : Intake D} {vs ws : List (Value D)}

/-- The method adds the elements that the intake finds in its argument. -/
theorem run_extend_taken (hm : fs.get? m.name = some (.list vs)) (hws : u.items v = some ws) :
    Leaves (u.runFunction k (changer b decorations name [(elementsVar, ty)] comma
        [.run (.apply .extend [.borrow true (.ownField m.name), .var elementsVar])])
        (builderOf fs) [v])
      (fs.set m.name (.list (vs ++ ws))) := by
  have hv : u.evaluate k ⟨builderOf fs, [(elementsVar, v)]⟩ (.var elementsVar) = .ok v :=
    Intake.evaluate_var (by decide) (by simp)
  have hrun : u.executeAll k
      [.run (.apply .extend [.borrow true (.ownField m.name), .var elementsVar])]
      ⟨builderOf fs, [(elementsVar, v)]⟩ =
      .ok ⟨builderOf (fs.set m.name (.list (vs ++ ws))), [(elementsVar, v)]⟩ :=
    Intake.executeAll_single (Intake.execute_extend_own rfl hm hv hws)
  exact Intake.runFunction_changer rfl hrun

/-- The method empties the list and then calls the method that adds elements. -/
theorem run_replace_taken {gs : Fields D} (hm : fs.get? m.name = some (.list vs))
    (hcall : Leaves (k.link.method true (builderOf (fs.set m.name (.list [])))
      m.property.bulkAdder [v]) gs) :
    Leaves (u.runFunction k (changer b decorations name [(elementsVar, ty)] comma
        [emptied (.ownField m.name)] (.ownMethod m.property.bulkAdder [.var elementsVar]))
        (builderOf fs) [v]) gs := by
  have hemptied : u.executeAll k [emptied (.ownField m.name)]
      ⟨builderOf fs, [(elementsVar, v)]⟩ =
      .ok ⟨builderOf (fs.set m.name (.list [])), [(elementsVar, v)]⟩ :=
    Intake.executeAll_single (Intake.execute_emptied_own rfl hm)
  have hv : u.evaluate k ⟨builderOf (fs.set m.name (.list [])), [(elementsVar, v)]⟩
      (.var elementsVar) = .ok v :=
    Intake.evaluate_var (by decide) (by simp)
  exact Intake.runFunction_changer_result rfl hemptied (Intake.perform_ownMethod rfl hv hcall)

end Taking

theorem run_extend {vs ws : List (Value D)} (hm : fs.get? m.name = some (.list vs)) :
    Leaves (runFunction k (changer b decorations name [(elementsVar, ty)] comma
        [.run (.apply .extend [.borrow true (.ownField m.name), .var elementsVar])])
        (builderOf fs) [.list ws])
      (fs.set m.name (.list (vs ++ ws))) :=
  Intake.runFunction_keeping (run_extend_taken hm rfl)

theorem run_replace {vs ws : List (Value D)} {gs : Fields D}
    (hm : fs.get? m.name = some (.list vs))
    (hcall : Leaves (k.link.method true (builderOf (fs.set m.name (.list [])))
      m.property.bulkAdder [.list ws]) gs) :
    Leaves (runFunction k (changer b decorations name [(elementsVar, ty)] comma
        [emptied (.ownField m.name)] (.ownMethod m.property.bulkAdder [.var elementsVar]))
        (builderOf fs) [.list ws]) gs :=
  Intake.runFunction_keeping (run_replace_taken hm hcall)

end Changers

end Member

/-! ## All methods of a member -/

namespace Blueprint

/-- The value has the form that the type of a parameter asks for, as far as the generated code
depends on it; `implements` says which values implement the user's trait. -/
def Fits (implements : Value D → Prop) (ty : TypeExpr) (v : Value D) : Prop :=
  match ty with
  | .anyIterable _ => v.IsList
  | .reference _ (.name _) => ∃ fs, v = builderOf fs
  | .reference _ (.anyUnsized _) => implements v
  | _ => True

theorem accessor_mem_builderFunctions {b : Blueprint} {m : Member} (hm : m ∈ b.members)
    {f : Function} (hf : f ∈ m.accessors b) : f ∈ b.builderFunctions := by
  have hmem : f ∈ b.accessorFunctions := List.mem_flatMap.mpr ⟨m, hm, hf⟩
  simp [builderFunctions, hmem]

section Sound

variable {b : Blueprint} {m : Member} {fs : Fields D} {f : Function} {implements : Value D → Prop}
  {arguments : List (Value D)} (given : Tokens → Value D) (n : Nat)

theorem Laid.isList (h : b.Laid fs) (hm : m ∈ b.members) {element : Ty} {e : Option Expr}
    (hrole : m.role = .list element e) : ∃ vs, fs.get? m.name = some (.list vs) := by
  obtain ⟨v, hv, hholds⟩ := h.members m hm
  rw [Member.Holds, hrole] at hholds
  obtain ⟨vs, rfl⟩ := hholds
  exact ⟨vs, hv⟩

/-- The setter of a single value or of an option stores its argument and touches no other member. -/
theorem setter_updates {k : Context D} (hn : b.WellNamed) (hm : m ∈ b.members)
    (hlist : ∀ element e, m.role ≠ .list element e) (h : b.Sound fs) (v : Value D) :
    ∃ w gs, (m.name ≠ plain "self" → w = v) ∧
      Leaves (runFunction k (m.setterMethod b) (builderOf fs) [v]) gs ∧ b.Sound gs ∧
        b.Updates m (m.setTo w) fs gs := by
  have hthere := h.get?_ne_none hm
  have hset := fun w : Value D => Updates.set_field h.toLaid hm w
  unfold Member.setTo
  cases hrole : m.role with
  | single default =>
    cases default with
    | none =>
      have hreq : m ∈ b.required := mem_required.mpr ⟨hm, Member.isRequired_iff.mpr hrole⟩
      have hhas := hasRequired_of_mem hreq
      obtain ⟨w, heq, hrun⟩ := m.run_setter_required hrole hthere (h.tracked hhas)
        (hn.distinctFields.name_ne_unsetField hhas hm)
      exact ⟨w, _, heq, hrun, h.set_required hn hreq w,
        (hset _).set_unset hn.distinctFields hhas hm _⟩
    | some e =>
      obtain ⟨w, heq, hrun⟩ := m.run_setter_default hrole hthere
      exact ⟨w, _, heq, hrun, h.set_default hn hm hrole w, hset w⟩
  | optional default =>
    obtain ⟨w, heq, hrun⟩ := m.run_setter_optional hrole hthere
    exact ⟨w, _, heq, hrun, h.set_optional hn hm hrole _, hset _⟩
  | list element default => exact absurd hrole (hlist element default)

theorem setter_sound {k : Context D} (hn : b.WellNamed) (hm : m ∈ b.members)
    (hlist : ∀ element e, m.role ≠ .list element e) (h : b.Sound fs) (v : Value D) :
    ∃ gs, Leaves (runFunction k (m.setterMethod b) (builderOf fs) [v]) gs ∧ b.Sound gs := by
  obtain ⟨-, gs, -, hrun, hgs, -⟩ := setter_updates (k := k) hn hm hlist h v
  exact ⟨gs, hrun, hgs⟩

theorem optional_accessor_sound {k : Context D} (hn : b.WellNamed) (hm : m ∈ b.members)
    {e : Option Expr} (hrole : m.role = .optional e) (hf : f ∈ m.optionalAccessors b)
    (hmut : f.receiver = .mutable) (h : b.Sound fs)
    (hargs : List.Forall₂ (Fits implements) (f.parameters.map (·.2)) arguments) :
    ∃ gs, Leaves (runFunction k f (builderOf fs) arguments) gs ∧ b.Sound gs := by
  have hthere := h.get?_ne_none hm
  have hset : ∀ v : Value D, b.Sound (fs.set m.name v) := h.set_optional hn hm hrole
  simp only [Member.optionalAccessors, List.mem_cons, List.not_mem_nil, or_false] at hf
  rcases hf with rfl | rfl | rfl | rfl
  · cases hargs with
    | cons hv hnil =>
      cases hnil
      exact setter_sound hn hm (by simp [hrole]) h _
  · cases hargs with
    | cons hv hnil =>
      cases hnil
      obtain ⟨w, -, hrun⟩ := m.run_assign_parameter hthere
      exact ⟨_, hrun, hset w⟩
  · cases hargs
    exact ⟨_, m.run_assign_none hthere, hset _⟩
  · cases hmut

theorem call_bulkAdder (hn : b.WellNamed) (hm : m ∈ b.members) {element : Ty} {e : Option Expr}
    (hrole : m.role = .list element e) {vs : List (Value D)}
    (hvs : fs.get? m.name = some (.list vs)) (ws : List (Value D)) :
    Leaves ((b.link given (n + 1)).method true (builderOf fs) m.property.bulkAdder [.list ws])
      (fs.set m.name (.list (vs ++ ws))) := by
  obtain ⟨f, hf, hname, hmut, hrun⟩ : ∃ f ∈ m.listAccessors b element,
      f.name = m.property.bulkAdder ∧ f.receiver = .mutable ∧ ∀ k : Context D,
        Leaves (runFunction k f (builderOf fs) [.list ws]) (fs.set m.name (.list (vs ++ ws))) :=
    ⟨_, List.mem_cons_of_mem _ List.mem_cons_self, rfl, rfl, fun _ => m.run_extend hvs⟩
  have hmem : f ∈ b.builderFunctions :=
    accessor_mem_builderFunctions hm (by rw [Member.accessors, hrole]; exact hf)
  rw [Leaves, ← hname, method_builder hn hmem (Or.inr ⟨hmut, rfl⟩)]
  exact hrun _

theorem list_accessor_sound (hn : b.WellNamed) (hm : m ∈ b.members) {element : Ty}
    {e : Option Expr} (hrole : m.role = .list element e) (hf : f ∈ m.listAccessors b element)
    (hmut : f.receiver = .mutable) (h : b.Sound fs)
    (hargs : List.Forall₂ (Fits implements) (f.parameters.map (·.2)) arguments) :
    ∃ gs, Leaves (runFunction (b.context given .builder (b.link given (n + 1))) f
      (builderOf fs) arguments) gs ∧ b.Sound gs := by
  obtain ⟨vs, hvs⟩ := h.isList hm hrole
  have hset : ∀ ws : List (Value D), b.Sound (fs.set m.name (.list ws)) := h.set_list hn hm hrole
  simp only [Member.listAccessors, List.mem_cons, List.not_mem_nil, or_false] at hf
  rcases hf with rfl | rfl | rfl | rfl | rfl
  · cases hargs with
    | cons hv hnil =>
      cases hnil
      exact ⟨_, m.run_push hvs, hset _⟩
  · cases hargs with
    | cons hv hnil =>
      cases hnil
      obtain ⟨ws, rfl⟩ := hv
      exact ⟨_, m.run_extend hvs, hset _⟩
  · cases hargs with
    | cons hv hnil =>
      cases hnil
      obtain ⟨ws, rfl⟩ := hv
      have hempty := Fields.get?_set_self (h.get?_ne_none hm) (.list ([] : List (Value D)))
      exact ⟨_, m.run_replace hvs (call_bulkAdder given n hn hm hrole hempty ws),
        (hset []).set_list hn hm hrole _⟩
  · cases hargs
    exact ⟨_, m.run_emptied hvs, hset _⟩
  · cases hmut

/-- A method of a single member that may change the builder returns if its arguments fit, and keeps
the state as it should be. -/
theorem accessor_sound (hn : b.WellNamed) (hm : m ∈ b.members) (hf : f ∈ m.accessors b)
    (hmut : f.receiver = .mutable) (h : b.Sound fs)
    (hargs : List.Forall₂ (Fits implements) (f.parameters.map (·.2)) arguments) :
    ∃ gs, Leaves (runFunction (b.context given .builder (b.link given (n + 1))) f
      (builderOf fs) arguments) gs ∧ b.Sound gs := by
  unfold Member.accessors at hf
  cases hrole : m.role with
  | single default =>
    simp only [hrole, Member.singleAccessors, List.mem_cons, List.not_mem_nil, or_false] at hf
    rcases hf with rfl | rfl
    · cases hargs with
      | cons hv hnil =>
        cases hnil
        exact setter_sound hn hm (by simp [hrole]) h _
    · split at hmut <;> cases hmut
  | optional default =>
    rw [hrole] at hf
    exact optional_accessor_sound hn hm hrole hf hmut h hargs
  | list element default =>
    rw [hrole] at hf
    exact list_accessor_sound given n hn hm hrole hf hmut h hargs

theorem call_setter_updates (hn : b.WellNamed) (hm : m ∈ b.members)
    (hlist : ∀ element e, m.role ≠ .list element e) (h : b.Sound fs) (v : Value D) :
    ∃ w gs, (m.name ≠ plain "self" → w = v) ∧
      Leaves ((b.link given (n + 1)).method true (builderOf fs) m.property.setter [v]) gs ∧
        b.Sound gs ∧ b.Updates m (m.setTo w) fs gs := by
  have hmem : m.setterMethod b ∈ m.accessors b := by
    unfold Member.accessors
    cases hrole : m.role with
    | single => exact List.mem_cons_self
    | optional => exact List.mem_cons_self
    | list element default => exact absurd hrole (hlist element default)
  let k : Context D := b.context given .builder (b.link given n)
  obtain ⟨w, gs, heq, hrun, hgs, hupdates⟩ := setter_updates (k := k) hn hm hlist h v
  refine ⟨w, gs, heq, ?_, hgs, hupdates⟩
  rw [Leaves, show m.property.setter = (m.setterMethod b).name from rfl,
    method_builder hn (accessor_mem_builderFunctions hm hmem) (Or.inr ⟨rfl, rfl⟩)]
  exact hrun

theorem call_nullableSetter_updates (hn : b.WellNamed) (hm : m ∈ b.members) {e : Option Expr}
    (hrole : m.role = .optional e) (h : b.Sound fs) (v : Value D) :
    ∃ w gs, (m.name ≠ plain "self" → w = v) ∧
      Leaves ((b.link given (n + 1)).method true (builderOf fs) m.property.nullableSetter [v])
        gs ∧ b.Sound gs ∧ b.Updates m w fs gs := by
  obtain ⟨f, hf, hname, hmut, hrun⟩ : ∃ f ∈ m.optionalAccessors b,
      f.name = m.property.nullableSetter ∧ f.receiver = .mutable ∧ ∀ k : Context D,
        ∃ w, (m.name ≠ plain "self" → w = v) ∧
          Leaves (runFunction k f (builderOf fs) [v]) (fs.set m.name w) :=
    ⟨_, List.mem_cons_of_mem _ List.mem_cons_self, rfl, rfl,
      fun _ => m.run_assign_parameter (h.get?_ne_none hm)⟩
  have hmem : f ∈ b.builderFunctions :=
    accessor_mem_builderFunctions hm (by rw [Member.accessors, hrole]; exact hf)
  obtain ⟨w, heq, hw⟩ := hrun (b.context given .builder (b.link given n))
  refine ⟨w, fs.set m.name w, heq, ?_, h.set_optional hn hm hrole w,
    Updates.set_field h.toLaid hm w⟩
  rw [Leaves, ← hname, method_builder hn hmem (Or.inr ⟨hmut, rfl⟩)]
  exact hw

theorem call_listSetter_updates (hn : b.WellNamed) (hm : m ∈ b.members) {element : Ty}
    {e : Option Expr} (hrole : m.role = .list element e) (h : b.Sound fs) (ws : List (Value D)) :
    ∃ gs, Leaves ((b.link given (n + 2)).method true (builderOf fs) m.property.setter [.list ws])
      gs ∧ b.Sound gs ∧ b.Updates m (.list ws) fs gs := by
  obtain ⟨vs, hvs⟩ := h.isList hm hrole
  have hempty := Fields.get?_set_self (h.get?_ne_none hm) (.list ([] : List (Value D)))
  have hadded := call_bulkAdder given n hn hm hrole hempty ws
  have hsound := h.set_list hn hm hrole []
  obtain ⟨f, hf, hname, hmut, hrun⟩ : ∃ f ∈ m.listAccessors b element,
      f.name = m.property.setter ∧ f.receiver = .mutable ∧
        Leaves (runFunction (b.context given .builder (b.link given (n + 1))) f (builderOf fs)
          [.list ws]) ((fs.set m.name (.list [])).set m.name (.list ([] ++ ws))) :=
    ⟨_, List.mem_cons_of_mem _ (List.mem_cons_of_mem _ List.mem_cons_self), rfl, rfl,
      m.run_replace hvs hadded⟩
  have hmem : f ∈ b.builderFunctions :=
    accessor_mem_builderFunctions hm (by rw [Member.accessors, hrole]; exact hf)
  refine ⟨_, ?_, hsound.set_list hn hm hrole ([] ++ ws),
    (Updates.set_field h.toLaid hm _).trans (Updates.set_field hsound.toLaid hm _)⟩
  rw [Leaves, ← hname, method_builder hn hmem (Or.inr ⟨hmut, rfl⟩)]
  exact hrun

end Sound

end Blueprint

end TraitBuilder
