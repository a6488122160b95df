import TraitBuilder.Proofs.Meaning.Calls

/-!
# Rules of execution

What the statements that generated methods consist of do to the receiver: one rule for each form of
statement, and one for the functions that hand back their receiver.

* `execute_assign_own`, `execute_change_own`: a field of the receiver changes.
* `execute_callOwn`: the receiver is what a method of it leaves behind.
* `runFunction_changer`: a method that changes its receiver hands it back.
-/

namespace TraitBuilder

open Code Meaning

namespace Meaning

variable {D : Type} {k : Context D} {env : Env D} {kind : Kind} {fs : Fields D}

/-! ## Terms -/

theorem evaluate_field {t : Term} {x : Ident} {v : Value D}
    (ht : evaluate k env t = .ok (.record kind fs)) (hx : fs.get? x = some v) :
    evaluate k env (.field t x) = .ok v := by
  simp [evaluate, ht, Value.field_record hx]

/-- A method without arguments that does not change its receiver. -/
theorem evaluate_method {t : Term} {name : Ident} {v after : Value D}
    (ht : evaluate k env t = .ok (.record kind fs))
    (hcall : k.link.method false (.record kind fs) name [] = .ok (v, after)) :
    evaluate k env (.method t name []) = .ok v := by
  simp [evaluate, evaluateAll, ht, callMethod, hcall]

theorem evaluate_ownField {x : Ident} {v : Value D} (hself : env.self = .record kind fs)
    (hx : fs.get? x = some v) : evaluate k env (.ownField x) = .ok v := by
  exact evaluate_field (by rw [evaluate_self, hself]) hx

theorem evaluate_ownFieldRef {x : Ident} {v : Value D} (hself : env.self = .record kind fs)
    (hx : fs.get? x = some v) : evaluate k env (.ownFieldRef x) = .ok v := by
  simp [Term.ownFieldRef, evaluate, evaluate_ownField hself hx]

theorem evaluate_var {x : Ident} {v : Value D} (hx : x ≠ plain "self")
    (h : env.locals.get? x = some v) : evaluate k env (.var x) = .ok v := by
  rw [evaluate, Env.get_local hx h]

/-- A variable that is there has some value, even if it is named like the receiver. -/
theorem exists_evaluate_var {x : Ident} {v : Value D} (h : env.locals.get? x = some v) :
    ∃ w, evaluate k env (.var x) = .ok w ∧ (x ≠ plain "self" → w = v) := by
  by_cases hx : x = plain "self"
  · exact ⟨env.self, by rw [hx, evaluate, Env.get_self], fun hne => absurd hx hne⟩
  · exact ⟨v, evaluate_var hx h, fun _ => rfl⟩

theorem evaluate_keeps {f : Library} {t : Term} {v : Value D} (hf : keeps f = true)
    (ht : evaluate k env t = .ok v) : evaluate k env (.apply f [t]) = .ok v := by
  simp only [Term.apply, evaluate, evaluateAll, ht, Answer.ok_bind, Answer.pure_eq, call]
  cases f <;> first | rfl | cases hf

theorem evaluate_some {t : Term} {v : Value D} (ht : evaluate k env t = .ok v) :
    evaluate k env (.some t) = .ok (.present v) := by
  simp [Term.some, Term.apply, evaluate, evaluateAll, ht, call, callLibrary]

theorem evaluate_none : evaluate k env .none = .ok .absent := by
  simp [Term.none, evaluate]

theorem evaluate_setterConversion {ty : Ty} {t : Term} {v : Value D}
    (ht : evaluate k env t = .ok v) : evaluate k env (setterConversion ty t) = .ok v := by
  unfold setterConversion
  split
  · exact ht
  · exact evaluate_keeps rfl ht

theorem evaluate_toOwned (p : Property) {t : Term} {v : Value D}
    (ht : evaluate k env t = .ok v) : evaluate k env (p.toOwned t) = .ok v := by
  unfold Property.toOwned
  split
  · exact evaluate_keeps rfl ht
  · exact ht
  · exact ht
  · simp [Term.apply, evaluate, evaluateAll, ht, call, callLibrary, keeps]

theorem evaluate_read (p : Property) {t : Term} {v : Value D}
    (ht : evaluate k env t = .ok v) : evaluate k env (p.read t) = .ok v := by
  have hcopy : evaluate k env (if p.kind.isPrimitive then .deref t else .clone t) = .ok v := by
    split
    · rw [evaluate, ht]
    · exact evaluate_keeps rfl ht
  unfold Property.read
  split
  · exact ht
  · exact hcopy
  · exact hcopy
  · exact evaluate_keeps rfl ht
  · exact evaluate_keeps rfl ht

theorem perform_read_ownField {p : Property} {x : Ident} {v : Value D}
    (hself : env.self = .record kind fs) (hx : fs.get? x = some v) :
    perform k env (p.read (.ownFieldRef x)) = .ok (v, env) := by
  have hv : evaluate k env (p.read (.ownFieldRef x)) = .ok v :=
    evaluate_read p (evaluate_ownFieldRef hself hx)
  have hpure : perform k env (p.read (.ownFieldRef x)) =
      (do return (← evaluate k env (p.read (.ownFieldRef x)), env)) := by
    unfold Property.read
    split
    · rfl
    · split <;> rfl
    · split <;> rfl
    · rfl
    · rfl
  rw [hpure, hv]
  rfl

theorem evaluate_clonedElements {t : Term} {ws : List (Value D)}
    (h : evaluate k env t = .ok (.list ws)) :
    evaluate k env (Member.clonedElements t) = .ok (.list ws) := by
  refine evaluate_keeps rfl ?_
  simp [evaluate, evaluateAll, h, callMethod, readBuiltin, plain]

theorem evaluate_call_associated {owner name : Ident} {arguments : List Term} {comma : Bool}
    {vs : List (Value D)} (h : evaluateAll k env arguments = .ok vs) :
    evaluate k env (.call (.associated owner name) arguments comma) =
      k.link.associated owner name vs := by
  simp [evaluate, h, call]

theorem perform_call_associated {owner name : Ident} {arguments : List Term} {comma : Bool}
    {v : Value D}
    (h : evaluate k env (.call (.associated owner name) arguments comma) = .ok v) :
    perform k env (.call (.associated owner name) arguments comma) = .ok (v, env) := by
  simp [perform, h]

/-! ## Changes of a field of the receiver -/

theorem assign_ownField {x : Ident} (hself : env.self = .record kind fs)
    (hx : fs.get? x ≠ none) (v : Value D) :
    assign k env (.ownField x) v = .ok { env with self := .record kind (fs.set x v) } := by
  simp [Term.ownField, assign, evaluate_self, hself, Value.setField_record hx, assign_self]

theorem execute_assign_own {x : Ident} {t : Term} {v : Value D}
    (hself : env.self = .record kind fs) (hx : fs.get? x ≠ none)
    (ht : evaluate k env t = .ok v) :
    execute k (.assign (.ownField x) t) env =
      .ok { env with self := .record kind (fs.set x v) } := by
  simp [execute, ht, assign_ownField hself hx]

/-- The field takes what a method of the libraries makes of it. -/
theorem execute_change_own {x name : Ident} {arguments : List Term} {vs : List (Value D)}
    {w w' r : Value D} (hself : env.self = .record kind fs) (hx : fs.get? x = some w)
    (harguments : evaluateAll k env arguments = .ok vs)
    (hcall : callMethod k.link true w name vs = .ok (r, w')) :
    execute k (.run (.method (.ownField x) name arguments)) env =
      .ok { env with self := .record kind (fs.set x w') } := by
  have hne : fs.get? x ≠ none := by simp [hx]
  have hperform : perform k env (.method (.ownField x) name arguments) =
      .ok (r, { env with self := .record kind (fs.set x w') }) := by
    simp [perform, harguments, evaluate_ownField hself hx, hcall, assign_ownField hself hne]
  exact execute_run k hperform

theorem execute_emptied_own {x : Ident} {vs : List (Value D)}
    (hself : env.self = .record kind fs) (hx : fs.get? x = some (.list vs)) :
    execute k (Member.emptied (.ownField x)) env =
      .ok { env with self := .record kind (fs.set x (.list [])) } :=
  execute_change_own hself hx rfl rfl

theorem execute_push_own {x : Ident} {t : Term} {vs : List (Value D)} {v : Value D}
    (hself : env.self = .record kind fs) (hx : fs.get? x = some (.list vs))
    (ht : evaluate k env t = .ok v) :
    execute k (.run (.method (.ownField x) (plain "push") [t])) env =
      .ok { env with self := .record kind (fs.set x (.list (vs ++ [v]))) } := by
  have harguments : evaluateAll k env [t] = .ok [v] := by simp [evaluateAll, ht]
  exact execute_change_own hself hx harguments rfl

theorem execute_remove_own {x owner variant : Ident} {xs : List Ident}
    (hself : env.self = .record kind fs) (hx : fs.get? x = some (.set xs)) :
    execute k (.run (.method (.ownField x) (plain "remove")
        [.borrow false (.constant owner variant)])) env =
      .ok { env with self := .record kind (fs.set x (.set (xs.filter (· ≠ variant)))) } := by
  have harguments : evaluateAll k env [.borrow false (.constant owner variant)] =
      .ok [.variant variant] := by
    simp [evaluateAll, evaluate]
  exact execute_change_own hself hx harguments rfl

/-- The receiver becomes what a method of it leaves behind. -/
theorem execute_callOwn {name : Ident} {t : Term} {v r self' : Value D}
    (hself : env.self = .record kind fs) (ht : evaluate k env t = .ok v)
    (hcall : k.link.method true (.record kind fs) name [v] = .ok (r, self')) :
    execute k (Member.callOwn name t) env = .ok { env with self := self' } := by
  have hperform : perform k env (.ownMethod name [t]) = .ok (r, { env with self := self' }) := by
    simp [Term.ownMethod, perform, evaluateAll, ht, evaluate_self, hself, callMethod, hcall,
      assign_self]
  exact execute_run k hperform

/-! ## Statements one after the other -/

theorem executeAll_single {s : Statement} {env' : Env D} (h : execute k s env = .ok env') :
    executeAll k [s] env = .ok env' := by
  rw [executeAll, h, Answer.ok_bind, executeAll]

theorem execute_when_false {condition : Term} {body : List Statement}
    (h : evaluate k env condition = .ok (.truth false)) :
    execute k (.when condition body) env = .ok env := by
  simp [execute, h]

theorem execute_when_true {condition : Term} {s : Statement} {self' : Value D}
    (h : evaluate k env condition = .ok (.truth true))
    (hs : execute k s env = .ok { env with self := self' }) :
    execute k (.when condition [s]) env = .ok { env with self := self' } := by
  simp [execute, h, executeAll, hs, Env.leaveBlock]

theorem execute_whenSome {x : Ident} {value : Term} {body : List Statement} {v : Value D}
    {env' : Env D} (h : evaluate k env value = .ok (.present v))
    (hbody : executeAll k body (env.bind x v) = .ok (env'.bind x v))
    (hlength : env'.locals.length = env.locals.length) :
    execute k (.whenSome x value body) env = .ok env' := by
  rw [execute, h, Answer.ok_bind]
  simp only [hbody, Answer.ok_bind, Answer.pure_eq]
  simp [Env.leaveBlock, Env.bind, hlength]

theorem execute_whenSome_absent {x : Ident} {value : Term} {body : List Statement}
    (h : evaluate k env value = .ok .absent) :
    execute k (.whenSome x value body) env = .ok env := by
  simp [execute, h]

/-! ## Records -/

theorem evaluateRecord_append (as bs : Record) :
    evaluateRecord k env (as ++ bs) = do
      let xs ← evaluateRecord k env as
      return xs ++ (← evaluateRecord k env bs) := by
  simp [evaluateRecord]

theorem evaluateRecord_map {α : Type} (name : α → Ident) (term : α → Term)
    {P : α → Value D → Prop} {xs : List α}
    (h : ∀ x ∈ xs, ∃ v, evaluate k env (term x) = .ok v ∧ P x v) :
    ∃ fields : Fields D, evaluateRecord k env (xs.map fun x => (name x, term x)) = .ok fields ∧
      fields.map (·.1) = xs.map name ∧ ∀ x ∈ xs, ∃ v, (name x, v) ∈ fields ∧ P x v := by
  rw [evaluateRecord, List.mapM_map]
  exact Fields.exists_mapM name h

/-! ## Functions -/

/-- A function whose statements and outcome are evaluated in turn. -/
theorem runFunction_of_finish {f : Function} {receiver receiver' v : Value D}
    {arguments : List (Value D)} {after : Env D} {locals : Fields D}
    (hlength : f.parameters.length = arguments.length)
    (hstatements : executeAll k f.body.statements
      ⟨receiver, (f.parameters.map (·.1)).zip arguments⟩ = .ok after)
    (hfinish : finish k after f.body.outcome = .ok (v, ⟨receiver', locals⟩)) :
    runFunction k f receiver arguments = .ok (v, receiver') := by
  simp [runFunction, hlength, hstatements, hfinish]

/-- A function that returns early does not change its receiver. -/
theorem runFunction_of_returned {f : Function} {receiver v : Value D} {arguments : List (Value D)}
    (hlength : f.parameters.length = arguments.length) (hreceiver : f.receiver ≠ .mutable)
    (h : executeAll k f.body.statements
      ⟨receiver, (f.parameters.map (·.1)).zip arguments⟩ = .error (.returned v)) :
    runFunction k f receiver arguments = .ok (v, receiver) := by
  simp [runFunction, hlength, hreceiver, h]

/-- A method that changes its receiver hands back the receiver that its statements leave. -/
theorem runFunction_changer {b : Blueprint} {decorations : List Decoration} {name : Ident}
    {parameters : List (Ident × TypeExpr)} {comma : Bool} {statements : List Statement}
    {receiver self' : Value D} {arguments : List (Value D)} {locals : Fields D}
    (hlength : parameters.length = arguments.length)
    (h : executeAll k statements ⟨receiver, (parameters.map (·.1)).zip arguments⟩ =
      .ok ⟨self', locals⟩) :
    runFunction k (Member.changer b decorations name parameters comma statements) receiver
      arguments = .ok (self', self') := by
  have hself : finish k ⟨self', locals⟩ (.term .self) = .ok (self', ⟨self', locals⟩) := by
    simp [finish, perform, Term.self, evaluate]
  exact runFunction_of_finish hlength h hself

end Meaning

end TraitBuilder
