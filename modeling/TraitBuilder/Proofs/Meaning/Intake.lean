import TraitBuilder.Proofs.Meaning.Execution

/-!
# Taking values in

How a builder takes values in depends on what the libraries make of them: a value is converted into
the type that stores it, and whatever can be iterated over yields the elements of a list.  Here both
are arbitrary, so that a value which is converted once differs from one that is not, or is converted
twice.  Initial values and setters are read so: the terms, statements and outcomes that they consist
of have a meaning, and all others have none.

* `Intake.evaluate`, `Intake.runFunction`: the meaning of terms and functions with an intake.
* `Intake.evaluate_setterConversion`: what a setter makes of its argument.
* `Intake.runFunction_keeping`: if conversions keep values and lists yield their elements, this is
  what generated code means anyway.
-/

namespace TraitBuilder.Meaning

open Code

theorem Answer.exists_of_bind {D α β : Type} {x : Answer D α} {f : α → Answer D β} {b : β}
    (h : x >>= f = .ok b) : ∃ a, x = .ok a ∧ f a = .ok b := by
  cases x with
  | error e => cases h
  | ok a => exact ⟨a, rfl, h⟩

/-- What the libraries make of the values for a builder. -/
structure Intake (D : Type) where
  /-- The conversion into the type that stores the value. -/
  into : Value D → Value D
  /-- The elements, if the value can be iterated over. -/
  items : Value D → Option (List (Value D))

namespace Intake

variable {D : Type} (u : Intake D) (k : Context D)

/-- The elements of what is iterated over. -/
def iterate (v : Value D) : Answer D (List (Value D)) :=
  match u.items v with
  | some vs => .ok vs
  | none => .error .stuck

/-! ## Meaning -/

section Terms

variable (env : Env D)

/-- The value of a term.  A list is collected from the elements of what it is made from. -/
def evaluate : Term → Answer D (Value D)
  | .given ts => .ok (k.given ts)
  | .var x => env.get x
  | .library .none => .ok .absent
  | .field owner name => do (← evaluate owner).field name
  | .borrow _ t => evaluate t
  | .call (.library .into) [t] _ => do return u.into (← evaluate t)
  | .call (.library .some) [t] _ => do return .present (← evaluate t)
  | .call (.library .emptyList) [] _ => .ok (.list [])
  | .call (.collectList _) [t] _ => do return .list (← u.iterate (← evaluate t))
  | _ => .error .stuck

/-- The value of a term that may change the place that it is called on.  A list is extended by the
elements of what it is extended with. -/
def perform : Term → Answer D (Value D × Env D)
  | .var x => do return (← env.get x, env)
  | .method receiver name arguments => do
    let values ← arguments.mapM (u.evaluate k env)
    let owner ← u.evaluate k env receiver
    let (result, after) ← callMethod k.link true owner name values
    return (result, ← assign k env receiver after)
  | .call (.library .extend) [place, elements] _ => do
    match ← u.evaluate k env place, ← u.evaluate k env elements with
    | .list vs, v => do
      let ws ← u.iterate v
      return (.unit, ← assign k env place (.list (vs ++ ws)))
    | _, _ => .error .stuck
  | _ => .error .stuck

end Terms

/-- The environment after a statement. -/
def execute : Statement → Env D → Answer D (Env D)
  | .run t, env => do return (← u.perform k env t).2
  | .assign target value, env => do assign k env target (← u.evaluate k env value)
  | _, _ => .error .stuck

/-- The environment after statements one after the other. -/
def executeAll : List Statement → Env D → Answer D (Env D)
  | [], env => .ok env
  | s :: rest, env => do executeAll rest (← u.execute k s env)

/-- The result of a function and the receiver it leaves behind. -/
def runFunction (f : Function) (receiver : Value D) (arguments : List (Value D)) :
    Answer D (Value D × Value D) :=
  if f.parameters.length = arguments.length then do
    let env : Env D := ⟨receiver, (f.parameters.map (·.1)).zip arguments⟩
    match f.body.outcome with
    | .term t => do
      let (v, after) ← u.perform k (← u.executeAll k f.body.statements env) t
      return (v, after.self)
    | _ => .error .stuck
  else .error .stuck

/-! ## Rules -/

section Rules

variable {u k} {env : Env D} {kind : Kind} {fs : Fields D}

theorem evaluate_self : u.evaluate k env .self = .ok env.self := by
  simp [Term.self, evaluate]

theorem evaluate_var {x : Ident} {v : Value D} (hx : x ≠ plain "self")
    (h : env.locals.get? x = some v) : u.evaluate k env (.var x) = .ok v := by
  rw [evaluate, Env.get_local hx h]

theorem evaluate_some {t : Term} {v : Value D} (ht : u.evaluate k env t = .ok v) :
    u.evaluate k env (.some t) = .ok (.present v) := by
  simp [Term.some, Term.apply, evaluate, ht]

theorem evaluate_ownField {x : Ident} {v : Value D} (hself : env.self = .record kind fs)
    (hx : fs.get? x = some v) : u.evaluate k env (.ownField x) = .ok v := by
  simp [Term.ownField, evaluate, evaluate_self, hself, Value.field_record hx]

/-- The value as a setter stores it, by its type: primitive values are kept, anything else is
converted once. -/
def converted (u : Intake D) (ty : Ty) (v : Value D) : Value D :=
  if (TypeKind.of ty).isPrimitive then v else u.into v

theorem evaluate_setterConversion {ty : Ty} {t : Term} {v : Value D}
    (ht : u.evaluate k env t = .ok v) :
    u.evaluate k env (setterConversion ty t) = .ok (u.converted ty v) := by
  unfold setterConversion converted
  split
  · exact ht
  · simp [Term.apply, evaluate, ht]

theorem execute_assign_own {x : Ident} {t : Term} {v : Value D}
    (hself : env.self = .record kind fs) (hx : fs.get? x ≠ none)
    (ht : u.evaluate k env t = .ok v) :
    u.execute k (.assign (.ownField x) t) env =
      .ok { env with self := .record kind (fs.set x v) } := by
  simp [execute, ht, assign_ownField hself hx]

theorem execute_emptied_own {x : Ident} {vs : List (Value D)}
    (hself : env.self = .record kind fs) (hx : fs.get? x = some (.list vs)) :
    u.execute k (Member.emptied (.ownField x)) env =
      .ok { env with self := .record kind (fs.set x (.list [])) } := by
  have hne : fs.get? x ≠ none := by simp [hx]
  have hcall : callMethod k.link true (.list vs) (plain "clear") [] = .ok (.unit, .list []) := rfl
  simp [Member.emptied, execute, perform, evaluate_ownField hself hx, hcall,
    assign_ownField hself hne]

theorem execute_extend_own {x : Ident} {t : Term} {vs ws : List (Value D)} {v : Value D}
    (hself : env.self = .record kind fs) (hx : fs.get? x = some (.list vs))
    (ht : u.evaluate k env t = .ok v) (hv : u.items v = some ws) :
    u.execute k (.run (.apply .extend [.borrow true (.ownField x), t])) env =
      .ok { env with self := .record kind (fs.set x (.list (vs ++ ws))) } := by
  have hne : fs.get? x ≠ none := by simp [hx]
  simp [Term.apply, execute, perform, evaluate, evaluate_ownField hself hx, ht, iterate, hv, assign,
    assign_ownField hself hne]

theorem executeAll_single {s : Statement} {env' : Env D} (h : u.execute k s env = .ok env') :
    u.executeAll k [s] env = .ok env' := by
  rw [executeAll, h, Answer.ok_bind, executeAll]

/-- What a method of the receiver hands back and leaves behind. -/
theorem perform_ownMethod {name : Ident} {t : Term} {v r self' : Value D}
    (hself : env.self = .record kind fs) (ht : u.evaluate k env t = .ok v)
    (hcall : k.link.method true (.record kind fs) name [v] = .ok (r, self')) :
    u.perform k env (.ownMethod name [t]) = .ok (r, { env with self := self' }) := by
  simp [Term.ownMethod, perform, ht, evaluate_self, hself, callMethod, hcall, assign_self]

section Functions

variable {b : Blueprint} {decorations : List Decoration} {name : Ident}
  {parameters : List (Ident × TypeExpr)} {comma : Bool} {statements : List Statement}
  {receiver self' : Value D} {arguments : List (Value D)} {locals : Fields D}

/-- A method that changes its receiver hands back what its result is after its statements. -/
theorem runFunction_changer_result {result : Term} {v : Value D}
    (hlength : parameters.length = arguments.length)
    (hstatements : u.executeAll k statements
      ⟨receiver, (parameters.map (·.1)).zip arguments⟩ = .ok env)
    (hresult : u.perform k env result = .ok (v, ⟨self', locals⟩)) :
    u.runFunction k (Member.changer b decorations name parameters comma statements result) receiver
      arguments = .ok (v, self') := by
  simp [runFunction, Member.changer, hlength, hstatements, hresult]

theorem runFunction_changer (hlength : parameters.length = arguments.length)
    (hstatements : u.executeAll k statements
      ⟨receiver, (parameters.map (·.1)).zip arguments⟩ = .ok ⟨self', locals⟩) :
    u.runFunction k (Member.changer b decorations name parameters comma statements) receiver
      arguments = .ok (self', self') := by
  have hself : u.perform k ⟨self', locals⟩ .self = .ok (self', ⟨self', locals⟩) := by
    simp [Term.self, perform]
  exact runFunction_changer_result hlength hstatements hself

end Functions

end Rules

/-! ## Kept values -/

/-- Conversions keep the value, and only lists can be iterated over. -/
def keeping : Intake D where
  into := id
  items
    | .list vs => some vs
    | _ => none

section Keeping

variable {k} {env : Env D}

theorem eq_list_of_iterate_keeping {v : Value D} {vs : List (Value D)}
    (h : keeping.iterate v = .ok vs) : v = .list vs := by
  cases v <;> cases h
  rfl

theorem evaluate_keeping {t : Term} {v : Value D} (h : keeping.evaluate k env t = .ok v) :
    Meaning.evaluate k env t = .ok v := by
  fun_induction evaluate (keeping : Intake D) k env t generalizing v with
  | case1 ts => exact h
  | case2 x => exact h
  | case3 => exact h
  | case4 owner name ih =>
    obtain ⟨w, hw, hfield⟩ := Answer.exists_of_bind h
    rw [Meaning.evaluate, ih hw]
    exact hfield
  | case5 isMut t ih =>
    rw [Meaning.evaluate]
    exact ih h
  | case6 t comma ih =>
    obtain ⟨w, hw, heq⟩ := Answer.exists_of_bind h
    cases heq
    exact Meaning.evaluate_keeps rfl (ih hw)
  | case7 t comma ih =>
    obtain ⟨w, hw, heq⟩ := Answer.exists_of_bind h
    cases heq
    exact Meaning.evaluate_some (ih hw)
  | case8 comma =>
    cases h
    simp [Meaning.evaluate, Meaning.evaluateAll, Meaning.call, callLibrary]
  | case9 element t comma ih =>
    obtain ⟨w, hw, hlist⟩ := Answer.exists_of_bind h
    obtain ⟨vs, hvs, heq⟩ := Answer.exists_of_bind hlist
    obtain rfl := eq_list_of_iterate_keeping hvs
    cases heq
    simp [Meaning.evaluate, Meaning.evaluateAll, ih hw, Meaning.call]
  | case10 => cases h

theorem evaluateAll_keeping {ts : List Term} {vs : List (Value D)}
    (h : ts.mapM (keeping.evaluate k env) = .ok vs) : Meaning.evaluateAll k env ts = .ok vs := by
  induction ts generalizing vs with
  | nil => exact h
  | cons t ts ih =>
    rw [List.mapM_cons] at h
    obtain ⟨v, hv, hrest⟩ := Answer.exists_of_bind h
    obtain ⟨ws, hws, heq⟩ := Answer.exists_of_bind hrest
    cases heq
    simp [Meaning.evaluateAll, evaluate_keeping hv, ih hws]

theorem perform_keeping {t : Term} {v : Value D} {env' : Env D}
    (h : keeping.perform k env t = .ok (v, env')) : Meaning.perform k env t = .ok (v, env') := by
  unfold perform at h
  split at h
  · exact h
  · obtain ⟨values, hvalues, hrest⟩ := Answer.exists_of_bind h
    obtain ⟨owner, howner, hcall⟩ := Answer.exists_of_bind hrest
    simp only [Meaning.perform, evaluateAll_keeping hvalues, evaluate_keeping howner,
      Answer.ok_bind]
    exact hcall
  · obtain ⟨place, hplace, hrest⟩ := Answer.exists_of_bind h
    obtain ⟨elements, helements, hextend⟩ := Answer.exists_of_bind hrest
    simp only [Meaning.perform, evaluate_keeping hplace, evaluate_keeping helements,
      Answer.ok_bind]
    split at hextend
    · obtain ⟨ws, hws, hassign⟩ := Answer.exists_of_bind hextend
      obtain rfl := eq_list_of_iterate_keeping hws
      exact hassign
    · cases hextend
  · cases h

theorem execute_keeping {s : Statement} {env' : Env D} (h : keeping.execute k s env = .ok env') :
    Meaning.execute k s env = .ok env' := by
  unfold execute at h
  split at h
  · obtain ⟨⟨v, after⟩, hperform, heq⟩ := Answer.exists_of_bind h
    cases heq
    exact Meaning.execute_run k (perform_keeping hperform)
  · obtain ⟨v, hv, hassign⟩ := Answer.exists_of_bind h
    rw [Meaning.execute, evaluate_keeping hv]
    exact hassign
  · cases h

theorem executeAll_keeping {ss : List Statement} {env' : Env D}
    (h : keeping.executeAll k ss env = .ok env') : Meaning.executeAll k ss env = .ok env' := by
  induction ss generalizing env with
  | nil => exact h
  | cons s ss ih =>
    obtain ⟨between, hs, hss⟩ := Answer.exists_of_bind h
    rw [Meaning.executeAll, execute_keeping hs]
    exact ih hss

/-- What a function does where conversions keep values is what it does anyway. -/
theorem runFunction_keeping {f : Function} {receiver v after : Value D}
    {arguments : List (Value D)}
    (h : keeping.runFunction k f receiver arguments = .ok (v, after)) :
    Meaning.runFunction k f receiver arguments = .ok (v, after) := by
  unfold runFunction at h
  split at h
  · rename_i hlength
    split at h
    · rename_i t houtcome
      obtain ⟨env', hstatements, hrest⟩ := Answer.exists_of_bind h
      obtain ⟨⟨w, ⟨receiver', locals⟩⟩, hperform, heq⟩ := Answer.exists_of_bind hrest
      cases heq
      have hfinish : finish k env' f.body.outcome = .ok (v, ⟨receiver', locals⟩) := by
        rw [houtcome]
        exact perform_keeping hperform
      exact runFunction_of_finish hlength (executeAll_keeping hstatements) hfinish
    · cases h
  · cases h

end Keeping

end Intake

end TraitBuilder.Meaning
