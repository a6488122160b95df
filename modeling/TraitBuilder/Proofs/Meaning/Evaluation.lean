import TraitBuilder.Code.Item
import TraitBuilder.Proofs.Meaning.Value

/-!
# Evaluation of generated code

Terms, statements and bodies of generated code as transformers of the receiver and of the variables.
Conversions and copies (`into`, `to_owned`, `clone`, `as_ref`, `as_deref`) keep the value.  A term
changes nothing while it is evaluated; where a statement or an outcome is a call, the place that it
is called on takes the receiver that the call leaves behind.  Writing a value collects its fields,
and does not fail.

Functions call each other, so a context says what calls do; `Link` is what is known of them.

* `evaluate`, `perform`: the value of a term, and of a term that may change its receiver.
* `executeAll_append`: bodies are executed statement by statement.
* `Function.run`: the result of a function and the receiver it leaves behind.
-/

namespace TraitBuilder.Meaning

open Code

/-! ## Contexts -/

/-- What calls of generated functions do. -/
structure Link (D : Type) where
  /-- The result of a method of a record and the receiver it leaves behind.  The flag says whether
  the method may change its receiver. -/
  method : Bool → Value D → Ident → List (Value D) → Answer D (Value D × Value D)
  /-- The result of a function that belongs to a type. -/
  associated : Ident → Ident → List (Value D) → Answer D (Value D)

/-- What the meaning of a body depends on. -/
structure Context (D : Type) where
  /-- The values of what the user wrote. -/
  given : Tokens → Value D
  /-- The variants of the enumeration in the order of their declaration. -/
  declared : List Ident
  /-- The type whose implementation the body belongs to. -/
  kind : Kind
  link : Link D

/-- The receiver of the function at hand and its variables, the latest first. -/
structure Env (D : Type) where
  self : Value D
  locals : Fields D

namespace Env

variable {D : Type}

/-- The value of a variable or of the receiver. -/
def get (env : Env D) (x : Ident) : Answer D (Value D) :=
  if x = plain "self" then .ok env.self
  else match env.locals.get? x with
    | some v => .ok v
    | none => .error .stuck

/-- Another value for a variable or for the receiver. -/
def set (env : Env D) (x : Ident) (v : Value D) : Answer D (Env D) :=
  if x = plain "self" then .ok { env with self := v }
  else match env.locals.get? x with
    | some _ => .ok { env with locals := env.locals.set x v }
    | none => .error .stuck

/-- A new variable. -/
def bind (env : Env D) (x : Ident) (v : Value D) : Env D :=
  { env with locals := (x, v) :: env.locals }

/-- The environment after a block: the variables of the block are gone. -/
def leaveBlock (env : Env D) (outer : Env D) : Env D :=
  { env with locals := env.locals.drop (env.locals.length - outer.locals.length) }

@[simp] theorem get_self (env : Env D) : env.get (plain "self") = .ok env.self := by
  simp [get]

theorem get_local {env : Env D} {x : Ident} {v : Value D} (hx : x ≠ plain "self")
    (h : env.locals.get? x = some v) : env.get x = .ok v := by
  simp [get, hx, h]

end Env

/-! ## Library functions and methods -/

section Calls

variable {D : Type}

/-- The library functions that hand back their argument, or a copy of it. -/
def keeps : Library → Bool
  | .asRef | .asDeref | .clone | .into | .toOwned | .cloned | .copied | .collect | .intoIter => true
  | _ => false

/-- The result of a library function. -/
def callLibrary (declared : List Ident) : Library → List (Value D) → Answer D (Value D)
  | .some, [v] => .ok (.present v)
  | .mapOption, [v, .function f] => if keeps f then .ok v else .error .stuck
  | .okOrElse, [.absent, e] => .ok (.failure e)
  | .okOrElse, [.present v, _] => .ok (.success v)
  | .ok, [v] => .ok (.success v)
  | .err, [v] => .ok (.failure v)
  | .serializeStruct, [_, .text _, .number _] => .ok (.success (.record .written []))
  | .endStruct, [v] => .ok (.success v)
  | .emptyList, [] => .ok (.list [])
  | .setOf, [.list vs] =>
    .ok (.set (declared.filter fun x => vs.any fun v =>
      match v with
      | .variant y => x = y
      | _ => false))
  | f, [v] => if keeps f then .ok v else .error .stuck
  | _, _ => .error .stuck

/-- The result of a method of the libraries that does not change its receiver.  An error that is
made of another one stands for that one. -/
def readBuiltin : Value D → String → List (Value D) → Option (Value D)
  | .list vs, "iter", [] => some (.list vs)
  | .set xs, "iter", [] => some (.list (xs.map .variant))
  | .set xs, "is_empty", [] => some (.truth xs.isEmpty)
  | .set xs, "contains", [.variant x] => some (.truth (x ∈ xs))
  | .success v, "map_err", [.function .customError] => some (.success v)
  | .failure e, "map_err", [.function .customError] => some (.failure e)
  | _, _, _ => none

/-- The result of a method of the libraries that changes its receiver, and the changed receiver. -/
def changeBuiltin : Value D → String → List (Value D) → Option (Value D × Value D)
  | .list vs, "push", [v] => some (.unit, .list (vs ++ [v]))
  | .list _, "clear", [] => some (.unit, .list [])
  | .set xs, "remove", [.variant x] => some (.truth (x ∈ xs), .set (xs.filter (· ≠ x)))
  | _, _, _ => none

/-- The result of a method and the receiver it leaves behind. -/
def callMethod (link : Link D) (mayChange : Bool) (receiver : Value D) (name : Ident)
    (arguments : List (Value D)) : Answer D (Value D × Value D) :=
  match receiver with
  | .record _ _ => link.method mayChange receiver name arguments
  | _ =>
    match readBuiltin receiver name.name arguments with
    | some result => .ok (result, receiver)
    | none =>
      match mayChange, changeBuiltin receiver name.name arguments with
      | true, some pair => .ok pair
      | _, _ => .error .stuck

/-- The result of a call.  What fields are read from stands for the outcome of reading them. -/
def call (k : Context D) : Callee → List (Value D) → Answer D (Value D)
  | .library f, arguments => callLibrary k.declared f arguments
  | .associated owner name, arguments => k.link.associated owner name arguments
  | .collectList _, [.list vs] => .ok (.list vs)
  | .readFields, [outcome] => .ok outcome
  | _, _ => .error .stuck

end Calls

/-! ## Terms -/

section Terms

variable {D : Type} (k : Context D) (env : Env D)

mutual

/-- The value of a term.  A function of no argument stands for its result; nothing that it reads
changes while it is in use. -/
def evaluate : Term → Answer D (Value D)
  | .given ts => .ok (k.given ts)
  | .var x => env.get x
  | .text s => .ok (.text s)
  | .number n | .size n => .ok (.number n)
  | .truth b => .ok (.truth b)
  | .constant _ name => .ok (.variant name)
  | .library .none => .ok .absent
  | .library f => .ok (.function f)
  | .field owner name => do (← evaluate owner).field name
  | .call f arguments _ => do call k f (← evaluateAll arguments)
  | .method receiver name arguments => do
    let values ← evaluateAll arguments
    let owner ← evaluate receiver
    return (← callMethod k.link false owner name values).1
  | .borrow _ t => evaluate t
  | .deref t => evaluate t
  | .not t => do
    match ← evaluate t with
    | .truth b => return .truth !b
    | _ => .error .stuck
  | .orReturn t => do
    match ← evaluate t with
    | .success v => return v
    | .failure e => .error (.returned (.failure e))
    | _ => .error .stuck
  | .thunk body => evaluate body
  | .array elements => do return .list (← evaluateAll elements)
  | .compare _ _ _ => .error .stuck
  | .closure _ _ => .error .stuck

/-- The values of terms. -/
def evaluateAll : List Term → Answer D (List (Value D))
  | [] => .ok []
  | t :: rest => do
    let v ← evaluate t
    return v :: (← evaluateAll rest)

end

/-- The environment with another value for the place that a term is.  What a method hands back is in
no place, so nothing remains of what becomes of it. -/
def assign : Term → Value D → Answer D (Env D)
  | .var x, v => env.set x v
  | .field owner name, v => do assign owner (← (← evaluate k env owner).setField name v)
  | .borrow _ t, v => assign t v
  | .method _ _ _, _ => .ok env
  | _, _ => .error .stuck

variable {k env}

theorem evaluate_self : evaluate k env .self = .ok env.self := by
  simp [Term.self, evaluate]

theorem assign_self (v : Value D) : assign k env .self v = .ok { env with self := v } := by
  simp [Term.self, assign, Env.set]

variable (k env)

/-- The value of a term that may change the place that it is called on. -/
def perform : Term → Answer D (Value D × Env D)
  | .method receiver name arguments => do
    let values ← evaluateAll k env arguments
    let owner ← evaluate k env receiver
    let (result, after) ← callMethod k.link true owner name values
    return (result, ← assign k env receiver after)
  | .call (.library .extend) [place, elements] _ => do
    match ← evaluate k env place, ← evaluate k env elements with
    | .list vs, .list ws => return (.unit, ← assign k env place (.list (vs ++ ws)))
    | _, _ => .error .stuck
  | .orReturn (.call (.library .serializeField) [place, label, value] _) => do
    match ← evaluate k env place, ← evaluate k env label, ← evaluate k env value with
    | .record .written fields, .text l, v =>
      return (.unit, ← assign k env place (.record .written (fields ++ [(plain l, v)])))
    | _, _, _ => .error .stuck
  | t => do return (← evaluate k env t, env)

end Terms

/-! ## Statements -/

section Statements

variable {D : Type} (k : Context D)

/-- What the elements of a loop are bound to. -/
def bindElement (binder : Binder) (position : Nat) (v : Value D) (env : Env D) : Env D :=
  match binder with
  | .one x => env.bind x v
  | .numbered p x => (env.bind p (.number position)).bind x v

mutual

/-- The environment after a statement. -/
def execute : Statement → Env D → Answer D (Env D)
  | .run t, env => do return (← perform k env t).2
  | .assign target value, env => do assign k env target (← evaluate k env value)
  | .bind _ x value, env => do return env.bind x (← evaluate k env value)
  | .when condition body, env => do
    match ← evaluate k env condition with
    | .truth true => return (← executeAll body env).leaveBlock env
    | .truth false => return env
    | _ => .error .stuck
  | .whenSome x value body, env => do
    match ← evaluate k env value with
    | .present v => return (← executeAll body (env.bind x v)).leaveBlock env
    | .absent => return env
    | _ => .error .stuck
  | .each binder iterable body, env => do
    match ← evaluate k env iterable with
    | .list vs => vs.zipIdx.foldlM (fun env (v, position) => do
        return (← executeAll body (bindElement binder position v env)).leaveBlock env) env
    | _ => .error .stuck
  | .leave t, env => do
    let v ← evaluate k env t
    .error (.returned v)

/-- The environment after statements one after the other. -/
def executeAll : List Statement → Env D → Answer D (Env D)
  | [], env => .ok env
  | s :: rest, env => do executeAll rest (← execute s env)

end

theorem execute_run {t : Term} {v : Value D} {env env' : Env D}
    (h : perform k env t = .ok (v, env')) : execute k (.run t) env = .ok env' := by
  simp [execute, h]

theorem executeAll_append (ss ts : List Statement) (env : Env D) :
    executeAll k (ss ++ ts) env = executeAll k ss env >>= executeAll k ts := by
  induction ss generalizing env with
  | nil => simp [executeAll]
  | cons s ss ih =>
    simp only [List.cons_append, executeAll]
    cases execute k s env with
    | error e => rfl
    | ok env' => simp [ih]

/-! ## Bodies and functions -/

/-- The fields of a record. -/
def evaluateRecord (env : Env D) (fields : Record) : Answer D (Fields D) :=
  fields.mapM fun (x, t) => do return (x, ← evaluate k env t)

/-- Whether all tests hold; those after the first that fails are not looked at. -/
def allHold (env : Env D) : List Term → Answer D Bool
  | [] => .ok true
  | t :: rest => do
    match ← evaluate k env t with
    | .truth true => allHold env rest
    | .truth false => return false
    | _ => .error .stuck

/-- What a body hands back, and the environment that it leaves behind. -/
def finish (env : Env D) : Outcome → Answer D (Value D × Env D)
  | .nothing => .ok (.unit, env)
  | .term t => perform k env t
  | .record fields => do return (.record k.kind (← evaluateRecord k env fields), env)
  | .okRecord fields => do
    return (.success (.record k.kind (← evaluateRecord k env fields)), env)
  | .expect option x found message => do
    match ← evaluate k env option with
    | .present v => return (← evaluate k (env.bind x v) found, env)
    | .absent => .error (.panic message)
    | _ => .error .stuck
  | .labels arms =>
    match env.self with
    | .variant x =>
      match arms.find? fun arm => arm.1 = x with
      | some (_, label) => .ok (.text label, env)
      | none => .error .stuck
    | _ => .error .stuck
  | .all tests => do return (.truth (← allHold k env tests), env)

/-- The result of a function and the receiver it leaves behind.  Only a function that does not
change its receiver may return early. -/
def runFunction (f : Function) (receiver : Value D) (arguments : List (Value D)) :
    Answer D (Value D × Value D) :=
  if f.parameters.length = arguments.length then
    let env : Env D := ⟨receiver, (f.parameters.map (·.1)).zip arguments⟩
    let result : Answer D (Value D × Env D) := do
      finish k (← executeAll k f.body.statements env) f.body.outcome
    match result with
    | .ok (v, env) => .ok (v, env.self)
    | .error (.returned v) => if f.receiver = .mutable then .error .stuck else .ok (v, receiver)
    | .error e => .error e
  else .error .stuck

end Statements

end TraitBuilder.Meaning
