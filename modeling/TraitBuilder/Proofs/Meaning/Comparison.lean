import TraitBuilder.Proofs.Meaning.Execution

/-!
# Comparing and hashing values

What equality and hashing do with values.  The user's own types bring both with them; numbers,
texts, options, lists and sets compare and hash part by part.  Terms that compare are evaluated as
`evaluate` does, with closures, bit patterns and tests in addition.

* `Comparing.hashed_eq_of_equals`: equal values feed a hash the same if the user's own values do.
* `Comparing.compute`: the value of a term that compares or hashes.
* `Comparing.compute_of_evaluate`: it is that of `evaluate` where there is one.
* `Comparing.runEquality`, `Comparing.runHash`: the results of the functions that compare and hash.
-/

namespace TraitBuilder.Meaning

open Code

/-- What a hash is fed with; `W` is what the user's own types feed to it. -/
inductive Fed (W : Type) where
  | own (w : W)
  | truth (b : Bool)
  | number (n : Nat)
  | text (s : String)
  /-- Which variant of an enumeration a value is. -/
  | variant (x : Ident)
  /-- Whether an option has a value. -/
  | presence (b : Bool)
  /-- The number of the elements that follow. -/
  | length (n : Nat)

/-- Equality and hashing of the user's own types, and the bit patterns of floating point numbers. -/
structure Comparing (D W : Type) where
  equal : D → D → Bool
  hash : D → List W
  bits : D → Nat

namespace Comparing

variable {D W : Type} (c : Comparing D W)

/-- Equal values have equal hashes. -/
def Consistent : Prop := ∀ d e, c.equal d e = true → c.hash d = c.hash e

mutual

/-- Whether two values are equal. -/
def equals : Value D → Value D → Bool
  | .data d, .data e => c.equal d e
  | .unit, .unit => true
  | .truth a, .truth b => a = b
  | .number m, .number n => m = n
  | .text s, .text t => s = t
  | .absent, .absent => true
  | .present v, .present w => equals v w
  | .list vs, .list ws => equalsAll vs ws
  | .variant x, .variant y => x = y
  | .set xs, .set ys => xs = ys
  | _, _ => false

/-- Whether two lists have equal elements. -/
def equalsAll : List (Value D) → List (Value D) → Bool
  | [], [] => true
  | v :: vs, w :: ws => equals v w && equalsAll vs ws
  | _, _ => false

end

mutual

/-- What a value feeds to a hash. -/
def hashed : Value D → List (Fed W)
  | .data d => (c.hash d).map .own
  | .truth b => [.truth b]
  | .number n => [.number n]
  | .text s => [.text s]
  | .absent => [.presence false]
  | .present v => .presence true :: hashed v
  | .list vs => .length vs.length :: hashedAll vs
  | .variant x => [.variant x]
  | .set xs => .length xs.length :: xs.map .variant
  | .unit | .record _ _ | .foreign _ | .success _ | .failure _ | .function _ => []

/-- What values feed to a hash one after the other. -/
def hashedAll : List (Value D) → List (Fed W)
  | [] => []
  | v :: vs => hashed v ++ hashedAll vs

end

variable {c}

theorem length_eq_of_equalsAll {vs ws : List (Value D)} (h : c.equalsAll vs ws = true) :
    vs.length = ws.length := by
  induction vs generalizing ws with
  | nil => cases ws <;> simp_all [equalsAll]
  | cons v vs ih =>
    cases ws with
    | nil => simp [equalsAll] at h
    | cons w ws =>
      rw [equalsAll, Bool.and_eq_true] at h
      rw [List.length_cons, List.length_cons, ih h.2]

mutual

theorem hashed_eq_of_equals (hc : c.Consistent) {v w : Value D} (h : c.equals v w = true) :
    c.hashed v = c.hashed w := by
  -- values of different shapes are never equal, so only pairs of one shape are left
  cases v <;> cases w <;> simp only [equals, Bool.false_eq_true] at h
  case data.data d e => rw [hashed, hashed, hc d e h]
  case unit.unit => rfl
  case truth.truth a b => rw [of_decide_eq_true h]
  case number.number m n => rw [of_decide_eq_true h]
  case text.text s t => rw [of_decide_eq_true h]
  case absent.absent => rfl
  case present.present v w => rw [hashed, hashed, hashed_eq_of_equals hc h]
  case list.list vs ws =>
    rw [hashed, hashed, length_eq_of_equalsAll h, hashedAll_eq_of_equalsAll hc h]
  case variant.variant x y => rw [of_decide_eq_true h]
  case set.set xs ys => rw [of_decide_eq_true h]

theorem hashedAll_eq_of_equalsAll (hc : c.Consistent) {vs ws : List (Value D)}
    (h : c.equalsAll vs ws = true) : c.hashedAll vs = c.hashedAll ws := by
  cases vs <;> cases ws <;> simp only [equalsAll, Bool.false_eq_true, Bool.and_eq_true] at h
  case nil.nil => rfl
  case cons.cons v vs w ws =>
    rw [hashedAll, hashedAll, hashed_eq_of_equals hc h.1, hashedAll_eq_of_equalsAll hc h.2]

end

/-! ## Terms -/

section Terms

variable (c) (k : Context D)

/-- The result of a method that is only needed to compare and to hash. -/
def readPart : Value D → String → Option (Value D)
  | .data d, "to_bits" => some (.number (c.bits d))
  | .list vs, "len" => some (.number vs.length)
  | _, _ => none

/-- The value of a term that compares or hashes. -/
def compute : Term → Env D → Answer D (Value D)
  | .field owner name, env => do (← compute owner env).field name
  | .method receiver name [], env => do
    let owner ← compute receiver env
    match c.readPart owner name.name with
    | some v => return v
    | none => return (← callMethod k.link false owner name []).1
  | .borrow _ t, env => compute t env
  | .compare .equal left right, env => do
    return .truth (c.equals (← compute left env) (← compute right env))
  | .call (.library .equalEach) [left, right] _, env => do
    match ← compute left env, ← compute right env with
    | .list vs, .list ws => return .truth (c.equalsAll vs ws)
    | _, _ => .error .stuck
  | .call (.library .mapOption) [t, .closure x body] _, env => do
    match ← compute t env with
    | .absent => return .absent
    | .present v => return .present (← compute body (env.bind x v))
    | _ => .error .stuck
  | .call (.library .mapEach) [t, .closure x body] _, env => do
    match ← compute t env with
    | .list vs => return .list (← vs.mapM fun v => compute body (env.bind x v))
    | _ => .error .stuck
  | t, env => evaluate k env t

variable {k}

/-- What is only needed to compare and to hash means nothing otherwise. -/
theorem readPart_eq_none_of_callMethod {link : Link D} {owner : Value D} {name : Ident}
    {p : Value D × Value D} (h : callMethod link false owner name [] = .ok p) :
    c.readPart owner name.name = none := by
  unfold readPart
  split
  · next hname => simp [callMethod, readBuiltin] at h
  · next hname => simp [callMethod, readBuiltin, hname] at h
  · rfl

/-- A term that has a value without comparisons has the same value with them. -/
theorem compute_of_evaluate {t : Term} {env : Env D} {v : Value D}
    (h : evaluate k env t = .ok v) : c.compute k t env = .ok v := by
  fun_induction c.compute k t env generalizing v with
  | case1 owner name env ih =>
    cases howner : evaluate k env owner with
    | error e => simp [evaluate, howner] at h
    | ok w =>
      rw [ih howner]
      simpa [evaluate, howner] using h
  | case2 receiver name env ih =>
    cases hreceiver : evaluate k env receiver with
    | error e => simp [evaluate, evaluateAll, hreceiver] at h
    | ok w =>
      simp only [evaluate, evaluateAll, hreceiver, Answer.ok_bind] at h
      cases hcall : callMethod k.link false w name [] with
      | error e => simp [hcall] at h
      | ok p => simpa [ih hreceiver, readPart_eq_none_of_callMethod c hcall, hcall] using h
  | case3 isMut t env ih => exact ih h
  -- comparisons, and closures over options and lists, have no value on their own
  | case4 left right env _ _ => simp [evaluate] at h
  | case5 left right comma env _ _ =>
    cases hleft : evaluate k env left <;> cases hright : evaluate k env right <;>
      simp [evaluate, evaluateAll, hleft, hright, call, callLibrary] at h
  | case6 t x body comma env _ _ =>
    cases ht : evaluate k env t <;> simp [evaluate, evaluateAll, ht] at h
  | case7 t x body comma env _ _ =>
    cases ht : evaluate k env t <;> simp [evaluate, evaluateAll, ht] at h
  | case8 => exact h

section Rules

variable {c} {t : Term} {env : Env D}

theorem compute_toBits {d : D} (h : c.compute k t env = .ok (.data d)) :
    c.compute k (.method t (plain "to_bits") []) env = .ok (.number (c.bits d)) := by
  have hpart : c.readPart (.data d) (plain "to_bits").name = some (.number (c.bits d)) := rfl
  simp only [compute, h, Answer.ok_bind, hpart, Answer.pure_eq]

theorem compute_len {vs : List (Value D)} (h : c.compute k t env = .ok (.list vs)) :
    c.compute k (.method t (plain "len") []) env = .ok (.number vs.length) := by
  have hpart : c.readPart (.list vs) (plain "len").name = some (.number vs.length) := rfl
  simp only [compute, h, Answer.ok_bind, hpart, Answer.pure_eq]

theorem compute_iter {vs : List (Value D)} (h : c.compute k t env = .ok (.list vs)) :
    c.compute k (.method t (plain "iter") []) env = .ok (.list vs) := by
  have hpart : c.readPart (.list vs) (plain "iter").name = none := rfl
  have hcall : callMethod k.link false (.list vs) (plain "iter") [] =
      .ok (.list vs, .list vs) := rfl
  simp only [compute, h, Answer.ok_bind, hpart, hcall, Answer.pure_eq]

theorem compute_compare {left right : Term} {v w : Value D} (hleft : c.compute k left env = .ok v)
    (hright : c.compute k right env = .ok w) :
    c.compute k (.compare .equal left right) env = .ok (.truth (c.equals v w)) := by
  simp only [compute, hleft, hright, Answer.ok_bind, Answer.pure_eq]

theorem compute_equalEach {left right : Term} {vs ws : List (Value D)}
    (hleft : c.compute k left env = .ok (.list vs))
    (hright : c.compute k right env = .ok (.list ws)) :
    c.compute k (.apply .equalEach [left, right]) env = .ok (.truth (c.equalsAll vs ws)) := by
  simp only [Term.apply, compute, hleft, hright, Answer.ok_bind, Answer.pure_eq]

theorem compute_mapOption {x : Ident} {body : Term} {v w : Value D}
    (h : c.compute k t env = .ok (.present v))
    (hbody : c.compute k body (env.bind x v) = .ok w) :
    c.compute k (.apply .mapOption [t, .closure x body]) env = .ok (.present w) := by
  simp [Term.apply, compute, h, hbody]

theorem compute_mapOption_absent {x : Ident} {body : Term}
    (h : c.compute k t env = .ok .absent) :
    c.compute k (.apply .mapOption [t, .closure x body]) env = .ok .absent := by
  simp [Term.apply, compute, h]

theorem compute_mapEach {α : Type} {x : Ident} {body : Term} {xs : List α} {f g : α → Value D}
    (h : c.compute k t env = .ok (.list (xs.map f)))
    (hbody : ∀ a ∈ xs, c.compute k body (env.bind x (f a)) = .ok (g a)) :
    c.compute k (.apply .mapEach [t, .closure x body]) env = .ok (.list (xs.map g)) := by
  have hall : (xs.map f).mapM (fun v => c.compute k body (env.bind x v)) =
      (.ok (xs.map g) : Answer D (List (Value D))) := by
    clear h
    induction xs with
    | nil => rfl
    | cons a xs ih =>
      simp [hbody a List.mem_cons_self, ih fun b hb => hbody b (List.mem_cons_of_mem a hb)]
  simp [Term.apply, compute, h, hall]

end Rules

variable (k)

/-- Whether all tests hold; those after the first that fails are not looked at. -/
def allHold (env : Env D) : List Term → Answer D Bool
  | [] => .ok true
  | t :: rest => do
    match ← c.compute k t env with
    | .truth true => allHold env rest
    | .truth false => return false
    | _ => .error .stuck

variable {k}

/-- Tests that all have an outcome are decided, whichever of them are looked at. -/
theorem exists_allHold {env : Env D} {tests : List Term}
    (h : ∀ t ∈ tests, ∃ b, c.compute k t env = .ok (.truth b)) :
    ∃ b, c.allHold k env tests = .ok b ∧
      (b = true ↔ ∀ t ∈ tests, c.compute k t env = .ok (.truth true)) := by
  induction tests with
  | nil => exact ⟨true, rfl, by simp⟩
  | cons t rest ih =>
    obtain ⟨first, hfirst⟩ := h t List.mem_cons_self
    obtain ⟨b, hrest, hall⟩ := ih fun u hu => h u (List.mem_cons_of_mem t hu)
    cases first with
    -- the rest is not looked at, but then it does not matter
    | false => exact ⟨false, by simp [allHold, hfirst], by simp [hfirst]⟩
    | true => exact ⟨b, by simp [allHold, hfirst, hrest], by simp [hfirst, hall]⟩

end Terms

/-! ## Functions -/

section Functions

variable (c) (k : Context D)

/-- The result of a function that compares its receiver with something. -/
def runEquality (f : Function) (left right : Value D) : Answer D Bool :=
  match f.parameters, f.body with
  | [(other, _)], ⟨[], .all tests⟩ => c.allHold k ⟨left, [(other, right)]⟩ tests
  | _, _ => .error .stuck

mutual

/-- What a statement feeds to the hash that a variable stands for. -/
def feed (state : Ident) : Statement → Env D → Answer D (List (Fed W))
  | .run (.call (.library .hash) [t, .var x] _), env =>
    if x = state then do return c.hashed (← c.compute k t env) else .error .stuck
  | .each (.one x) iterable body, env => do
    match ← c.compute k iterable env with
    | .list vs => return (← vs.mapM fun v => feedAll state body (env.bind x v)).flatten
    | _ => .error .stuck
  | _, _ => .error .stuck

/-- What statements feed to the hash one after the other. -/
def feedAll (state : Ident) : List Statement → Env D → Answer D (List (Fed W))
  | [], _ => .ok []
  | s :: rest, env => do return (← feed state s env) ++ (← feedAll state rest env)

end

variable {c k}

theorem feed_hash (state : Ident) {t : Term} {env : Env D} {v : Value D}
    (h : c.compute k t env = .ok v) :
    c.feed k state (.run (.apply .hash [.borrow false t, .var state])) env =
      .ok (c.hashed v) := by
  simp [Term.apply, feed, compute, h]

/-- A loop feeds what its body feeds for each element. -/
theorem feed_each {α : Type} (state : Ident) {x : Ident} {iterable : Term} {body : List Statement}
    {env : Env D} {xs : List α} {f : α → Value D} {g : α → List (Fed W)}
    (h : c.compute k iterable env = .ok (.list (xs.map f)))
    (hbody : ∀ a ∈ xs, c.feedAll k state body (env.bind x (f a)) = .ok (g a)) :
    c.feed k state (.each (.one x) iterable body) env = .ok (xs.flatMap g) := by
  have hall : (xs.map f).mapM (fun v => c.feedAll k state body (env.bind x v)) =
      (.ok (xs.map g) : Answer D (List (List (Fed W)))) := by
    clear h
    induction xs with
    | nil => rfl
    | cons a xs ih =>
      simp [hbody a List.mem_cons_self, ih fun b hb => hbody b (List.mem_cons_of_mem a hb)]
  simp [feed, h, hall, List.flatMap_def]

theorem feedAll_single {s : Statement} {state : Ident} {env : Env D} {ws : List (Fed W)}
    (hs : c.feed k state s env = .ok ws) : c.feedAll k state [s] env = .ok ws := by
  simp [feedAll, hs]

theorem feedAll_cons {s : Statement} {rest : List Statement} {state : Ident} {env : Env D}
    {ws us : List (Fed W)} (hs : c.feed k state s env = .ok ws)
    (hrest : c.feedAll k state rest env = .ok us) :
    c.feedAll k state (s :: rest) env = .ok (ws ++ us) := by
  simp [feedAll, hs, hrest]

theorem feedAll_append {state : Ident} {env : Env D} {ss ts : List Statement} {ws us : List (Fed W)}
    (hs : c.feedAll k state ss env = .ok ws) (ht : c.feedAll k state ts env = .ok us) :
    c.feedAll k state (ss ++ ts) env = .ok (ws ++ us) := by
  induction ss generalizing ws with
  | nil =>
    obtain rfl : [] = ws := by simpa [feedAll] using hs
    exact ht
  | cons s ss ih =>
    -- the first part is not stuck, so neither its head nor its tail is
    cases hone : c.feed k state s env with
    | error e => simp [feedAll, hone] at hs
    | ok first =>
      cases hrest : c.feedAll k state ss env with
      | error e => simp [feedAll, hone, hrest] at hs
      | ok rest =>
        obtain rfl : first ++ rest = ws := by simpa [feedAll, hone, hrest] using hs
        simp [feedAll, hone, ih hrest]

/-- Statements that are written one after the other for each element of a list. -/
theorem feedAll_flatMap {α : Type} {state : Ident} {env : Env D} {xs : List α}
    {f : α → List Statement} {g : α → List (Fed W)}
    (h : ∀ x ∈ xs, c.feedAll k state (f x) env = .ok (g x)) :
    c.feedAll k state (xs.flatMap f) env = .ok (xs.flatMap g) := by
  induction xs with
  | nil => rfl
  | cons x xs ih =>
    exact feedAll_append (h x List.mem_cons_self)
      (ih fun y hy => h y (List.mem_cons_of_mem x hy))

variable (c k)

/-- What a function feeds to the hash that is its parameter. -/
def runHash (f : Function) (receiver : Value D) : Answer D (List (Fed W)) :=
  match f.parameters, f.body with
  | [(state, _)], ⟨statements, .nothing⟩ => c.feedAll k state statements ⟨receiver, []⟩
  | _, _ => .error .stuck

end Functions

end Comparing

end TraitBuilder.Meaning
