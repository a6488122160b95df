import TraitBuilder.Generated.Source

/-!
# Terms inside generated code

Generated code is read through the terms that it consists of.  They are listed from left to right,
a term before those inside it, so whatever is picked out of the list comes in the order in which it
is written.

* `Body.subterms`: all terms of a body.
* `fieldsOf`: the fields of a variable that terms name.
* `CallLibrary`: terms call nothing of the user.
-/

namespace TraitBuilder

open Code

namespace Code

/-! ## Listing -/

namespace Term

mutual

/-- A term and the terms inside it. -/
@[simp] def subterms : Term → List Term
  | .given tokens => [.given tokens]
  | .var x => [.var x]
  | .text value => [.text value]
  | .number value => [.number value]
  | .size value => [.size value]
  | .truth value => [.truth value]
  | .constant owner x => [.constant owner x]
  | .library f => [.library f]
  | .field owner x => .field owner x :: owner.subterms
  | .call f arguments comma => .call f arguments comma :: subtermsOfAll arguments
  | .method receiver x arguments =>
    .method receiver x arguments :: (receiver.subterms ++ subtermsOfAll arguments)
  | .borrow isMut t => .borrow isMut t :: t.subterms
  | .deref t => .deref t :: t.subterms
  | .not t => .not t :: t.subterms
  | .orReturn t => .orReturn t :: t.subterms
  | .compare op left right => .compare op left right :: (left.subterms ++ right.subterms)
  | .thunk body => .thunk body :: body.subterms
  | .closure x body => .closure x body :: body.subterms
  | .array elements => .array elements :: subtermsOfAll elements

/-- The terms of a list and those inside them. -/
@[simp] def subtermsOfAll : List Term → List Term
  | [] => []
  | t :: rest => t.subterms ++ subtermsOfAll rest

end

theorem subtermsOfAll_eq (ts : List Term) : subtermsOfAll ts = ts.flatMap subterms := by
  induction ts with
  | nil => rfl
  | cons t rest ih => rw [subtermsOfAll, ih, List.flatMap_cons]

end Term

namespace Statement

mutual

/-- The terms of a statement. -/
@[simp] def subterms : Statement → List Term
  | .run t | .leave t | .bind _ _ t => t.subterms
  | .assign target value => target.subterms ++ value.subterms
  | .when condition body => condition.subterms ++ subtermsOfAll body
  | .whenSome _ value body => value.subterms ++ subtermsOfAll body
  | .each _ iterable body => iterable.subterms ++ subtermsOfAll body

/-- The terms of statements. -/
@[simp] def subtermsOfAll : List Statement → List Term
  | [] => []
  | s :: rest => s.subterms ++ subtermsOfAll rest

end

theorem subtermsOfAll_eq (ss : List Statement) : subtermsOfAll ss = ss.flatMap subterms := by
  induction ss with
  | nil => rfl
  | cons s rest ih => rw [subtermsOfAll, ih, List.flatMap_cons]

/-- Statements that each contain one thing to be read contain these things in their order. -/
theorem filterMap_subterms_map {α β : Type} {read : Term → Option β} {f : α → Statement}
    {g : α → β} (h : ∀ a, (f a).subterms.filterMap read = [g a]) (as : List α) :
    ((as.map f).flatMap subterms).filterMap read = as.map g := by
  induction as with
  | nil => rfl
  | cons a as ih =>
    rw [List.map_cons, List.flatMap_cons, List.filterMap_append, ih, h]
    rfl

end Statement

/-- The terms of what a body hands back. -/
def Outcome.subterms : Outcome → List Term
  | .nothing | .labels _ => []
  | .term t => t.subterms
  | .record fields | .okRecord fields => fields.flatMap (·.2.subterms)
  | .expect option _ found _ => option.subterms ++ found.subterms
  | .all tests => tests.flatMap Term.subterms

/-- The terms of a body. -/
def Body.subterms (b : Body) : List Term :=
  b.statements.flatMap Statement.subterms ++ b.outcome.subterms

/-! ## Fields -/

/-- The receiver of a method. -/
def selfVar : Ident := plain "self"

/-- The field of the variable `owner` that a term is. -/
def Term.fieldOf? (owner : Ident) : Term → Option Ident
  | .field (.var x) name => if x = owner then Option.some name else Option.none
  | _ => Option.none

/-- The fields of the variable `owner` that terms name, in order. -/
def fieldsOf (owner : Ident) (ts : List Term) : List Ident := ts.filterMap (Term.fieldOf? owner)

section Fields

variable {owner : Ident}

@[simp] theorem fieldOf?_field (x name : Ident) :
    (Term.field (.var x) name).fieldOf? owner = if x = owner then some name else none := rfl

@[simp] theorem fieldsOf_nil : fieldsOf owner [] = [] := rfl

@[simp] theorem fieldsOf_cons (t : Term) (ts : List Term) :
    fieldsOf owner (t :: ts) = (t.fieldOf? owner).toList ++ fieldsOf owner ts := by
  cases h : t.fieldOf? owner <;> simp [fieldsOf, h]

@[simp] theorem fieldsOf_append (ts us : List Term) :
    fieldsOf owner (ts ++ us) = fieldsOf owner ts ++ fieldsOf owner us :=
  List.filterMap_append

end Fields

/-! ## Calls -/

/-- The function that a term calls. -/
def Term.callee? : Term → Option Callee
  | .call f _ _ => Option.some f
  | _ => Option.none

/-- A term, apart from those inside it, is not written by the user, and calls at most a function of
the libraries or a method of something other than the receiver. -/
def Term.callsLibrary : Term → Bool
  | .given _ => false
  | .call (.library _) _ _ => true
  | .call _ _ _ => false
  | .method (.var x) _ _ => x != selfVar
  | _ => true

/-- Whatever the terms call is of the libraries. -/
def CallLibrary (ts : List Term) : Prop := ∀ t ∈ ts, t.callsLibrary = true

@[simp] theorem callLibrary_nil : CallLibrary [] := nofun

@[simp] theorem callLibrary_cons {t : Term} {ts : List Term} :
    CallLibrary (t :: ts) ↔ t.callsLibrary = true ∧ CallLibrary ts :=
  List.forall_mem_cons

@[simp] theorem callLibrary_append {ts us : List Term} :
    CallLibrary (ts ++ us) ↔ CallLibrary ts ∧ CallLibrary us :=
  List.forall_mem_append

theorem callLibrary_flatMap {α : Type} {f : α → List Term} {as : List α}
    (h : ∀ a ∈ as, CallLibrary (f a)) : CallLibrary (as.flatMap f) := by
  intro t ht
  obtain ⟨a, ha, hta⟩ := List.mem_flatMap.mp ht
  exact h a ha t hta

end Code

end TraitBuilder
