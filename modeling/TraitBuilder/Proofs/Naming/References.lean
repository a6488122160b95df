import TraitBuilder.Generated.Source

/-!
# References of generated code

What generated code refers to by a name: types, fields, variables and constants.  Names of
libraries, of methods, and of what the code declares are no references, nor are the types that every
program knows and the type parameters of a function.  What the user wrote may refer to anything that
it has an identifier for.

* `Statement.refersAny_iff`: statements refer to what one of them does.
* `Body.not_refers`, `Function.not_refers`: what has no part that refers does not refer either.
* `refers_read`, `refers_toOwned`, `refers_setterConversion`: conversions refer to nothing.
-/

namespace TraitBuilder

open Code

/-! ## Names in tokens -/

mutual

/-- The names of the identifiers in a token, raw marks aside. -/
def Token.names : Token → List String
  | .ident x => [x.name]
  | .punct _ _ | .literal _ => []
  | .group _ content => namesOfAll content

/-- The names of the identifiers in tokens. -/
def Token.namesOfAll : List Token → List String
  | [] => []
  | t :: rest => t.names ++ namesOfAll rest

end

namespace Code

/-- What a name can stand for. -/
inductive Reference where
  | type (name : String)
  | field (name : String)
  | variable (name : String)
  | constant (name : String)
  deriving DecidableEq, Repr

namespace Reference

/-- The name itself. -/
def name : Reference → String
  | .type name | .field name | .variable name | .constant name => name

/-- The user's tokens have an identifier of this name. -/
def Within (r : Reference) (tokens : Tokens) : Prop := r.name ∈ Token.namesOfAll tokens

instance (r : Reference) (tokens : Tokens) : Decidable (r.Within tokens) :=
  inferInstanceAs (Decidable (r.name ∈ Token.namesOfAll tokens))

/-- The types that need not be declared. -/
def knownTypes : List String := ["Self", "bool"]

/-- The name of a type refers to it. -/
def IsType (r : Reference) (x : Ident) : Prop := r = .type x.name ∧ x.name ∉ knownTypes

@[simp] theorem not_isType_self (r : Reference) : ¬ r.IsType (plain "Self") := by
  simp [IsType, knownTypes, plain]

@[simp] theorem not_isType_bool (r : Reference) : ¬ r.IsType (plain "bool") := by
  simp [IsType, knownTypes, plain]

end Reference

/-! ## Types and terms -/

/-- A type refers to what is given by the reference. -/
@[simp] def TypeExpr.Refers (r : Reference) : TypeExpr → Prop
  | .given ty => r.Within ty.tokens
  | .name x => r.IsType x
  | .associated _ _ | .library _ | .lifetimed _ _ | .staticText => False
  | .apply _ t | .reference _ t | .slice t | .any t | .anyIterable t | .anyUnsized t => t.Refers r
  | .result ok err => ok.Refers r ∨ err.Refers r

/-- What is called refers to what is given by the reference. -/
@[simp] def Callee.Refers (r : Reference) : Callee → Prop
  | .library _ | .readFields => False
  | .associated owner _ => r.IsType owner
  | .ofTrait traitName _ => r.IsType traitName
  | .collectList element => r.Within element.tokens

namespace Term

mutual

/-- A term refers to what is given by the reference. -/
@[simp] def Refers (r : Reference) : Term → Prop
  | .given tokens => r.Within tokens
  | .var x => r = .variable x.name
  | .text _ | .number _ | .size _ | .truth _ | .library _ => False
  | .constant owner name => r.IsType owner ∨ r = .constant name.name
  | .field owner name => owner.Refers r ∨ r = .field name.name
  | .call f arguments _ => f.Refers r ∨ RefersAny r arguments
  | .method receiver _ arguments => receiver.Refers r ∨ RefersAny r arguments
  | .borrow _ t | .deref t | .not t | .orReturn t | .thunk t | .closure _ t => t.Refers r
  | .compare _ left right => left.Refers r ∨ right.Refers r
  | .array elements => RefersAny r elements

/-- One of the terms refers to what is given by the reference. -/
@[simp] def RefersAny (r : Reference) : List Term → Prop
  | [] => False
  | t :: rest => t.Refers r ∨ RefersAny r rest

end

end Term

/-! ## Statements and bodies -/

namespace Statement

mutual

/-- A statement refers to what is given by the reference. -/
@[simp] def Refers (r : Reference) : Statement → Prop
  | .run t | .leave t | .bind _ _ t => t.Refers r
  | .assign target value => target.Refers r ∨ value.Refers r
  | .when condition body => condition.Refers r ∨ RefersAny r body
  | .whenSome _ value body => value.Refers r ∨ RefersAny r body
  | .each _ iterable body => iterable.Refers r ∨ RefersAny r body

/-- One of the statements refers to what is given by the reference. -/
@[simp] def RefersAny (r : Reference) : List Statement → Prop
  | [] => False
  | s :: rest => s.Refers r ∨ RefersAny r rest

end

theorem refersAny_iff {r : Reference} {ss : List Statement} :
    RefersAny r ss ↔ ∃ s ∈ ss, s.Refers r := by
  induction ss with
  | nil => simp
  | cons s ss ih => simp [ih]

/-- The statement declares a variable of the given name for those after it. -/
def Binds (name : String) : Statement → Prop
  | .bind _ x _ => x.name = name
  | _ => False

end Statement

/-- What a body hands back refers to what is given by the reference. -/
@[simp] def Outcome.Refers (r : Reference) : Outcome → Prop
  | .nothing => False
  | .term t => t.Refers r
  | .record fields | .okRecord fields => ∃ f ∈ fields, r = .field f.1.name ∨ f.2.Refers r
  | .expect option _ found _ => option.Refers r ∨ found.Refers r
  | .labels arms => ∃ arm ∈ arms, r = .constant arm.1.name
  | .all tests => ∃ t ∈ tests, t.Refers r

/-- A body refers to what is given by the reference. -/
def Body.Refers (r : Reference) (b : Body) : Prop :=
  (∃ s ∈ b.statements, s.Refers r) ∨ b.outcome.Refers r

@[simp] theorem Body.refers_term {r : Reference} {t : Term} :
    (Body.term t).Refers r ↔ t.Refers r := by
  simp [Body.Refers, Body.term]

theorem Body.not_refers {r : Reference} {b : Body} (hs : ∀ s ∈ b.statements, ¬ s.Refers r)
    (ho : ¬ b.outcome.Refers r) : ¬ b.Refers r := by
  rintro (⟨s, hmem, h⟩ | h)
  · exact hs s hmem h
  · exact ho h

/-- A body declares a variable of the given name. -/
def Body.Binds (name : String) (b : Body) : Prop := ∃ s ∈ b.statements, s.Binds name

/-! ## Items -/

/-- An attribute refers to what is given by the reference. -/
@[simp] def Decoration.Refers (r : Reference) : Decoration → Prop
  | .given a => r.Within a.tokens
  | _ => False

/-- The name of a type parameter. -/
def TypeParameter.name? : TypeParameter → Option String
  | .none => Option.none
  | .bounded name _ | .constrained name _ => Option.some name

/-- The bound of a type parameter refers to what is given by the reference. -/
def TypeParameter.Refers (r : Reference) : TypeParameter → Prop
  | .none => False
  | .bounded _ bound | .constrained _ bound => bound.Refers r

/-- A function refers to what is given by the reference; its type parameter stands before any type
of the same name. -/
def Function.Refers (r : Reference) (f : Function) : Prop :=
  (∀ x, f.typeParameter.name? = some x → r ≠ .type x) ∧
    ((∃ d ∈ f.decorations, d.Refers r) ∨ f.typeParameter.Refers r ∨
      (∃ p ∈ f.parameters, p.2.Refers r) ∨ (∃ t, f.result = some t ∧ t.Refers r) ∨
      f.body.Refers r)

theorem Function.not_refers {r : Reference} {f : Function} (ht : f.typeParameter = .none)
    (hd : ∀ d ∈ f.decorations, ¬ d.Refers r) (hp : ∀ p ∈ f.parameters, ¬ p.2.Refers r)
    (hresult : ∀ t, f.result = some t → ¬ t.Refers r) (hb : ¬ f.body.Refers r) :
    ¬ f.Refers r := by
  rintro ⟨-, ⟨d, hmem, h⟩ | h | ⟨p, hmem, h⟩ | ⟨t, heq, h⟩ | h⟩
  · exact hd d hmem h
  · rw [ht] at h
    exact h
  · exact hp p hmem h
  · exact hresult t heq h
  · exact hb h

/-- An associated item refers to what is given by the reference. -/
@[simp] def AssociatedItem.Refers (r : Reference) : AssociatedItem → Prop
  | .function f => f.Refers r
  | .text _ _ => False

/-- A structure refers to what is given by the reference. -/
def Structure.Refers (r : Reference) (s : Structure) : Prop :=
  (∃ d ∈ s.decorations, d.Refers r) ∨ r.Within s.visibility ∨ ∃ f ∈ s.fields, f.2.Refers r

/-- An enumeration refers to what is given by the reference. -/
def Enumeration.Refers (r : Reference) (e : Enumeration) : Prop :=
  (∃ d ∈ e.decorations, d.Refers r) ∨ r.Within e.visibility

/-- An implementation refers to what is given by the reference. -/
def Implementation.Refers (r : Reference) (i : Implementation) : Prop :=
  (∃ d ∈ i.decorations, d.Refers r) ∨ (∃ t, i.trait? = some t ∧ t.Refers r) ∨
    i.target.Refers r ∨ ∃ item ∈ i.items, item.Refers r

/-- An item refers to what is given by the reference. -/
@[simp] def Item.Refers (r : Reference) : Item → Prop
  | .structure_ s => s.Refers r
  | .enumeration e => e.Refers r
  | .implementation i => i.Refers r
  | .hidden s i => s.Refers r ∨ i.Refers r

/-- The types that an item declares for all items. -/
def Item.declaredTypes : Item → List String
  | .structure_ s => [s.name.name]
  | .enumeration e => [e.name.name]
  | .implementation _ | .hidden _ _ => []

/-! ## Conversions -/

section Conversions

variable {r : Reference}

@[simp] theorem refers_setterConversion {ty : Ty} {t : Term} :
    (setterConversion ty t).Refers r ↔ t.Refers r := by
  unfold setterConversion
  split <;> simp [Term.apply]

@[simp] theorem refers_read {p : Property} {t : Term} : (p.read t).Refers r ↔ t.Refers r := by
  unfold Property.read
  split
  · rfl
  · split <;> simp [Term.clone, Term.apply]
  · split <;> simp [Term.clone, Term.apply]
  · simp [Term.apply]
  · simp [Term.apply]

@[simp] theorem refers_toOwned {p : Property} {t : Term} :
    (p.toOwned t).Refers r ↔ t.Refers r := by
  unfold Property.toOwned
  split <;> simp [Term.apply]

@[simp] theorem refers_setterParameter {ty : Ty} :
    (setterParameter ty).Refers r ↔ r.Within ty.tokens := by
  unfold setterParameter
  split <;> simp [TypeExpr.convertible]

end Conversions

end Code

end TraitBuilder
