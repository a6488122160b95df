import TraitBuilder.Syntax.TraitDecl

/-!
# Standard traits

Of the standard traits that the generated types implement, a user may take over equality, hashing
and display: wholly, by a supertrait, or for the value type, by a provided method.

* `Standards.ofTrait`: who implements what for a given trait.
-/

namespace TraitBuilder

/-- The standard traits that a user may take over. -/
inductive StandardTrait where
  | equality
  | hashing
  | display
  deriving DecidableEq, Repr

namespace StandardTrait

/-- The method that takes the trait over for the value type if it is provided. -/
def methodName : StandardTrait → String
  | .equality => "eq"
  | .hashing => "hash"
  | .display => "fmt"

/-- The name of the trait. -/
def traitName : StandardTrait → String
  | .equality => "PartialEq"
  | .hashing => "Hash"
  | .display => "Display"

end StandardTrait

/-- Who implements a standard trait. -/
inductive Provision where
  /-- All of it is generated. -/
  | absent
  /-- The implementation for the value type calls a method that the user provides. -/
  | overridable
  /-- The user implements it. -/
  | final
  deriving DecidableEq, Repr

/-- Who implements each of the standard traits. -/
structure Standards where
  equality : Provision := .absent
  hashing : Provision := .absent
  display : Provision := .absent
  deriving DecidableEq, Repr

namespace Standards

/-- Who implements the given trait. -/
def get (s : Standards) : StandardTrait → Provision
  | .equality => s.equality
  | .hashing => s.hashing
  | .display => s.display

/-- The same with another answer for the given trait. -/
def set (s : Standards) (t : StandardTrait) (p : Provision) : Standards :=
  match t with
  | .equality => { s with equality := p }
  | .hashing => { s with hashing := p }
  | .display => { s with display := p }

@[simp] theorem get_set_self (s : Standards) (t : StandardTrait) (p : Provision) :
    (s.set t p).get t = p := by
  cases t <;> rfl

theorem get_set_of_ne (s : Standards) {t u : StandardTrait} (h : u ≠ t) (p : Provision) :
    (s.set t p).get u = s.get u := by
  cases t <;> cases u <;> first | rfl | exact absurd rfl h

end Standards

namespace TraitDecl

/-- Whether a supertrait has the given last name. -/
def hasSupertrait (t : TraitDecl) (name : String) : Bool :=
  t.supertraits.any fun s =>
    match s.form with
    | .trait_ x => x.is name
    | _ => false

/-- Whether the trait has a method of the given name with a body. -/
def provides (t : TraitDecl) (name : String) : Bool :=
  t.items.any fun item =>
    match item with
    | .method _ signature (some _) => signature.name.is name
    | _ => false

/-- Who implements a standard trait, as far as its own name and method tell. -/
def provision (t : TraitDecl) (s : StandardTrait) : Provision :=
  if t.hasSupertrait s.traitName then .final
  else if t.provides s.methodName then .overridable
  else .absent

/-- Whether the user implements the debugging trait. -/
def hasDebug (t : TraitDecl) : Bool := t.hasSupertrait "Debug"

end TraitDecl

/-- Who implements the standard traits for a given trait.  Total equality as a supertrait leaves
equality to the user too, since it needs it. -/
def Standards.ofTrait (t : TraitDecl) : Standards where
  equality := if t.hasSupertrait "Eq" then .final else t.provision .equality
  hashing := t.provision .hashing
  display := t.provision .display

end TraitBuilder
