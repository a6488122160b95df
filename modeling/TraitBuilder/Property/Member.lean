import TraitBuilder.Property.Basic

/-!
# Members

A member is a property with the part it plays in the builder.  References to a list are lists,
nullable properties are optional, and all others hold a single value, which is required unless the
builder's constructor sets it.

* `classify`: the member that a property is.
* `Member.builderMethods`: the names of the builder's methods for a member.
-/

namespace TraitBuilder

/-- A setter that the builder's constructor calls, with its argument. -/
structure Invocation where
  setter : Ident
  argument : Expr
  deriving DecidableEq, Repr

/-- The argument of the first call of `setter`. -/
def argumentOf? (invocations : List Invocation) (setter : Ident) : Option Expr :=
  (invocations.find? (·.setter = setter)).map (·.argument)

/-- The part that a property plays. -/
inductive Role where
  /-- One value, which is always there once it is set. -/
  | single (default : Option Expr)
  /-- A value that may be absent. -/
  | optional (default : Option Expr)
  /-- Any number of elements. -/
  | list (element : Ty) (default : Option Expr)
  deriving DecidableEq, Repr

/-- The initial value, if the constructor sets one. -/
def Role.default : Role → Option Expr
  | .single default | .optional default | .list _ default => default

/-- A property and its part. -/
structure Member where
  property : Property
  role : Role
  deriving DecidableEq, Repr

/-- What must be known of a member before a value can be built. -/
inductive Need where
  /-- It must be set. -/
  | required
  /-- It holds a value from the beginning. -/
  | hasDefault
  /-- It may be absent. -/
  | optional
  deriving DecidableEq, Repr

/-- How a member is stored. -/
inductive Layout where
  | plain
  | optional
  | list
  deriving DecidableEq, Repr

/-- The type of the elements, if references to the stored value are references to a list. -/
def Property.listElement? (p : Property) : Option Ty :=
  match p.shape, p.ty.lastName? with
  | .ref, some x => if x.is "Vec" then p.ty.firstArgument? else none
  | _, _ => none

/-- The member that a property is when the constructor makes the given calls. -/
def classify (invocations : List Invocation) (p : Property) : Member :=
  let default := argumentOf? invocations p.setter
  match p.listElement? with
  | some element => ⟨p, .list element default⟩
  | none => if p.isNullable then ⟨p, .optional default⟩ else ⟨p, .single default⟩

namespace Member

/-- The name of the property. -/
def name (m : Member) : Ident := m.property.name

/-- The label of the property. -/
def label (m : Member) : String := m.property.label

/-- What must be known of the member before a value can be built. -/
def need (m : Member) : Need :=
  match m.role with
  | .single none => .required
  | .single (some _) => .hasDefault
  | .optional _ => .optional
  | .list _ _ => .hasDefault

/-- Whether the member must be set before a value can be built. -/
def isRequired (m : Member) : Bool := m.need = .required

/-- How a value stores the member. -/
def layout (m : Member) : Layout :=
  match m.role with
  | .single _ => .plain
  | .optional _ => .optional
  | .list _ _ => .list

/-- How a partial stores the member; a required one may be unset. -/
def partialLayout (m : Member) : Layout :=
  match m.need with
  | .required => .optional
  | _ => m.layout

/-- How the single values of the member compare, those of a list being its elements. -/
def elementKind (m : Member) : TypeKind :=
  match m.role with
  | .list element _ => .of element
  | _ => m.property.kind

/-- The names of the builder's methods for the member, the getter first. -/
def builderMethods (m : Member) : List Ident :=
  let p := m.property
  match m.role with
  | .single _ => [p.name, p.setter]
  | .optional _ => [p.name, p.setter, p.nullableSetter, p.clearMethod]
  | .list _ _ => [p.name, p.adder, p.bulkAdder, p.setter, p.clearMethod]

/-- Whether clearing takes the value of the member from a fresh builder. -/
def needsTemplate (m : Member) : Bool :=
  match m.role with
  | .single _ => true
  | .optional default | .list _ default => default.isSome

end Member

@[simp] theorem classify_property (invocations : List Invocation) (p : Property) :
    (classify invocations p).property = p := by
  unfold classify
  grind

theorem classify_default (invocations : List Invocation) (p : Property) :
    (classify invocations p).role.default = argumentOf? invocations p.setter := by
  unfold classify Role.default
  grind

end TraitBuilder
