import TraitBuilder.Code.Item
import TraitBuilder.Property.Member
import TraitBuilder.Property.Standard

/-!
# Blueprints

Everything that the generated code depends on: the names of the types, the members in the order of
their declaration, and the switches.

* `Blueprint.hasRequired_iff`: members are tracked while they are unset if one of them is required.
-/

namespace TraitBuilder

open Code

/-- What is to be generated. -/
structure Blueprint where
  /-- The name of the trait. -/
  typeName : Ident
  visibility : Tokens
  builder : Ident
  value : Ident
  partialType : Ident
  /-- The enumeration of the required properties. -/
  propertyEnum : Ident
  buildError : Ident
  /-- In the order of declaration. -/
  members : List Member
  /-- Whether the builder can be created from outside. -/
  builderFactory : Bool
  standards : Standards
  /-- Whether the user implements the debugging trait. -/
  debugSupertrait : Bool
  serde : Bool
  deriving DecidableEq, Repr

/-- The two types that a builder builds. -/
inductive Target where
  | value
  | partialType
  deriving DecidableEq, Repr

namespace Target

/-- The name of the type. -/
def name (t : Target) (b : Blueprint) : Ident :=
  match t with
  | .value => b.value
  | .partialType => b.partialType

/-- How the type stores a member. -/
def layout (t : Target) (m : Member) : Layout :=
  match t with
  | .value => m.layout
  | .partialType => m.partialLayout

end Target

/-- The field where a builder and a partial keep the required properties that are unset. -/
def unsetField : Ident := plain "_unset_properties"

namespace Blueprint

/-- The required members. -/
def required (b : Blueprint) : List Member := b.members.filter Member.isRequired

/-- Whether a member is required. -/
def hasRequired (b : Blueprint) : Bool := b.members.any Member.isRequired

theorem hasRequired_iff (b : Blueprint) : b.hasRequired = true ↔ b.required ≠ [] := by
  simp [hasRequired, required]

/-- The variant that stands for a required member. -/
def variant (b : Blueprint) (m : Member) : Term := .constant b.propertyEnum m.property.variant

/-- The call that creates a builder. -/
def newBuilder (b : Blueprint) : Term := .call (.associated b.builder (plain "new")) [] false

/-- The type of the builder. -/
def builderType (b : Blueprint) : TypeExpr := .name b.builder

/-- The type that holds the required properties that are unset. -/
def unsetType (b : Blueprint) : TypeExpr := .set (.name b.propertyEnum)

/-- A fault of the label of the first required member whose variant would be no identifier. -/
def invalidVariant? (b : Blueprint) : Option Ident.Invalid :=
  b.required.findSome? fun m =>
    match variant? m.label with
    | .ok _ => none
    | .error e => some e

end Blueprint

end TraitBuilder
