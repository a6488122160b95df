import TraitBuilder.Code.Term
import TraitBuilder.Property.Basic

/-!
# Conversions

How generated code takes a value from a caller, hands a stored value out and takes it back.

* `setterConversion`: a value as a caller gives it.
* `Property.read`, `Property.toOwned`: a value handed out, and one taken back.
-/

namespace TraitBuilder

open Code

/-- The type of a parameter that takes one `ty`.  Primitive values are taken as such, anything else
by whatever converts into it. -/
def setterParameter (ty : Ty) : TypeExpr :=
  if (TypeKind.of ty).isPrimitive then .given ty else .convertible (.given ty)

/-- An argument of the type `setterParameter ty` as a `ty`. -/
def setterConversion (ty : Ty) (argument : Term) : Term :=
  if (TypeKind.of ty).isPrimitive then argument else .apply .into [argument]

namespace Property

/-- The declared return value, from a reference to the stored value or option. -/
def read (p : Property) (storage : Term) : Term :=
  match p.shape with
  | .ref => storage
  | .owned | .optionOwned =>
    if p.kind.isPrimitive then .deref storage else .clone storage
  | .optionRef true => .apply .asDeref [storage]
  | .optionRef false => .apply .asRef [storage]

/-- The stored value or option, from a declared return value. -/
def toOwned (p : Property) (returned : Term) : Term :=
  match p.shape with
  | .ref => .apply .toOwned [returned]
  | .owned | .optionOwned => returned
  | .optionRef _ => .apply .mapOption [returned, .library .toOwned]

end Property

end TraitBuilder
