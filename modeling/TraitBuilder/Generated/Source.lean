import TraitBuilder.Generated.Display
import TraitBuilder.Generated.Equality
import TraitBuilder.Generated.Serialization

/-!
# All generated code

The items that a blueprint yields, in the order in which they are written.

* `Blueprint.tokens?_eq_error_iff`: nothing is generated exactly if a required property has a label
  that gives no identifier.
-/

namespace TraitBuilder

open Code

namespace Blueprint

/-- The standard traits of a built type. -/
def standardItems (b : Blueprint) (t : Target) : List Item :=
  b.equalityItems t ++ b.hashItems t ++ b.displayItems t ++ b.debugItems t

/-- All generated items. -/
def items (b : Blueprint) : List Item :=
  b.trackingItems ++ b.builderItems ++ b.valueItems ++ b.partialItems ++
    b.standardItems .value ++ b.standardItems .partialType ++ b.serializationItems

/-- All generated code. -/
def tokens (b : Blueprint) : Tokens := b.items.flatMap Item.tokens

/-- All generated code, unless a required property has a label that gives no identifier. -/
def tokens? (b : Blueprint) : Except Ident.Invalid Tokens :=
  match b.invalidVariant? with
  | some e => .error e
  | none => .ok b.tokens

theorem tokens?_eq_error_iff (b : Blueprint) :
    (∃ e, b.tokens? = .error e) ↔ ∃ e, b.invalidVariant? = some e := by
  unfold tokens?
  cases b.invalidVariant? <;> simp

end Blueprint

end TraitBuilder
