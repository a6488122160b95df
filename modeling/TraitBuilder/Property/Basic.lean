import TraitBuilder.Property.Shape
import TraitBuilder.Syntax.Language
import TraitBuilder.Text.CamelCase

/-!
# Properties

A property is what a getter of the trait stands for.  Its label, the getter's name without the raw
mark, is the source of all names derived from it.

* `Property.setter`, `Property.adder`, …: the names of the builder's methods.
* `Property.variant?`: the name by which a property is tracked while it is unset, if there is one.
-/

namespace TraitBuilder

/-- One getter of the trait. -/
structure Property where
  /-- The name of the getter. -/
  name : Ident
  /-- The type that the getter declares. -/
  returnType : Ty
  /-- The type that is stored, without the option around it. -/
  ty : Ty
  shape : Shape
  /-- The documentation of the getter. -/
  doc : List Attribute
  deriving DecidableEq, Repr

namespace Property

/-- The name without the raw mark. -/
def label (p : Property) : String := p.name.name

/-- How values of the property compare and are handed over. -/
def kind (p : Property) : TypeKind := .of p.ty

/-- Whether the value may be absent. -/
def isNullable (p : Property) : Bool :=
  match p.shape with
  | .optionOwned | .optionRef _ => true
  | .ref | .owned => false

/-! ## Derived names -/

/-- The identifier made of `lead` and the label. -/
def derived (p : Property) (lead : String) : Ident := ⟨lead ++ p.label, false⟩

/-- The method that sets the value. -/
def setter (p : Property) : Ident := p.derived "set_"

/-- The method that sets the value or clears it. -/
def nullableSetter (p : Property) : Ident := p.derived "set_nullable_"

/-- The method that clears the value. -/
def clearMethod (p : Property) : Ident := p.derived "clear_"

/-- The method that adds an element. -/
def adder (p : Property) : Ident := p.derived "add_"

/-- The method that adds many elements. -/
def bulkAdder (p : Property) : Ident := p.derived "add_all_"

end Property

/-- The identifier for a label where unset properties are tracked: the label in camel case. -/
def variantName (label : String) : Ident := ⟨Text.CamelCase.upperCamelCase label, false⟩

/-- The identifier for a label where unset properties are tracked, if it is one at all. -/
def variant? (label : String) : Except Ident.Invalid Ident :=
  Ident.ofString? (Text.CamelCase.upperCamelCase label)

theorem eq_variantName_of_variant? {label : String} {x : Ident} (h : variant? label = .ok x) :
    x = variantName label := by
  unfold variant? Ident.ofString? at h
  unfold variantName
  grind

/-- The identifier by which the property is tracked while it is unset. -/
def Property.variant (p : Property) : Ident := variantName p.label

end TraitBuilder
