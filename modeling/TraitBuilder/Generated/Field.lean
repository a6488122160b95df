import TraitBuilder.Generated.Blueprint
import TraitBuilder.Generated.Conversion

/-!
# Fields

How each member is laid out in the builder, in the value and in the partial, where each field gets
its value from, and how it is copied, cleared and filled from serialized data.
-/

namespace TraitBuilder

open Code

namespace Member

/-! ## Layout -/

/-- The type that stores the member in the given layout. -/
def storageType (m : Member) (layout : Layout) : TypeExpr :=
  match m.role, layout with
  | .list element _, _ => .list (.given element)
  | _, .optional => .option (.given m.property.ty)
  | _, _ => .given m.property.ty

/-- The field of the builder; a required member may be unset. -/
def builderField (m : Member) : Ident × TypeExpr := (m.name, m.storageType m.partialLayout)

/-- The field of the value. -/
def valueField (m : Member) : Ident × TypeExpr := (m.name, m.storageType m.layout)

/-- The field of the partial. -/
def partialField (m : Member) : Ident × TypeExpr := (m.name, m.storageType m.partialLayout)

/-- The type that serialized data of the member is read into; missing data is no value. -/
def serializedType (m : Member) : TypeExpr :=
  match m.role with
  | .list element _ => .option (.list (.given element))
  | _ => .option (.given m.property.ty)

/-! ## Values of the fields -/

/-- The value of the builder's field in the beginning. -/
def initial (m : Member) : Term :=
  match m.role with
  | .single none | .optional none => .none
  | .single (some e) => setterConversion m.property.ty (.given e.tokens)
  | .optional (some e) => .some (setterConversion m.property.ty (.given e.tokens))
  | .list _ none => .apply .emptyList []
  | .list element (some e) => .call (.collectList element) [.given e.tokens] false

/-- A copy of the member in a builder. -/
def copied (m : Member) (builder : Ident) : Term :=
  .clone (.borrow false (.field (.var builder) m.name))

/-- The function that makes the error of unset members. -/
def unsetVar : Ident := plain "unset"

/-- The value of the value's field; an unset member is an error. -/
def finalValue (m : Member) (builder : Ident) : Term :=
  if m.isRequired then
    .orReturn (.call (.library .okOrElse) [m.copied builder, .var unsetVar] true)
  else m.copied builder

/-- The value of the partial's field. -/
def partialValue (m : Member) (builder : Ident) : Term := m.copied builder

/-! ## Copying -/

/-- Calls a method of the builder with one argument. -/
def callOwn (method : Ident) (argument : Term) : Statement := .run (.ownMethod method [argument])

/-- The elements of a list, copied one by one. -/
def clonedElements (list : Term) : Term :=
  .apply .cloned [.method list (plain "iter") []]

/-- Copies the member from a value, through the getter of the trait. -/
def mergeFromValue (m : Member) (typeName value : Ident) : Statement :=
  let p := m.property
  let returned := Term.call (.associated typeName p.name) [.var value] false
  match m.role with
  | .single _ => callOwn p.setter (p.toOwned returned)
  | .optional _ => callOwn p.nullableSetter (p.toOwned returned)
  | .list _ _ => callOwn p.bulkAdder (clonedElements returned)

/-- Copies the member from a builder where it is set. -/
def mergeFromBuilder (m : Member) (builder : Ident) : Statement :=
  let p := m.property
  let returned := Term.method (.var builder) p.name []
  match m.role with
  | .single _ => callOwn p.setter (p.toOwned returned)
  | .optional _ => callOwn p.nullableSetter (p.toOwned returned)
  | .list _ _ => callOwn p.bulkAdder (clonedElements (.field (.var builder) p.name))

/-- Sets the member of a builder to what was read from serialized data. -/
def setFromResult (m : Member) (builder : Ident) (result : Term) : Statement :=
  let p := m.property
  let call (method : Ident) (argument : Term) : Statement :=
    .run (.method (.var builder) method [argument])
  let present (name : Ident) : Statement := .whenSome name result [call p.setter (.var name)]
  match m.role with
  | .single _ => present (plain "value")
  | .optional _ => call p.nullableSetter result
  | .list _ _ => present (plain "elements")

/-! ## Clearing -/

/-- Empties the list that a term is. -/
def emptied (list : Term) : Statement := .run (.method list (plain "clear") [])

/-- Clears the member, if need be by what a fresh builder holds. -/
def clear (m : Member) (template : Option Ident) : List Statement :=
  match m.role, template with
  | .single _, none => []
  | .optional none, _ | .optional _, none => [.assign (.ownField m.name) .none]
  | .list _ none, _ | .list _ _, none => [emptied (.ownField m.name)]
  | .single _, some t | .optional (some _), some t | .list _ (some _), some t =>
    [.assign (.ownField m.name) (.field (.var t) m.name)]

/-- Clears the member of the builder that a term is as far as that is possible without a fresh
builder: a list is emptied, since copying would add to it. -/
def partialClear (m : Member) (receiver : Term) : List Statement :=
  match m.role with
  | .list _ _ => [emptied (.field receiver m.name)]
  | _ => []

end Member

end TraitBuilder
