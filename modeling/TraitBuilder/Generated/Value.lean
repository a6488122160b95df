import TraitBuilder.Generated.Builder

/-!
# The value and the partial

The two structures that a builder builds.  Both implement the trait; the partial panics where a
required property is unset, and keeps track of these.

* `Blueprint.partialFields_eq`: the fields of the partial are those of the builder.
-/

namespace TraitBuilder

open Code

/-- The builder that a value or a partial is made of. -/
def builderVar : Ident := plain "builder"

/-- A getter of the trait. -/
def traitGetter (m : Member) (outcome : Outcome) : Function where
  name := m.name
  receiver := .shared
  result := some (.given m.property.returnType)
  body := ⟨[], outcome⟩

/-- The implementation of the user's trait. -/
def traitImplementation (traitName target : Ident) (getters : List Function) : Item :=
  derivedImpl (.name traitName) target getters

namespace Blueprint

/-! ## The value -/

/-- The fields of the value. -/
def valueFields (b : Blueprint) : List (Ident × TypeExpr) := b.members.map Member.valueField

/-- The structure of the value. -/
def valueStructure (b : Blueprint) : Structure where
  decorations := [
    .doc ("Immutable " ++ b.traitLink ++ " built by [`" ++ b.builder.spelling ++ "`]."),
    .derive [["core", "clone", "Clone"]] false]
  visibility := b.visibility
  name := b.value
  fields := b.valueFields

/-- The values of the value's fields. -/
def valueInitials (b : Blueprint) : Record :=
  b.members.map fun m => (m.name, m.finalValue builderVar)

/-- The function that makes the error of the unset properties of the builder. -/
def bindUnset (b : Blueprint) : Statement :=
  .bind false Member.unsetVar (.thunk (.call (.associated b.buildError (plain "new"))
    [.borrow false (.field (.var builderVar) unsetField)] false))

/-- The constructor of the value. -/
def valueNew (b : Blueprint) : Function where
  name := plain "new"
  receiver := .none
  parameters := [(markUnused builderVar b.members.isEmpty, .ref b.builderType)]
  result := some (if b.hasRequired then .result .self (.name b.buildError) else .self)
  body :=
    if b.hasRequired then ⟨[b.bindUnset], .okRecord b.valueInitials⟩
    else ⟨[], .record b.valueInitials⟩

/-- The function that creates a builder. -/
def valueBuilder (b : Blueprint) : Function where
  decorations := [.line " Creates a new builder."]
  isPublic := true
  name := plain "builder"
  receiver := .none
  result := some b.builderType
  body := .term b.newBuilder

/-- The function that creates a builder with all members of the value. -/
def valueToBuilder (b : Blueprint) : Function where
  decorations := [.line " Creates a builder with every property copied from this value."]
  isPublic := true
  name := plain "to_builder"
  receiver := .shared
  result := some b.builderType
  body :=
    ⟨[.bind true builderVar b.newBuilder] ++
      b.members.flatMap (·.partialClear (.var builderVar)) ++
      [.run (.method (.var builderVar) (plain "merge_from") [.self])],
    .term (.var builderVar)⟩

/-- The functions of the value; it gives builders if they can be created from outside. -/
def valueFunctions (b : Blueprint) : List Function :=
  [b.valueNew] ++ if b.builderFactory then [b.valueBuilder, b.valueToBuilder] else []

/-- The getters of the value. -/
def valueGetters (b : Blueprint) : List Function :=
  b.members.map fun m => traitGetter m m.readStored

/-- Everything about the value but the standard traits. -/
def valueItems (b : Blueprint) : List Item := [
  .structure_ b.valueStructure,
  .implementation {
    trait? := none
    target := .name b.value
    items := b.valueFunctions.map .function },
  traitImplementation b.typeName b.value b.valueGetters]

/-! ## The partial -/

/-- The fields of the partial, that of the unset properties last. -/
def partialFields (b : Blueprint) : List (Ident × TypeExpr) :=
  b.members.map Member.partialField ++
    if b.hasRequired then [(unsetField, b.unsetType)] else []

theorem partialFields_eq (b : Blueprint) : b.partialFields = b.builderFields := rfl

/-- The structure of the partial. -/
def partialStructure (b : Blueprint) : Structure where
  decorations := [
    .doc ("Partially-built " ++ b.traitLink ++
      ", for tests. Reading an unset required property panics."),
    .derive [["core", "clone", "Clone"]] false]
  visibility := b.visibility
  name := b.partialType
  fields := b.partialFields

/-- The values of the partial's fields. -/
def partialInitials (b : Blueprint) : Record :=
  b.members.map (fun m => (m.name, m.partialValue builderVar)) ++
    if b.hasRequired then
      [(unsetField, .clone (.borrow false (.field (.var builderVar) unsetField)))]
    else []

/-- The constructor of the partial. -/
def partialNew (b : Blueprint) : Function where
  name := plain "new"
  receiver := .none
  parameters := [(markUnused builderVar b.partialInitials.isEmpty, .ref b.builderType)]
  result := some .self
  body := ⟨[], .record b.partialInitials⟩

/-- The getters of the partial. -/
def partialGetters (b : Blueprint) : List Function :=
  b.members.map fun m => traitGetter m (if m.isRequired then m.readRequired else m.readStored)

/-- Everything about the partial but the standard traits. -/
def partialItems (b : Blueprint) : List Item := [
  .structure_ b.partialStructure,
  .implementation {
    trait? := none
    target := .name b.partialType
    items := [.function b.partialNew] },
  traitImplementation b.typeName b.partialType b.partialGetters]

end Blueprint

end TraitBuilder
