import TraitBuilder.Generated.Blueprint

/-!
# Tracking of unset properties

The enumeration of the required properties, and the error of a build before all of them are set.
Both are generated only if some property is required.

* `Blueprint.name_of_propertyVariants`: the variants are those of the required members in order.
-/

namespace TraitBuilder

open Code

/-! ## Common parts -/

/-- The formatter that text is written to. -/
def formatterVar : Ident := plain "f"

/-- Writes a text; a failure is returned at once. -/
def writeText (t : Term) : Statement :=
  .run (.orReturn (.method (.var formatterVar) (plain "write_str") [t]))

/-- Writes a text and hands back whether that failed. -/
def writeLast (t : Term) : Outcome :=
  .term (.method (.var formatterVar) (plain "write_str") [t])

/-- A function that writes the receiver to a formatter. -/
def formatFunction (decorations : List Decoration) (body : Body) : Function where
  decorations := decorations
  name := plain "fmt"
  receiver := .shared
  parameters := [(formatterVar, .refMut (.lifetimed ["core", "fmt", "Formatter"] "_"))]
  result := some (.library ["core", "fmt", "Result"])
  body := body

/-- The implementation of a trait of the libraries that consists of functions. -/
def derivedImpl (trait_ : TypeExpr) (target : Ident) (functions : List Function) : Item :=
  .implementation {
    decorations := [.automaticallyDerived]
    trait? := some trait_
    target := .name target
    items := functions.map .function }

/-- The trait of what can be displayed. -/
def displayTrait : TypeExpr := .library ["core", "fmt", "Display"]

/-- The position of an element in a loop. -/
def indexVar : Ident := plain "index"

/-- Writes a separator before all elements of a loop but the first. -/
def separateElements : Statement :=
  .when (.compare .notEqual (.var indexVar) (.number 0)) [writeText (.text ", ")]

/-- The paths of traits that are derived for both types, and those for the enumeration only. -/
def derivedPath (modName name : String) : List String := ["core", modName, name]

namespace Blueprint

/-! ## The enumeration -/

/-- The variants of the enumeration with their documentation. -/
def propertyVariants (b : Blueprint) : List (String × Ident) :=
  b.required.map fun m =>
    ("The [`" ++ b.typeName.spelling ++ "::" ++ m.name.spelling ++ "`] property.",
      m.property.variant)

theorem name_of_propertyVariants (b : Blueprint) :
    b.propertyVariants.map (·.2) = b.required.map (·.property.variant) := by
  simp [propertyVariants]

/-- The enumeration of the required properties. -/
def propertyEnumeration (b : Blueprint) : Enumeration where
  decorations := [
    .doc ("The required properties of [`" ++ b.typeName.spelling ++ "`]."),
    .derive [derivedPath "clone" "Clone", derivedPath "marker" "Copy", derivedPath "fmt" "Debug",
      derivedPath "cmp" "PartialEq", derivedPath "cmp" "Eq", derivedPath "cmp" "PartialOrd",
      derivedPath "cmp" "Ord", derivedPath "hash" "Hash"] true]
  visibility := b.visibility
  name := b.propertyEnum
  variants := b.propertyVariants

/-- The name of the function that gives a property's label. -/
def labelFunction : Ident := plain "as_str"

/-- The function that gives a property's label. -/
def propertyLabel (b : Blueprint) : Function where
  decorations := [.line " Returns the name of the property."]
  isPublic := true
  name := labelFunction
  receiver := .byValue
  result := some .staticText
  body := ⟨[], .labels (b.required.map fun m => (m.property.variant, m.label))⟩

/-- Everything about the enumeration. -/
def propertyItems (b : Blueprint) : List Item := [
  .enumeration b.propertyEnumeration,
  .implementation {
    trait? := none
    target := .name b.propertyEnum
    items := [.function b.propertyLabel] },
  derivedImpl displayTrait b.propertyEnum
    [formatFunction [] ⟨[], writeLast (.ownMethod labelFunction [])⟩]]

/-! ## The error -/

/-- The field of the error that lists the unset properties. -/
def errorField : Ident := plain "unset"

/-- The structure of the error. -/
def errorStructure (b : Blueprint) : Structure where
  decorations := [
    .doc ("Returned when building a [`" ++ b.typeName.spelling ++
      "`] before all its required properties are set."),
    .derive [derivedPath "clone" "Clone", derivedPath "fmt" "Debug",
      derivedPath "cmp" "PartialEq", derivedPath "cmp" "Eq"] true]
  visibility := b.visibility
  name := b.buildError
  fields := [(errorField, .list (.name b.propertyEnum))]

/-- The function that makes the error of a set of properties. -/
def errorNew (b : Blueprint) : Function where
  name := plain "new"
  receiver := .none
  parameters := [(errorField, .ref b.unsetType)]
  result := some .self
  body := ⟨[], .record [(errorField,
    .apply .collect [.apply .copied [.method (.var errorField) (plain "iter") []]])]⟩

/-- The function that lists the unset properties. -/
def errorProperties (b : Blueprint) : Function where
  decorations := [.line " The properties that were not set, in declaration order."]
  isPublic := true
  name := plain "unset_properties"
  receiver := .shared
  result := some (.ref (.slice (.name b.propertyEnum)))
  body := .term (.ownFieldRef errorField)

/-- The property at hand in the loop over the unset ones. -/
def propertyVar : Ident := plain "property"

/-- The body that writes the error: the labels of the unset properties in brackets. -/
def errorDisplayBody : Body where
  statements := [
    writeText (.text "Not set: ["),
    .each (.numbered indexVar propertyVar)
      (.apply .enumerate [.method (.ownField errorField) (plain "iter") []]) [
        separateElements,
        writeText (.method (.var propertyVar) labelFunction [])]]
  outcome := writeLast (.text "]")

/-- Everything about the error. -/
def errorItems (b : Blueprint) : List Item := [
  .structure_ b.errorStructure,
  .implementation {
    trait? := none
    target := .name b.buildError
    items := [.function b.errorNew, .function b.errorProperties] },
  derivedImpl displayTrait b.buildError [formatFunction [] errorDisplayBody],
  derivedImpl (.library ["std", "error", "Error"]) b.buildError []]

/-- The enumeration and the error, if some property is required. -/
def trackingItems (b : Blueprint) : List Item :=
  if b.hasRequired then b.propertyItems ++ b.errorItems else []

end Blueprint

end TraitBuilder
