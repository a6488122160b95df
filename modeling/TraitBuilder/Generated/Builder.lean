import TraitBuilder.Generated.Accessor
import TraitBuilder.Generated.Tracking

/-!
# The builder

The structure that collects the values of the members, with its constructor, the accessors of the
members, and the methods that build, merge and clear.

* `Blueprint.builderFields_of_not_hasRequired`: without a required member there is one field for
  each member and no other.
-/

namespace TraitBuilder

open Code

/-- The reason why the result of building must not be dropped. -/
def buildReason : String := "building a value does not change the builder"

/-- The constant text that separates displayed members. -/
def commaJoiner : Ident := plain "COMMA_JOINER"

namespace Blueprint

/-- A reference to the trait in documentation. -/
def traitLink (b : Blueprint) : String := "[`" ++ b.typeName.spelling ++ "`]"

/-! ## The structure -/

/-- The fields of the builder, that of the unset properties last. -/
def builderFields (b : Blueprint) : List (Ident × TypeExpr) :=
  b.members.map Member.builderField ++
    if b.hasRequired then [(unsetField, b.unsetType)] else []

theorem builderFields_of_not_hasRequired {b : Blueprint} (h : b.hasRequired = false) :
    b.builderFields = b.members.map Member.builderField := by
  simp [builderFields, h]

/-- The set of all required properties. -/
def allUnset (b : Blueprint) : Term :=
  .apply .setOf [.array (b.required.map b.variant)]

/-- The values of the builder's fields in the beginning. -/
def builderInitials (b : Blueprint) : Record :=
  b.members.map (fun m => (m.name, m.initial)) ++
    if b.hasRequired then [(unsetField, b.allUnset)] else []

/-- The structure of the builder. -/
def builderStructure (b : Blueprint) : Structure where
  decorations := [
    .doc ("Builder for " ++ b.traitLink ++ "."), .derive [["core", "clone", "Clone"]] false]
  visibility := b.visibility
  name := b.builder
  fields := b.builderFields

/-! ## Creating and building -/

/-- The constructor; it is for internal use if the builder cannot be created from outside. -/
def builderNew (b : Blueprint) : Function where
  decorations :=
    if b.builderFactory then [.line " Creates a builder with every property in its initial state."]
    else [.allow "dead_code"]
  isPublic := b.builderFactory
  name := plain "new"
  receiver := .none
  result := some .self
  body := ⟨[], .record b.builderInitials⟩

/-- Whether the text that separates displayed members is needed. -/
def needsJoiner (b : Blueprint) : Bool :=
  2 ≤ b.members.length && b.standards.display != .final

/-- The text that separates displayed members, if it is needed. -/
def joinerItems (b : Blueprint) : List AssociatedItem :=
  if b.needsJoiner then [.text commaJoiner ", "] else []

/-- A new instance of a type from the builder. -/
def builtFrom (owner : Ident) : Term := .call (.associated owner (plain "new")) [.self] false

/-- The method that builds a value, and fails if a required property is unset. -/
def buildFunction (b : Blueprint) : Function :=
  let doc : Decoration := .doc ("Returns a newly-created " ++ b.traitLink ++
    " based on the contents of this builder.")
  let name := plain "build"
  if b.hasRequired then
    { decorations := [doc, .line "", .line " # Errors", .line "",
        .line " Returns an error naming every required property that has not been set."]
      isPublic := true
      name := name
      receiver := .shared
      result := some (.result (.name b.value) (.name b.buildError))
      body := ⟨[.when (.not (.method Member.ownUnset (plain "is_empty") [])) [
          .leave (.apply .err [.call (.associated b.buildError (plain "new"))
            [.ownFieldRef unsetField] false])]],
        .term (builtFrom b.value)⟩ }
  else
    { decorations := [doc, .mustUse buildReason]
      isPublic := true
      name := name
      receiver := .shared
      result := some (.name b.value)
      body := .term (builtFrom b.value) }

theorem header_buildFunction (b : Blueprint) : b.buildFunction.name = plain "build" ∧
    b.buildFunction.receiver = .shared ∧ b.buildFunction.parameters = [] := by
  unfold buildFunction
  split <;> exact ⟨rfl, rfl, rfl⟩

/-- The method that builds a partial. -/
def buildPartialFunction (b : Blueprint) : Function where
  decorations := [
    .doc ("Returns a newly-created partial " ++ b.traitLink ++ " for use in unit tests."),
    .line "", .line " State checking does not occur. Reading an unset required property",
    .line " of the result panics.", .mustUse buildReason]
  isPublic := true
  name := plain "build_partial"
  receiver := .shared
  result := some (.name b.partialType)
  body := .term (builtFrom b.partialType)

/-! ## Merging -/

/-- A variable, or the same variable marked as unused. -/
def markUnused (x : Ident) (unused : Bool) : Ident := if unused then plain ("_" ++ x.name) else x

/-- The method that copies all members of a value. -/
def mergeFromFunction (b : Blueprint) : Function :=
  let value := plain "value"
  let statements := b.members.map (·.mergeFromValue b.typeName value)
  Member.changer b [
      .line " Sets all property values from the given instance.", .line "",
      .line " Lists are appended to, everything else is overwritten."]
    (plain "merge_from")
    [(markUnused value statements.isEmpty, .ref (.anyUnsized (.name b.typeName)))] true statements

/-- The builder that is merged or that a cleared builder is reset to. -/
def templateVar : Ident := plain "template"

/-- The field of the template where unset properties are kept. -/
def templateUnset : Term := .field (.var templateVar) unsetField

/-- Copies a member of the template unless it is required and unset there. -/
def mergeMember (b : Blueprint) (m : Member) : Statement :=
  let merge := m.mergeFromBuilder templateVar
  if m.isRequired then
    .when (.not (.method templateUnset (plain "contains") [.borrow false (b.variant m)])) [merge]
  else merge

/-- The method that copies all members of another builder. -/
def mergeFromBuilderFunction (b : Blueprint) : Function :=
  let statements := b.members.map b.mergeMember
  Member.changer b [
      .line " Copies values from the given builder.", .line "",
      .line " Required properties not set on `template` are left untouched."]
    (plain "merge_from_builder")
    [(markUnused templateVar statements.isEmpty, .ref b.builderType)] false statements

/-! ## Clearing -/

/-- Whether a cleared builder takes values from a fresh one. -/
def needsTemplate (b : Blueprint) : Bool := b.members.any Member.needsTemplate

/-- What clearing does if a fresh builder can be created. -/
def clearStatements (b : Blueprint) : List Statement :=
  (if b.needsTemplate then [.bind false templateVar b.newBuilder] else []) ++
  b.members.flatMap (fun m => m.clear (if m.needsTemplate then some templateVar else none)) ++
  (if b.hasRequired then [.assign Member.ownUnset templateUnset] else [])

/-- The method that clears the builder. -/
def clearFunction (b : Blueprint) : Function :=
  let name := plain "clear"
  if b.builderFactory then
    Member.changer b [.line " Resets the state of this builder."] name [] false b.clearStatements
  else
    Member.changer b [
        .line " Ensures a subsequent `merge_from` call will make a copy of its input.", .line "",
        .line " The exact effect of this method is not guaranteed to remain stable.",
        .line " It should always be followed directly by a `merge_from` call."]
      name [] false (b.members.flatMap (·.partialClear .self))

theorem header_clearFunction (b : Blueprint) : b.clearFunction.name = plain "clear" ∧
    b.clearFunction.receiver = .mutable ∧ b.clearFunction.parameters = [] := by
  unfold clearFunction
  split <;> exact ⟨rfl, rfl, rfl⟩

/-! ## All together -/

/-- The methods of the builder that belong to single members. -/
def accessorFunctions (b : Blueprint) : List Function := b.members.flatMap (·.accessors b)

/-- The functions of the builder. -/
def builderFunctions (b : Blueprint) : List Function :=
  [b.builderNew] ++ b.accessorFunctions ++
    [b.buildFunction, b.mergeFromFunction, b.mergeFromBuilderFunction, b.clearFunction,
      b.buildPartialFunction]

/-- The implementation of the builder's functions. -/
def builderImplementation (b : Blueprint) : Implementation where
  trait? := none
  target := b.builderType
  items := b.joinerItems ++ b.builderFunctions.map .function

/-- The default builder, if a builder can be created from outside. -/
def builderDefault (b : Blueprint) : List Item :=
  if b.builderFactory then
    [derivedImpl (.library ["core", "default", "Default"]) b.builder [{
      name := plain "default"
      receiver := .none
      result := some .self
      body := .term (.call (.associated (plain "Self") (plain "new")) [] false) }]]
  else []

/-- Everything about the builder. -/
def builderItems (b : Blueprint) : List Item :=
  [.structure_ b.builderStructure, .implementation b.builderImplementation] ++ b.builderDefault

end Blueprint

end TraitBuilder
