import TraitBuilder.Generated.Value

/-!
# Serialization

A value is written as a structure with a field for each member.  It is read back through a structure
of optional fields, each of which is applied to a fresh builder by the member's setter, so that
building judges the result.

* `Blueprint.fields_of_shadowStructure`: the structure read has a field for each member.
-/

namespace TraitBuilder

open Code

namespace Blueprint

/-! ## Writing -/

/-- What the fields are written to. -/
def serializerVar : Ident := plain "serializer"

/-- The structure that is being written. -/
def writtenVar : Ident := plain "state"

/-- Writes a member under its label. -/
def serializeMember (m : Member) : Statement :=
  .run (.orReturn (.apply .serializeField
    [.borrow true (.var writtenVar), .text m.label, .ownFieldRef m.name]))

/-- The body that writes a value. -/
def serializeBody (b : Blueprint) : Body where
  statements :=
    [.bind (!b.members.isEmpty) writtenVar (.orReturn (.apply .serializeStruct
      [.var serializerVar, .text b.typeName.spelling, .size b.members.length]))] ++
    b.members.map serializeMember
  outcome := .term (.apply .endStruct [.var writtenVar])

/-- The function that writes a value. -/
def serializeFunction (b : Blueprint) : Function where
  name := plain "serialize"
  typeParameter := .constrained "S" (.library ["serde", "Serializer"])
  receiver := .shared
  parameters := [(serializerVar, .name (plain "S"))]
  result := some (.result (.associated "S" "Ok") (.associated "S" "Error"))
  body := b.serializeBody

/-- The implementation that writes values. -/
def serializeItem (b : Blueprint) : Item :=
  derivedImpl (.library ["serde", "Serialize"]) b.value [b.serializeFunction]

/-! ## Reading -/

/-- The structure that serialized data is read into. -/
def shadowStructure (b : Blueprint) : Structure where
  decorations := [.derive [["serde", "Deserialize"], ["core", "default", "Default"]] false,
    .fillMissing]
  visibility := []
  name := plain "Fields"
  fields := b.members.map fun m => (m.name, m.serializedType)

theorem fields_of_shadowStructure (b : Blueprint) :
    b.shadowStructure.fields.map (·.1) = b.members.map Member.name := by
  simp [shadowStructure]

/-- The fields that were read. -/
def fieldsVar : Ident := plain "fields"

/-- What the fields are read from. -/
def deserializerVar : Ident := plain "deserializer"

/-- Sets a member to the field that was read. -/
def applyField (m : Member) : Statement :=
  m.setFromResult builderVar (.field (.var fieldsVar) m.name)

/-- The value that the builder holds, or the error. -/
def deserializeResult (b : Blueprint) : Term :=
  let built := Term.method (.var builderVar) (plain "build") []
  if b.hasRequired then .method built (plain "map_err") [.library .customError]
  else .apply .ok [built]

/-- The body that reads a value. -/
def deserializeBody (b : Blueprint) : Body where
  statements := [
    .bind false (markUnused fieldsVar b.members.isEmpty)
      (.orReturn (.call .readFields [.var deserializerVar] false)),
    .bind (!b.members.isEmpty) builderVar b.newBuilder] ++
    b.members.map applyField
  outcome := .term b.deserializeResult

/-- The function that reads a value. -/
def deserializeFunction (b : Blueprint) : Function where
  name := plain "deserialize"
  typeParameter := .constrained "D" (.lifetimed ["serde", "Deserializer"] "de")
  receiver := .none
  parameters := [(deserializerVar, .name (plain "D"))]
  result := some (.result .self (.associated "D" "Error"))
  body := b.deserializeBody

/-- The structure and the implementation that read values. -/
def deserializeItem (b : Blueprint) : Item :=
  .hidden b.shadowStructure {
    decorations := [.automaticallyDerived]
    lifetime := some "de"
    trait? := some (.lifetimed ["serde", "Deserialize"] "de")
    target := .name b.value
    items := [.function b.deserializeFunction] }

/-- Everything about serialization, if it is wanted. -/
def serializationItems (b : Blueprint) : List Item :=
  if b.serde then [b.serializeItem, b.deserializeItem] else []

end Blueprint

end TraitBuilder
