import TraitBuilder.Argument.Default
import TraitBuilder.Generated.Field

/-!
# Accessors

The methods of the builder that belong to one member.  All but the getter hand back the builder, so
that calls can be chained.

* `Member.name_of_accessors`: the methods are, up to their order, those that `builderMethods` names.
-/

namespace TraitBuilder

open Code

namespace Member

/-! ## Documentation -/

/-- A reference to the getter of the trait in documentation. -/
def getterLink (typeName : Ident) (m : Member) : String :=
  "[`" ++ typeName.spelling ++ "::" ++ m.name.spelling ++ "`]"

/-- The documentation that the user wrote on the getter, after an empty line. -/
def userDoc (m : Member) : List Decoration :=
  .line "" :: (docAttributes m.property.doc).map .given

/-- The documentation of the panic of a getter. -/
def panicDoc : List Decoration :=
  [.line "", .line " # Panics", .line "", .line " Panics if the value has not been set."]

/-! ## Methods -/

/-- A public method that changes the builder and hands it back. -/
def changer (b : Blueprint) (decorations : List Decoration) (name : Ident)
    (parameters : List (Ident × TypeExpr)) (trailingComma : Bool) (statements : List Statement)
    (result : Term := .self) : Function where
  decorations := decorations
  isPublic := true
  name := name
  receiver := .mutable
  parameters := parameters
  trailingComma := trailingComma
  result := some (.refMut b.builderType)
  body := ⟨statements, .term result⟩

/-- The public getter of the builder. -/
def builderGetter (m : Member) (decorations : List Decoration) (outcome : Outcome) : Function where
  decorations := decorations
  isPublic := true
  name := m.name
  receiver := .shared
  result := some (.given m.property.returnType)
  body := ⟨[], outcome⟩

/-- The message of the panic when the member is unset. -/
def unsetMessage (m : Member) : String := m.label ++ " not set"

/-- What a getter hands back where the member is stored as an option only because it is required. -/
def readRequired (m : Member) : Outcome :=
  .expect (.ownFieldRef m.name) m.name (m.property.read (.var m.name)) m.unsetMessage

/-- What a getter hands back where the member is stored as it is. -/
def readStored (m : Member) : Outcome := .term (m.property.read (.ownFieldRef m.name))

/-- The field of the receiver where unset properties are kept. -/
def ownUnset : Term := .ownField unsetField

/-- What the setter of a single value or of an option does. -/
def setterStatements (b : Blueprint) (m : Member) : List Statement :=
  let value := setterConversion m.property.ty (.var m.name)
  match m.role with
  | .single none => [
      .assign (.ownField m.name) (.some value),
      .run (.method ownUnset (plain "remove") [.borrow false (b.variant m)])]
  | .single (some _) => [.assign (.ownField m.name) value]
  | _ => [.assign (.ownField m.name) (.some value)]

/-- The setter of a single value or of an option. -/
def setterMethod (b : Blueprint) (m : Member) : Function :=
  changer b (.doc ("Sets the value to be returned by " ++ m.getterLink b.typeName ++ ".") ::
      m.userDoc)
    m.property.setter [(m.name, setterParameter m.property.ty)] false (m.setterStatements b)

/-- The documentation of the getter of a single value or of an option. -/
def getterDoc (b : Blueprint) (m : Member) : Decoration :=
  .doc ("Returns the value that will be returned by " ++ m.getterLink b.typeName ++ ".")

/-- The methods for a single value. -/
def singleAccessors (b : Blueprint) (m : Member) : List Function :=
  [m.setterMethod b,
    if m.isRequired then m.builderGetter (m.getterDoc b :: panicDoc) m.readRequired
    else m.builderGetter [m.getterDoc b] m.readStored]

/-- The methods for an optional value. -/
def optionalAccessors (b : Blueprint) (m : Member) : List Function :=
  let p := m.property
  let link := m.getterLink b.typeName
  [m.setterMethod b,
    changer b [.doc ("Sets the value to be returned by " ++ link ++ ", or clears it if `None`.")]
      p.nullableSetter [(m.name, .option (.given p.ty))] false
      [.assign (.ownField m.name) (.var m.name)],
    changer b [.doc ("Sets " ++ link ++ " to return `None`.")]
      p.clearMethod [] false [.assign (.ownField m.name) .none],
    m.builderGetter [m.getterDoc b] m.readStored]

/-- The parameter that takes one element. -/
def elementVar : Ident := plain "element"

/-- The parameter that takes many elements. -/
def elementsVar : Ident := plain "elements"

/-- The methods for a list. -/
def listAccessors (b : Blueprint) (m : Member) (element : Ty) : List Function :=
  let p := m.property
  let link := m.getterLink b.typeName
  let stored := Term.ownField m.name
  let many := [(elementsVar, TypeExpr.anyIterable (.given element))]
  [changer b (.doc ("Adds an element to the list returned by " ++ link ++ ".") :: m.userDoc)
      p.adder [(elementVar, setterParameter element)] false
      [.run (.method stored (plain "push") [setterConversion element (.var elementVar)])],
    changer b [.doc ("Adds each element to the list returned by " ++ link ++ ".")]
      p.bulkAdder many true
      [.run (.apply .extend [.borrow true stored, .var elementsVar])],
    changer b [.doc ("Replaces the list returned by " ++ link ++ ".")]
      p.setter many true [emptied stored] (.ownMethod p.bulkAdder [.var elementsVar]),
    changer b [.doc ("Removes all elements from the list returned by " ++ link ++ ".")]
      p.clearMethod [] false [emptied stored],
    m.builderGetter [.doc ("Returns the list that will be returned by " ++ link ++ ".")]
      (.term (.ownFieldRef m.name))]

/-- The methods of the builder for the member. -/
def accessors (b : Blueprint) (m : Member) : List Function :=
  match m.role with
  | .single _ => m.singleAccessors b
  | .optional _ => m.optionalAccessors b
  | .list element _ => m.listAccessors b element

theorem name_of_accessors (b : Blueprint) (m : Member) :
    ((m.accessors b).map (·.name)).Perm m.builderMethods := by
  unfold accessors builderMethods
  cases m.role with
  | single default =>
    simp only [singleAccessors]
    cases m.isRequired <;> exact List.Perm.swap _ _ _
  | optional default =>
    simp only [optionalAccessors, changer, builderGetter, setterMethod, List.map_cons,
      List.map_nil, name]
    exact @List.perm_append_comm _ [_, _, _] [_]
  | list element default =>
    simp only [listAccessors, changer, builderGetter, List.map_cons, List.map_nil, name]
    exact @List.perm_append_comm _ [_, _, _, _] [_]

end Member

end TraitBuilder
