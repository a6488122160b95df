import TraitBuilder.Generated.Value

/-!
# Display

Both built types are written as the name of the trait with the members in braces, each with its
label; absent members are left out and the others separated by commas.  Where a member may be
absent, a variable holds the separator that the next member needs.
-/

namespace TraitBuilder

open Code

/-! ## Members -/

/-- Writes a term as it displays itself. -/
def writeDisplayed (t : Term) : Statement :=
  .run (.orReturn (.apply .display [t, .var formatterVar]))

/-- Writes the label of a member and the value that a term refers to. -/
def displayField (m : Member) (value : Term) : List Statement :=
  let label := writeText (.text (m.label ++ "="))
  match m.layout with
  | .list => [
      label,
      writeText (.text "["),
      .each (.numbered indexVar Member.elementVar)
        (.call (.library .enumerate) [.apply .intoIter [value]] true) [
          separateElements,
          writeDisplayed (.var Member.elementVar)],
      writeText (.text "]")]
  | _ => [label, writeDisplayed value]

/-- The variable that holds the separator before the next member. -/
def separatorVar : Ident := plain "separator"

/-- The present value of a member. -/
def presentVar : Ident := plain "value"

namespace Blueprint

/-- Whether some member of a type may be absent. -/
def mayLack (b : Blueprint) (t : Target) : Bool := b.members.any fun m => t.layout m = .optional

/-- Whether a variable holds the separator. -/
def variesSeparator (b : Blueprint) (t : Target) : Bool :=
  1 < b.members.length && b.mayLack t

/-- The text that separates members. -/
def joiner (b : Blueprint) : Term := .constant b.builder commaJoiner

/-- What is written before a member at the given position. -/
def leading (b : Blueprint) (t : Target) (index : Nat) : List Statement :=
  if b.variesSeparator t then [writeText (.var separatorVar)]
  else if index != 0 then [writeText b.joiner]
  else []

/-- What follows a member. -/
def trailing (b : Blueprint) (t : Target) : List Statement :=
  if b.variesSeparator t then [.assign (.var separatorVar) b.joiner] else []

/-- Writes the member at the given position, if it is present. -/
def displayMember (b : Blueprint) (t : Target) (index : Nat) (m : Member) : List Statement :=
  let around (value : Term) : List Statement :=
    b.leading t index ++ displayField m value ++ b.trailing t
  if t.layout m = .optional then
    [.whenSome presentVar (.ownFieldRef m.name) (around (.var presentVar))]
  else around (.ownFieldRef m.name)

/-- Writes members from the given position on. -/
def displayMembers (b : Blueprint) (t : Target) (index : Nat) : List Member → List Statement
  | [] => []
  | m :: rest => b.displayMember t index m ++ b.displayMembers t (index + 1) rest

/-- Writes all members. -/
def displayStatements (b : Blueprint) (t : Target) : List Statement :=
  (if b.variesSeparator t then [.bind true separatorVar (.text "")] else []) ++
    b.displayMembers t 0 b.members

/-- What stands before the members. -/
def displayOpening (b : Blueprint) (t : Target) : String :=
  (match t with
    | .value => ""
    | .partialType => "partial ") ++ b.typeName.spelling ++ "\x7b"

/-- The body that writes an instance. -/
def displayBody (b : Blueprint) (t : Target) : Body :=
  ⟨writeText (.text (b.displayOpening t)) :: b.displayStatements t, writeLast (.text "\x7d")⟩

/-- The display member by member. -/
def structuralDisplay (b : Blueprint) (t : Target) : Item :=
  derivedImpl displayTrait (t.name b) [formatFunction
    (if b.variesSeparator t then [.allow "unused_assignments"] else []) (b.displayBody t)]

/-- The display of the value type by the method that the user provides. -/
def providedDisplay (b : Blueprint) : Item :=
  derivedImpl displayTrait b.value [formatFunction []
    (.term (.call (.ofTrait b.typeName "fmt") [.self, .var formatterVar] false))]

/-- The display of a type. -/
def displayItems (b : Blueprint) (t : Target) : List Item :=
  match b.standards.display, t with
  | .final, _ => []
  | .overridable, .value => [b.providedDisplay]
  | _, t => [b.structuralDisplay t]

/-! ## Debugging -/

/-- The debugging output of a type, which is the same as its display, unless the user implements
it. -/
def debugItems (b : Blueprint) (t : Target) : List Item :=
  if b.debugSupertrait then []
  else [derivedImpl (.library ["core", "fmt", "Debug"]) (t.name b)
    [formatFunction [] (.term (.apply .display [.self, .var formatterVar]))]]

end Blueprint

end TraitBuilder
