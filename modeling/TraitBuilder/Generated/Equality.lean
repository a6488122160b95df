import TraitBuilder.Generated.Value

/-!
# Equality and hashing

Both built types compare and hash member by member.  Floating point numbers do so by their bit
patterns, so that equal values have equal hashes.

A method that the user provides takes equality or hashing over for the value type; a value then
never equals a partial.

* `comparable_of_ne_float`: members that are no floating point numbers compare as they are.
-/

namespace TraitBuilder

open Code

/-! ## Comparable terms -/

/-- The value at hand in a function on values. -/
def valueVar : Ident := plain "value"

/-- The bit pattern of a floating point number. -/
def bitsOf (t : Term) : Term := .method t (plain "to_bits") []

/-- The function from a floating point number to its bit pattern. -/
def bitsFunction : Term := .closure valueVar (bitsOf (.var valueVar))

/-- A term for a stored member that compares and hashes in agreement. -/
def comparable (m : Member) (layout : Layout) (stored : Term) : Term :=
  if m.elementKind != .float then stored
  else match layout with
    | .plain => bitsOf stored
    | .optional => .apply .mapOption [stored, bitsFunction]
    | .list => .apply .mapEach [.method stored (plain "iter") [], bitsFunction]

theorem comparable_of_ne_float {m : Member} (h : m.elementKind ≠ .float) (layout : Layout)
    (stored : Term) : comparable m layout stored = stored := by
  simp [comparable, h]

/-- Whether a member in the given layout is compared element by element. -/
def comparesElements (m : Member) (layout : Layout) : Bool :=
  m.elementKind = .float && layout = .list

/-! ## Equality -/

/-- What a value is compared with. -/
def otherVar : Ident := plain "other"

/-- The test whether a member of the receiver equals that of the other value. -/
def memberTest (t : Target) (m : Member) : Term :=
  let layout := t.layout m
  let left := comparable m layout (.ownField m.name)
  let right := comparable m layout (.field (.var otherVar) m.name)
  if comparesElements m layout then .apply .equalEach [left, right] else .compare .equal left right

/-- The trait of what can be compared. -/
def equalityTrait : TypeExpr := .library ["core", "cmp", "PartialEq"]

/-- A function that compares the receiver with something. -/
def equalityFunction (other : Ident) (otherType : TypeExpr) (body : Body) : Function where
  name := plain "eq"
  receiver := .shared
  parameters := [(other, .ref otherType)]
  result := some (.name (plain "bool"))
  body := body

namespace Blueprint

/-- The tests that a type compares by, that of the unset properties last. -/
def equalityTests (b : Blueprint) (t : Target) : List Term :=
  b.members.map (memberTest t) ++
    if t = .partialType && b.hasRequired then
      [.compare .equal Member.ownUnset (.field (.var otherVar) unsetField)]
    else []

/-- The comparison member by member. -/
def structuralEquality (b : Blueprint) (t : Target) : Item :=
  let tests := b.equalityTests t
  derivedImpl equalityTrait (t.name b)
    [equalityFunction (markUnused otherVar tests.isEmpty) .self ⟨[], .all tests⟩]

/-- The comparisons of the value type by the method that the user provides. -/
def providedEquality (b : Blueprint) : List Item := [
  derivedImpl equalityTrait b.value
    [equalityFunction otherVar .self
      (.term (.call (.ofTrait b.typeName "eq") [.self, .var otherVar] false))],
  derivedImpl (.apply ["core", "cmp", "PartialEq"] (.name b.partialType)) b.value
    [equalityFunction (markUnused otherVar true) (.name b.partialType) (.term (.truth false))]]

/-- The comparisons of a type. -/
def equalityItems (b : Blueprint) (t : Target) : List Item :=
  match b.standards.equality, t with
  | .final, _ => []
  | .overridable, .value => b.providedEquality
  | _, t => [b.structuralEquality t]

end Blueprint

/-! ## Hashing -/

/-- What the hash is fed to. -/
def stateVar : Ident := plain "state"

/-- Feeds a term to the hash. -/
def hashTerm (t : Term) : Statement :=
  .run (.apply .hash [.borrow false t, .var stateVar])

/-- Feeds a member to the hash. -/
def hashMember (t : Target) (m : Member) : List Statement :=
  let layout := t.layout m
  let stored := Term.ownField m.name
  if comparesElements m layout then [
    hashTerm (.method stored (plain "len") []),
    .each (.one valueVar) (.borrow false stored) [hashTerm (bitsOf (.var valueVar))]]
  else [hashTerm (comparable m layout stored)]

/-- A function that feeds the receiver to a hash. -/
def hashFunction (state : Ident) (body : Body) : Function where
  name := plain "hash"
  typeParameter := .bounded "H" (.library ["core", "hash", "Hasher"])
  receiver := .shared
  parameters := [(state, .refMut (.name (plain "H")))]
  result := none
  body := body

/-- The trait of what can be hashed. -/
def hashTrait : TypeExpr := .library ["core", "hash", "Hash"]

namespace Blueprint

/-- What a type feeds to the hash, the unset properties last. -/
def hashStatements (b : Blueprint) (t : Target) : List Statement :=
  b.members.flatMap (hashMember t) ++
    if t = .partialType && b.hasRequired then [hashTerm Member.ownUnset] else []

/-- The hash member by member. -/
def structuralHash (b : Blueprint) (t : Target) : Item :=
  let statements := b.hashStatements t
  derivedImpl hashTrait (t.name b)
    [hashFunction (markUnused stateVar statements.isEmpty) ⟨statements, .nothing⟩]

/-- The hash of the value type by the method that the user provides. -/
def providedHash (b : Blueprint) : Item :=
  derivedImpl hashTrait b.value
    [hashFunction stateVar
      (.term (.call (.ofTrait b.typeName "hash") [.self, .var stateVar] false))]

/-- The hash of a type. -/
def hashItems (b : Blueprint) (t : Target) : List Item :=
  match b.standards.hashing, t with
  | .final, _ => []
  | .overridable, .value => [b.providedHash]
  | _, t => [b.structuralHash t]

end Blueprint

end TraitBuilder
