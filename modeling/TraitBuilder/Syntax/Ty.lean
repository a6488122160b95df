import TraitBuilder.Token.Basic

/-!
# Types in source text

A type keeps the structure that decides how a getter hands out its value and what stores it: paths
with their last name and first argument, references, slices, and the wrappers around them.  All
other types are kept as their tokens.

* `Ty.bareName?_eq_some_iff`: a bare name is one name without arguments, path or qualification.
-/

namespace TraitBuilder

/-- A path up to the arguments of its last segment. -/
structure PathHead where
  /-- Whether the path begins with a type in angle brackets (`<T as Trait>::`). -/
  qualified : Bool
  /-- What stands before the last segment. -/
  lead : Tokens
  /-- The name of the last segment. -/
  name : Ident
  deriving DecidableEq, Repr

/-- A type. -/
inductive Ty where
  /-- A path whose last segment has no arguments, or arguments of which the first is no type. -/
  | path (head : PathHead) (arguments : Tokens)
  /-- A path whose last segment has a type as its first argument.  `opening` is what stands between
  the name and that type, `more` what stands after it. -/
  | applied (head : PathHead) (opening : Tokens) (first : Ty) (more : Tokens)
  /-- A reference, with its lifetime if one is written. -/
  | reference (lifetime : Option Ident) (isMut : Bool) (referent : Ty)
  | slice (element : Ty)
  /-- A type in parentheses. -/
  | paren (inner : Ty)
  /-- A type in an invisible group. -/
  | group (inner : Ty)
  /-- An object type of a single bound, not marked as an object type; whether the bound stands in
  parentheses. -/
  | soleBound (enclosed : Bool) (bound : Tokens)
  /-- Any other type. -/
  | other (tokens : Tokens)
  deriving DecidableEq, Repr

namespace PathHead

/-- The tokens of the path without the arguments of its last segment. -/
def tokens (p : PathHead) : Tokens := p.lead ++ [.ident p.name]

/-- The path that is one name. -/
def ofIdent (x : Ident) : PathHead := ⟨false, [], x⟩

end PathHead

namespace Ty

/-- The type as syntax writes it. -/
def tokens : Ty → Tokens
  | .path head arguments => head.tokens ++ arguments
  | .applied head opening first more => head.tokens ++ opening ++ first.tokens ++ more
  | .reference lifetime isMut referent =>
    .punct '&' false ::
      ((match lifetime with
        | some x => TraitBuilder.lifetime x
        | none => []) ++
      (if isMut then [Token.word "mut"] else []) ++ referent.tokens)
  | .slice element => [.group .bracket element.tokens]
  | .paren inner => [.group .parenthesis inner.tokens]
  | .group inner => [.group .invisible inner.tokens]
  | .soleBound enclosed bound => if enclosed then [.group .parenthesis bound] else bound
  | .other tokens => tokens

/-- The type that is one name. -/
def ofIdent (x : Ident) : Ty := .path (.ofIdent x) []

/-- The type inside all parentheses and invisible groups around it. -/
def unwrapped : Ty → Ty
  | .paren inner => inner.unwrapped
  | .group inner => inner.unwrapped
  | ty => ty

/-- The last name of a path that is not qualified. -/
def lastName? (ty : Ty) : Option Ident :=
  match ty.unwrapped with
  | .path head _ => if head.qualified then none else some head.name
  | .applied head _ _ _ => if head.qualified then none else some head.name
  | _ => none

/-- The first argument of the last segment of a path, if it is a type. -/
def firstArgument? (ty : Ty) : Option Ty :=
  match ty.unwrapped with
  | .applied _ _ first _ => some first
  | _ => none

/-- The name of a type that is one name without arguments. -/
def bareName? (ty : Ty) : Option Ident :=
  match ty.unwrapped with
  | .path ⟨false, [], name⟩ [] => some name
  | _ => none

theorem bareName?_eq_some_iff {ty : Ty} {x : Ident} :
    ty.bareName? = some x ↔ ty.unwrapped = ofIdent x := by
  unfold bareName? ofIdent PathHead.ofIdent
  split
  · rename_i h; simp [h]
  · rename_i h
    constructor
    · simp
    · intro e; exact absurd e (h x)

end Ty

/-- How the values of a type compare and are handed over. -/
inductive TypeKind where
  | float
  | primitive
  | reference
  deriving DecidableEq, Repr

namespace TypeKind

/-- The names of the floating point types. -/
def floatNames : List String := ["f32", "f64"]

/-- The names of the other primitive types. -/
def primitiveNames : List String := [
  "bool", "char", "i8", "i16", "i32", "i64", "i128", "isize", "u8", "u16", "u32", "u64", "u128",
  "usize"]

/-- The kind of a type, judged by its bare name; every other type is handled by reference. -/
def of (ty : Ty) : TypeKind :=
  match ty.bareName? with
  | some x =>
    if floatNames.contains x.spelling then .float
    else if primitiveNames.contains x.spelling then .primitive
    else .reference
  | none => .reference

/-- Whether values of the kind are taken and given by copy. -/
def isPrimitive (k : TypeKind) : Bool := k != .reference

end TypeKind

end TraitBuilder
