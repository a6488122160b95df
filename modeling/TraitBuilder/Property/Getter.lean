import TraitBuilder.Argument.Default
import TraitBuilder.Property.Basic

/-!
# Getters

A getter is a plain method without a body that takes `&self` and nothing else, returns a value whose
type has a shape, and does not bear the name of a method that every builder has.

* `Property.ofGetter?`: the property that a signature declares, or what is wrong with it.
-/

namespace TraitBuilder

/-- The methods that every builder has. -/
def reservedNames : List String :=
  ["new", "build", "build_partial", "clear", "merge_from", "merge_from_builder"]

/-- Why a signature is not that of a getter. -/
inductive GetterFault where
  /-- It is constant, asynchronous, unsafe or of a foreign convention. -/
  | modified
  | generic
  | parameters
  | noResult
  | reserved (name : Ident)
  | shape (fault : ShapeFault)
  deriving DecidableEq, Repr

/-- The wording of the fault. -/
def GetterFault.message : GetterFault → String
  | .modified => "property getters must be plain, safe functions"
  | .generic => "property getters cannot be generic"
  | .parameters => "property getters must take `&self` and nothing else"
  | .noResult => "property getters must return a value"
  | .reserved name => "`" ++ name.spelling ++ "` collides with a generated builder method"
  | .shape fault => fault.message

namespace Signature

/-- Whether the function has a modifier. -/
def isModified (s : Signature) : Bool :=
  s.isConst || s.isAsync || s.isUnsafe || s.convention.isSome

/-- Whether the function takes a shared reference to `self` and no further parameter. -/
def takesSharedSelf (s : Signature) : Bool :=
  match s.parameters with
  | [p] => p.isSharedSelf
  | _ => false

/-- Whether every builder has a method of this name. -/
def isReserved (s : Signature) : Bool := reservedNames.any s.name.is

end Signature

/-- The property that a getter of the given signature and attributes declares. -/
def Property.ofGetter? (s : Signature) (attributes : List Attribute) :
    Except GetterFault Property :=
  if s.isModified then .error .modified
  else if !s.generics.isPlain then .error .generic
  else if !s.takesSharedSelf then .error .parameters
  else match s.output with
    | none => .error .noResult
    | some returnType =>
      if s.isReserved then .error (.reserved s.name)
      else match Shape.ofReturnType? returnType with
        | .error fault => .error (.shape fault)
        | .ok (shape, ty) => .ok ⟨s.name, returnType, ty, shape, docAttributes attributes⟩

theorem Property.name_of_ofGetter? {s : Signature} {attributes : List Attribute} {p : Property}
    (h : Property.ofGetter? s attributes = .ok p) : p.name = s.name := by
  unfold Property.ofGetter? at h
  grind

end TraitBuilder
