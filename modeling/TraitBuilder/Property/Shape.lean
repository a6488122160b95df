import TraitBuilder.Syntax.Ty

/-!
# Shapes

A getter hands out its value by reference, owned, or as an option of either.  Its type decides
which, and what type stores the value: a shared reference is stored as what it refers to, with an
owned type in place of `str` and of a slice, and an option is stored without the option.

* `Shape.ofReturnType?`: the shape and the stored type of a return type.
-/

namespace TraitBuilder

/-- How a getter hands out the stored value. -/
inductive Shape where
  /-- A reference to the stored value, or to what it derefs to. -/
  | ref
  /-- The stored value itself. -/
  | owned
  /-- The stored option itself. -/
  | optionOwned
  /-- An option of a reference into the stored option; `deref` says whether the reference is to what
  the value derefs to. -/
  | optionRef (deref : Bool)
  deriving DecidableEq, Repr

/-- Why a return type has no shape. -/
inductive ShapeFault where
  | mutableReference
  /-- A reference with a named lifetime other than `'static`. -/
  | namedLifetime
  | optionWithoutType
  deriving DecidableEq, Repr

/-- The wording of the fault. -/
def ShapeFault.message : ShapeFault → String
  | .mutableReference => "property getters cannot return mutable references"
  | .namedLifetime =>
    "property getters may only return references with an elided or `'static` lifetime"
  | .optionWithoutType => "expected `Option` to have a type argument"

/-! ## Stored types -/

/-- The path `:: std :: modName :: name` without arguments. -/
def PathHead.inStd (modName name : String) : PathHead :=
  let colons := operator [':', ':']
  ⟨false, colons ++ [Token.word "std"] ++ colons ++ [Token.word modName] ++ colons, ⟨name, false⟩⟩

/-- The owned text type. -/
def Ty.ownedText : Ty := .path (.inStd "string" "String") []

/-- The owned list type with the given elements. -/
def Ty.ownedList (element : Ty) : Ty :=
  .applied (.inStd "vec" "Vec") [.punct '<' false] element [.punct '>' false]

/-- The type that stores what a reference refers to, and whether it only derefs to that. -/
def referentStorage (referent : Ty) : Ty × Bool :=
  match referent.bareName?, referent with
  | some x, _ => if x.is "str" then (.ownedText, true) else (referent, false)
  | none, .slice element => (.ownedList element, true)
  | none, _ => (referent, false)

/-- Whether the last name of the type is `Option`. -/
def Ty.isOption (ty : Ty) : Bool :=
  match ty.lastName? with
  | some x => x.is "Option"
  | none => false

/-! ## The shape of a return type -/

namespace Shape

/-- The shape of a reference: whether it is mutable and what lifetime is written decide whether it
is stored as it is (`asIs`) or as its referent (`stored`). -/
def ofReference? (lifetime : Option Ident) (isMut : Bool) (asIs stored : Shape × Ty) :
    Except ShapeFault (Shape × Ty) :=
  if isMut then .error .mutableReference
  else match lifetime with
    | none => .ok stored
    | some x => if x.is "static" then .ok asIs else .error .namedLifetime

/-- The shape and the stored type of an option of `argument`. -/
def ofOptionArgument? (argument : Ty) : Except ShapeFault (Shape × Ty) :=
  match argument with
  | .reference lifetime isMut referent =>
    let (stored, deref) := referentStorage referent
    ofReference? lifetime isMut (.optionOwned, argument) (.optionRef deref, stored)
  | argument => .ok (.optionOwned, argument)

/-- The shape and the stored type of a return type. -/
def ofReturnType? (ty : Ty) : Except ShapeFault (Shape × Ty) :=
  match ty with
  | .reference lifetime isMut referent =>
    ofReference? lifetime isMut (.owned, ty) (.ref, (referentStorage referent).1)
  | ty =>
    if ty.isOption then
      match ty.firstArgument? with
      | some argument => ofOptionArgument? argument
      | none => .error .optionWithoutType
    else .ok (.owned, ty)

end Shape

end TraitBuilder
