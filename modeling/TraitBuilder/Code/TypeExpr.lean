import TraitBuilder.Code.Library
import TraitBuilder.Syntax.Ty

/-!
# Types in generated code

A type is one that the user wrote, a name, or built from these.  Where two angle brackets of the
generated code close one after the other they are written as one operator `>>`; brackets of a type
that the user wrote stay apart.

* `TypeExpr.tokens_given`: a type that the user wrote is written as it is.
-/

namespace TraitBuilder.Code

/-- The identifier `name`. -/
def plain (name : String) : Ident := ⟨name, false⟩

/-- A type in generated code. -/
inductive TypeExpr where
  /-- A type that the user wrote. -/
  | given (ty : Ty)
  | name (x : Ident)
  /-- A type that belongs to a type parameter. -/
  | associated (parameter member : String)
  | library (path : List String)
  /-- A library type with one argument. -/
  | apply (path : List String) (argument : TypeExpr)
  /-- A library type with a lifetime. -/
  | lifetimed (path : List String) (life : String)
  /-- The result type with the types of success and failure. -/
  | result (ok err : TypeExpr)
  | reference (isMut : Bool) (referent : TypeExpr)
  /-- A reference to text of static lifetime. -/
  | staticText
  | slice (element : TypeExpr)
  /-- Any type with the given bound. -/
  | any (bound : TypeExpr)
  /-- Anything that yields the given elements. -/
  | anyIterable (element : TypeExpr)
  /-- Any type, sized or not, with the given bound. -/
  | anyUnsized (bound : TypeExpr)
  deriving DecidableEq, Repr

namespace TypeExpr

/-- The tokens of a type.  The flag says whether another closing bracket follows. -/
def tokensBefore (closing : Bool) : TypeExpr → Tokens
  | .given ty => ty.tokens
  | .name x => [.ident x]
  | .associated parameter member => [Token.word parameter] ++ colons ++ [Token.word member]
  | .library path => pathTokens path
  | .apply path argument =>
    pathTokens path ++ [.punct '<' false] ++ argument.tokensBefore true ++ [.punct '>' closing]
  | .lifetimed path life =>
    pathTokens path ++ [.punct '<' false] ++ lifetime (plain life) ++ [.punct '>' closing]
  | .result ok err =>
    pathTokens ["core", "result", "Result"] ++ [.punct '<' false] ++ ok.tokensBefore false ++
      [.punct ',' false] ++ err.tokensBefore true ++ [.punct '>' closing]
  | .reference isMut referent =>
    [.punct '&' false] ++ (if isMut then [Token.word "mut"] else []) ++
      referent.tokensBefore closing
  | .staticText => [.punct '&' false] ++ lifetime (plain "static") ++ [Token.word "str"]
  | .slice element => [.group .bracket (element.tokensBefore false)]
  | .any bound => [Token.word "impl"] ++ bound.tokensBefore closing
  | .anyIterable element =>
    [Token.word "impl"] ++ pathTokens ["core", "iter", "IntoIterator"] ++
      [.punct '<' false, Token.word "Item", .punct '=' false] ++ element.tokensBefore true ++
      [.punct '>' closing]
  | .anyUnsized bound =>
    [.group .parenthesis ([Token.word "impl"] ++ bound.tokensBefore false ++
      [.punct '+' false, .punct '?' false] ++ pathTokens ["core", "marker", "Sized"])]

/-- The tokens of a type. -/
def tokens (t : TypeExpr) : Tokens := t.tokensBefore false

@[simp] theorem tokens_given (ty : Ty) : (given ty).tokens = ty.tokens := rfl

@[simp] theorem tokens_name (x : Ident) : (name x).tokens = [.ident x] := rfl

/-! ## Common types -/

/-- The type whose implementation is being written. -/
def self : TypeExpr := .name (plain "Self")

/-- A shared reference. -/
def ref (t : TypeExpr) : TypeExpr := .reference false t

/-- A mutable reference. -/
def refMut (t : TypeExpr) : TypeExpr := .reference true t

/-- An option. -/
def option (t : TypeExpr) : TypeExpr := .apply ["core", "option", "Option"] t

/-- A list. -/
def list (t : TypeExpr) : TypeExpr := .apply ["std", "vec", "Vec"] t

/-- A set. -/
def set (t : TypeExpr) : TypeExpr := .apply ["std", "collections", "BTreeSet"] t

/-- Anything that converts into the type. -/
def convertible (t : TypeExpr) : TypeExpr := .any (.apply ["core", "convert", "Into"] t)

end TypeExpr

end TraitBuilder.Code
