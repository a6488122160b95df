import TraitBuilder.Code.Statement
import TraitBuilder.Syntax.Attribute

/-!
# Items in generated code

Functions, structures, enumerations and implementations, with their attributes.

* `Implementation.functions`: the functions of an implementation.
-/

namespace TraitBuilder.Code

/-! ## Attributes -/

/-- An attribute of generated code. -/
inductive Decoration where
  /-- Documentation that names something. -/
  | doc (text : String)
  /-- A line of fixed documentation. -/
  | line (text : String)
  | derive (paths : List (List String)) (trailingComma : Bool)
  | automaticallyDerived
  | mustUse (reason : String)
  | allow (lint : String)
  /-- Missing fields are filled in when the structure is read. -/
  | fillMissing
  /-- Documentation that the user wrote. -/
  | given (a : Attribute)
  deriving DecidableEq, Repr

namespace Decoration

/-- An attribute with the given content. -/
def wrap (content : Tokens) : Tokens := [.punct '#' false, .group .bracket content]

/-- An attribute with a name and a value. -/
def named (name : String) (value : Token) : Tokens :=
  wrap [Token.word name, .punct '=' false, value]

/-- An attribute with a name and a list. -/
def listed (name : String) (content : Tokens) : Tokens :=
  wrap [Token.word name, .group .parenthesis content]

/-- Paths with commas between them. -/
def pathList (trailingComma : Bool) : List (List String) → Tokens
  | [] => []
  | [path] => pathTokens path ++ if trailingComma then [.punct ',' false] else []
  | path :: rest => pathTokens path ++ [.punct ',' false] ++ pathList trailingComma rest

/-- The tokens of an attribute. -/
def tokens : Decoration → Tokens
  | .doc text => named "doc" (Token.string text)
  | .line text => named "doc" (.literal ("r\"" ++ text ++ "\""))
  | .derive paths trailingComma => listed "derive" (pathList trailingComma paths)
  | .automaticallyDerived => wrap [Token.word "automatically_derived"]
  | .mustUse reason => named "must_use" (Token.string reason)
  | .allow lint => listed "allow" [Token.word lint]
  | .fillMissing => listed "serde" [Token.word "default"]
  | .given a => a.tokens

/-- The tokens of attributes. -/
def tokensOfAll (decorations : List Decoration) : Tokens := decorations.flatMap tokens

end Decoration

/-! ## Functions -/

/-- How a function takes its receiver. -/
inductive Receiver where
  | none
  | byValue
  | shared
  | mutable
  deriving DecidableEq, Repr

/-- The type parameter of a function. -/
inductive TypeParameter where
  | none
  /-- With its bound beside it. -/
  | bounded (name : String) (bound : TypeExpr)
  /-- With its bound after the result type. -/
  | constrained (name : String) (bound : TypeExpr)
  deriving DecidableEq, Repr

/-- A generated function. -/
structure Function where
  decorations : List Decoration := []
  isPublic : Bool := false
  name : Ident
  typeParameter : TypeParameter := .none
  receiver : Receiver
  parameters : List (Ident × TypeExpr) := []
  /-- Whether a comma follows the last parameter. -/
  trailingComma : Bool := false
  result : Option TypeExpr
  body : Body
  deriving Repr

/-- Sequences with commas between them. -/
def commaJoined (trailingComma : Bool) : List Tokens → Tokens
  | [] => []
  | [ts] => ts ++ if trailingComma then [.punct ',' false] else []
  | ts :: rest => ts ++ [.punct ',' false] ++ commaJoined trailingComma rest

/-- The receiver as a parameter. -/
def Receiver.tokens : Receiver → List Tokens
  | .none => []
  | .byValue => [[Token.word "self"]]
  | .shared => [[.punct '&' false, Token.word "self"]]
  | .mutable => [[.punct '&' false, Token.word "mut", Token.word "self"]]

namespace TypeParameter

/-- What stands between the name and the parameters of a function. -/
def tokens : TypeParameter → Tokens
  | .none => []
  | .bounded name bound =>
    [.punct '<' false, Token.word name, .punct ':' false] ++ bound.tokensBefore true ++
      [.punct '>' false]
  | .constrained name _ => [.punct '<' false, Token.word name, .punct '>' false]

/-- What stands between the result type and the body of a function. -/
def conditions : TypeParameter → Tokens
  | .none => []
  | .bounded _ _ => []
  | .constrained name bound =>
    [Token.word "where", Token.word name, .punct ':' false] ++ bound.tokens ++ [.punct ',' false]

end TypeParameter

namespace Function

/-- The tokens between the parentheses of a function. -/
def parameterTokens (f : Function) : Tokens :=
  commaJoined f.trailingComma
    (f.receiver.tokens ++ f.parameters.map fun (x, t) => [.ident x, .punct ':' false] ++ t.tokens)

/-- The tokens of a function. -/
def tokens (f : Function) : Tokens :=
  Decoration.tokensOfAll f.decorations ++ (if f.isPublic then [Token.word "pub"] else []) ++
  [Token.word "fn", .ident f.name] ++ f.typeParameter.tokens ++
  [.group .parenthesis f.parameterTokens] ++
  (match f.result with
    | some t => operator ['-', '>'] ++ t.tokens
    | none => []) ++
  f.typeParameter.conditions ++ [.group .brace f.body.tokens]

end Function

/-! ## Structures, enumerations and implementations -/

/-- A generated structure. -/
structure Structure where
  decorations : List Decoration
  visibility : Tokens
  name : Ident
  fields : List (Ident × TypeExpr)
  deriving Repr

/-- A generated enumeration, each variant with its documentation. -/
structure Enumeration where
  decorations : List Decoration
  visibility : Tokens
  name : Ident
  variants : List (String × Ident)
  deriving Repr

/-- What an implementation contains. -/
inductive AssociatedItem where
  | function (f : Function)
  /-- A constant text. -/
  | text (name : Ident) (value : String)
  deriving Repr

/-- An implementation of a trait, or of the functions of a type itself. -/
structure Implementation where
  decorations : List Decoration := []
  /-- The lifetime that the implementation is for all of, if there is one. -/
  lifetime : Option String := none
  trait? : Option TypeExpr
  target : TypeExpr
  items : List AssociatedItem
  deriving Repr

/-- A generated item. -/
inductive Item where
  | structure_ (s : Structure)
  | enumeration (e : Enumeration)
  | implementation (i : Implementation)
  /-- A structure and an implementation that nothing else sees. -/
  | hidden (s : Structure) (i : Implementation)
  deriving Repr

/-- The tokens of one field of a structure. -/
def fieldTokens (name : Ident) (t : TypeExpr) : Tokens :=
  [.ident name, .punct ':' false] ++ t.tokens ++ [.punct ',' false]

/-- The tokens of a structure. -/
def Structure.tokens (s : Structure) : Tokens :=
  Decoration.tokensOfAll s.decorations ++ s.visibility ++ [Token.word "struct", .ident s.name,
    .group .brace (s.fields.flatMap fun (name, t) => fieldTokens name t)]

/-- The tokens of an enumeration. -/
def Enumeration.tokens (e : Enumeration) : Tokens :=
  Decoration.tokensOfAll e.decorations ++ e.visibility ++ [Token.word "enum", .ident e.name,
    .group .brace (e.variants.flatMap fun (doc, variant) =>
      (Decoration.doc doc).tokens ++ [.ident variant, .punct ',' false])]

namespace AssociatedItem

/-- The tokens of an associated item. -/
def tokens : AssociatedItem → Tokens
  | .function f => f.tokens
  | .text name value =>
    [Token.word "const", .ident name, .punct ':' false, .punct '&' false, Token.word "str",
      .punct '=' false, Token.string value, .punct ';' false]

/-- The function that the item is. -/
def function? : AssociatedItem → Option Function
  | .function f => some f
  | .text _ _ => none

/-- The name of the item. -/
def name : AssociatedItem → Ident
  | .function f => f.name
  | .text name _ => name

end AssociatedItem

namespace Implementation

/-- The functions of the implementation. -/
def functions (i : Implementation) : List Function := i.items.filterMap AssociatedItem.function?

/-- The tokens of an implementation. -/
def tokens (i : Implementation) : Tokens :=
  Decoration.tokensOfAll i.decorations ++ [Token.word "impl"] ++
  (match i.lifetime with
    | some name => [.punct '<' false] ++ TraitBuilder.lifetime (plain name) ++ [.punct '>' false]
    | none => []) ++
  (match i.trait? with
    | some t => t.tokens ++ [Token.word "for"]
    | none => []) ++
  i.target.tokens ++ [.group .brace (i.items.flatMap AssociatedItem.tokens)]

end Implementation

/-- The tokens of an item. -/
def Item.tokens : Item → Tokens
  | .structure_ s => s.tokens
  | .enumeration e => e.tokens
  | .implementation i => i.tokens
  | .hidden s i =>
    [Token.word "const", Token.word "_", .punct ':' false, .group .parenthesis [],
      .punct '=' false, .group .brace (s.tokens ++ i.tokens), .punct ';' false]

end TraitBuilder.Code
