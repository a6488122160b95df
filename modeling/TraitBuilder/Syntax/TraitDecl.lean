import TraitBuilder.Syntax.Signature

/-!
# Traits

A trait keeps its items, its supertraits and the attributes of its methods apart.  Items that carry
a visibility or `default` are kept as they stand.  Bodies of methods are kept as their tokens.
-/

namespace TraitBuilder

/-- An item of a trait. -/
inductive TraitItem where
  /-- A method, with the tokens of its body if it has one. -/
  | method (attributes : List Attribute) (signature : Signature) (body : Option Tokens)
  /-- An associated constant of type `ty`; `value` stands after the sign `=`. -/
  | constant (attributes : List Attribute) (name : Ident) (ty : Ty) (value : Option Tokens)
  /-- An associated type: `rest` stands between the name and the semicolon. -/
  | associatedType (attributes : List Attribute) (name : Ident) (rest : Tokens)
  | macroCall (attributes : List Attribute) (tokens : Tokens)
  /-- An item that is kept as it stands. -/
  | verbatim (tokens : Tokens)
  deriving DecidableEq, Repr

/-- A bound that a trait puts on its implementors. -/
structure Supertrait where
  form : BoundForm
  tokens : Tokens
  deriving DecidableEq, Repr

/-- A trait declaration. -/
structure TraitDecl where
  attributes : List Attribute
  visibility : Tokens
  isUnsafe : Bool
  isAuto : Bool
  name : Ident
  generics : Generics
  supertraits : List Supertrait
  /-- Whether `+` follows the last supertrait. -/
  trailingPlus : Bool
  items : List TraitItem
  deriving DecidableEq, Repr

/-- The tokens of the attributes written before what they describe. -/
def outerTokens (attributes : List Attribute) : Tokens :=
  (attributes.filter (!·.inner)).flatMap Attribute.tokens

/-- The tokens of the attributes written inside of what they describe. -/
def innerTokens (attributes : List Attribute) : Tokens :=
  (attributes.filter (·.inner)).flatMap Attribute.tokens

/-- The semicolon. -/
def semicolon : Token := .punct ';' false

namespace TraitItem

/-- The item as syntax writes it. -/
def tokens : TraitItem → Tokens
  | .method attributes signature body =>
    outerTokens attributes ++ signature.tokens ++
      match body with
      | some content => [.group .brace (innerTokens attributes ++ content)]
      | none => [semicolon]
  | .constant attributes name ty value =>
    outerTokens attributes ++ [Token.word "const", .ident name, .punct ':' false] ++ ty.tokens ++
      (match value with
        | some value => .punct '=' false :: value
        | none => []) ++ [semicolon]
  | .associatedType attributes name rest =>
    outerTokens attributes ++ [Token.word "type", .ident name] ++ rest ++ [semicolon]
  | .macroCall attributes tokens => outerTokens attributes ++ tokens
  | .verbatim tokens => tokens

end TraitItem

namespace TraitDecl

/-- The tokens of the supertraits with the colon before them. -/
def supertraitTokens (t : TraitDecl) : Tokens :=
  if t.supertraits.isEmpty then []
  else .punct ':' false ::
    joinWith [.punct '+' false] t.trailingPlus (t.supertraits.map Supertrait.tokens)

/-- What precedes the braces. -/
def headTokens (t : TraitDecl) : Tokens :=
  outerTokens t.attributes ++ t.visibility ++
  (if t.isUnsafe then [Token.word "unsafe"] else []) ++
  (if t.isAuto then [Token.word "auto"] else []) ++
  [Token.word "trait", .ident t.name] ++ t.generics.parameters ++ t.supertraitTokens ++
  t.generics.conditionTokens

/-- The declaration as syntax writes it. -/
def tokens (t : TraitDecl) : Tokens :=
  t.headTokens ++
    [.group .brace (innerTokens t.attributes ++ t.items.flatMap TraitItem.tokens)]

end TraitDecl

namespace Syntax

/-- The words that `pub` in parentheses restricts a visibility to. -/
def restrictions : List String := ["crate", "self", "super"]

/-- Reads the restriction in parentheses after `pub`, if it is one. -/
def restriction : Reader Unit := do
  match leadingGroup? .parenthesis (← look) with
  | some (content, _) =>
    if beginsAnyWord restrictions content && (next content).isEmpty then
      inside .parenthesis (discard anyIdent)
    else if beginsWord "in" content then
      inside .parenthesis do
        word "in"
        discard namePath
  | none => pure ()

/-- Reads a visibility; an empty invisible group is none. -/
def visibility : Reader Unit := do
  match ← look with
  | .group .invisible [] :: rest => goOn rest
  | ts =>
    if beginsWord "pub" ts then
      word "pub"
      restriction

/-- Reads bounds joined by `+`, without writing them. -/
def supertraits (g : Grammar) : Reader (List Supertrait × Bool) := do
  let stop (ts : Tokens) : Bool := beginsWord "where" ts || beginsGroup .brace ts
  let step : List Supertrait × Bool × Bool → Reader (Option (List Supertrait × Bool × Bool)) :=
    fun (found, _, more) => do
      if !more || (← sees stop) then return none
      let (form, tokens) ← captured (bound g false true)
      if ← sees stop then return some (⟨form, tokens⟩ :: found, false, false)
      discard (captured (op "+"))
      return some (⟨form, tokens⟩ :: found, true, true)
  let (found, plus, _) ← iterate step ([], false, true)
  return (found.reverse, plus)

/-- Reads a method after its attributes. -/
def method (g : Grammar) (attributes : List Attribute) : Reader TraitItem := do
  let s ← signature g
  let ts ← look
  match leadingGroup? .brace ts with
  | some (content, rest) =>
    let (inner, body) ← withContent .brace content rest (do
      let inner ← innerAttributes g
      g.statements
      return inner)
    return .method (attributes ++ inner) s (some body)
  | none =>
    if !beginsOp ";" ts then expectedOneOf Unit ["curly braces", "`;`"]
    discard (captured (op ";"))
    return .method attributes s none

/-- Reads the rest of an associated constant after the word `const`; nothing if it is to be kept as
it stands. -/
def constant (g : Grammar) (attributes : List Attribute) : Reader (Option TraitItem) := do
  let x ← anyIdent
  let generic ← sees (beginsOp "<")
  discard (genericParameters g)
  op ":"
  let ty ← g.type
  let value ← if ← tryOp "=" then pure (some (← g.expr true).tokens) else pure none
  let conditions ← whereClause g
  op ";"
  return if generic || conditions.isSome then none else some (.constant attributes x ty value)

/-- Reads the bounds after the name of an associated type and writes them with their colon, unless
there are none. -/
def associatedBounds (g : Grammar) : Reader Unit := do
  if ← sees (beginsOp ":") then
    let colon ← tokensOf (op ":")
    let stop (ts : Tokens) : Bool := beginsWord "where" ts || beginsOp "=" ts || beginsOp ";" ts
    let bounds ← tokensOf (separated stop "+" g.bound)
    if !bounds.isEmpty then write (colon ++ bounds)

/-- Reads the rest of an associated type after the word `type`. -/
def associatedType (g : Grammar) (attributes : List Attribute) : Reader TraitItem := do
  let x ← name
  let rest ← tokensOf do
    write (← genericParameters g)
    associatedBounds g
    if ← tryOp "=" then discard g.type
    write (Generics.conditionTokens ⟨[], ← whereClause g⟩)
  op ";"
  return .associatedType attributes x rest

/-- Whether a macro call begins the sequence. -/
def beginsItemMacro (ts : Tokens) : Bool :=
  beginsName ts || beginsAnyWord ["self", "super", "crate"] ts || beginsOp "::" ts

/-- What may begin a macro call, in the words of messages. -/
def macroBeginnings : List String := ["identifier", "`self`", "`super`", "`crate`", "`::`"]

/-- Reads a macro call that stands for items. -/
def itemMacro : Reader Unit := do
  discard namePath
  op "!"
  let d ← verbatimGroup
  if d ≠ .brace then op ";"

/-- Reads what the word `const` begins in a trait: a method or an associated constant. -/
def constantOrMethod (g : Grammar) (attributes : List Attribute) : Reader (Option TraitItem) := do
  let following := next (← look)
  if beginsAnyWord ["async", "unsafe", "extern", "fn"] following then
    return some (← method g attributes)
  word "const"
  if !(beginsName following || beginsWord "_" following) then
    expectedOneOf Unit ["identifier", "`_`", "`async`", "`unsafe`", "`extern`", "`fn`"]
  constant g attributes

/-- Reads an item of a trait after its attributes, its visibility and `default`; nothing if the item
is to be kept as it stands. -/
def plainTraitItem (g : Grammar) (attributes : List Attribute) (modified : Bool) :
    Reader (Option TraitItem) := do
  let ts ← look
  if beginsSignature false ts then return some (← method g attributes)
  if beginsWord "const" ts then return ← constantOrMethod g attributes
  if beginsWord "type" ts then
    word "type"
    return some (← associatedType g attributes)
  if !modified && beginsItemMacro ts then
    return some (.macroCall attributes (← tokensOf itemMacro))
  expectedOneOf (Option TraitItem)
    (["`fn`", "`const`", "`type`"] ++ if modified then [] else macroBeginnings)

/-- Reads an item of a trait, without writing it. -/
def traitItem (g : Grammar) : Reader TraitItem := do
  let (item, source) ← withSource do
    let attributes ← outerAttributes g
    let visible ← tokensOf visibility
    let isDefault ← tryWord "default"
    let modified := !visible.isEmpty || isDefault
    let item ← plainTraitItem g attributes modified
    return if modified then none else item
  return item.getD (.verbatim source)

/-- Reads the declaration of a trait after its attributes, without writing it. -/
def traitAfterAttributes (g : Grammar) (attributes : List Attribute) : Reader TraitDecl := do
  let visible ← tokensOf visibility
  let (t, _) ← captured do
    let isUnsafe ← tryWord "unsafe"
    let isAuto ← tryWord "auto"
    word "trait"
    let x ← name
    let generics ← genericParameters g
    let (found, trailingPlus) ← if ← tryOp ":" then supertraits g else pure ([], false)
    let conditions ← whereClause g
    let (inner, items) ← inside .brace do
      let inner ← innerAttributes g
      let items ← collect do
        if ← atEnd then return none
        return some (← traitItem g)
      return (inner, items)
    return TraitDecl.mk (attributes ++ inner) visible isUnsafe isAuto x ⟨generics, conditions⟩
      found trailingPlus items
  return t

end Syntax

end TraitBuilder
