import TraitBuilder.Syntax.Expr

/-!
# Signatures of functions

A signature keeps apart everything that a getter may not have: modifiers, generic parameters, other
receivers than `&self`, further parameters.
-/

namespace TraitBuilder

/-- A parameter of a function. -/
inductive Parameter where
  /-- The receiver: its attributes; whether it is taken by reference, with the lifetime if one is
  written; whether it is mutable; and its type if it is annotated with one. -/
  | receiver (attributes : List Attribute) (byReference : Bool) (lifetime : Option Ident)
      (isMut : Bool) (ascription : Option Ty)
  | typed (tokens : Tokens)
  deriving DecidableEq, Repr

/-- The signature of a function. -/
structure Signature where
  isConst : Bool
  isAsync : Bool
  isUnsafe : Bool
  /-- `extern` with the name of the calling convention, if it is written. -/
  convention : Option Tokens
  name : Ident
  generics : Generics
  parameters : List Parameter
  /-- Whether a comma follows the last parameter. -/
  trailingComma : Bool
  /-- The mark of variable arguments after the parameters, if it is written. -/
  variadic : Option Tokens
  output : Option Ty
  deriving DecidableEq, Repr

namespace Parameter

/-- The parameter as syntax writes it. -/
def tokens : Parameter → Tokens
  | .receiver attributes byReference lifetime isMut ascription =>
    attributes.flatMap Attribute.tokens ++
      (if byReference then
        .punct '&' false :: (match lifetime with
          | some x => TraitBuilder.lifetime x
          | none => [])
      else []) ++
      (if isMut then [Token.word "mut"] else []) ++ [Token.word "self"] ++
      (match ascription with
        | some ty => .punct ':' false :: ty.tokens
        | none => [])
  | .typed tokens => tokens

/-- Whether the parameter is a receiver taken by shared reference, without an ascription. -/
def isSharedSelf : Parameter → Bool
  | .receiver _ byReference _ isMut ascription => byReference && !isMut && ascription.isNone
  | .typed _ => false

end Parameter

/-- Sequences with `separator` between them, and after the last one if `trailing`. -/
def joinWith (separator : Tokens) (trailing : Bool) : List Tokens → Tokens
  | [] => []
  | [ts] => ts ++ if trailing then separator else []
  | ts :: rest => ts ++ separator ++ joinWith separator trailing rest

namespace Signature

/-- The tokens between the parentheses. -/
def parameterTokens (s : Signature) : Tokens :=
  joinWith Syntax.comma s.trailingComma (s.parameters.map Parameter.tokens) ++ s.variadic.getD []

/-- The signature as syntax writes it. -/
def tokens (s : Signature) : Tokens :=
  (if s.isConst then [Token.word "const"] else []) ++
  (if s.isAsync then [Token.word "async"] else []) ++
  (if s.isUnsafe then [Token.word "unsafe"] else []) ++
  s.convention.getD [] ++ [Token.word "fn", .ident s.name] ++ s.generics.parameters ++
  [.group .parenthesis s.parameterTokens] ++
  (match s.output with
    | some ty => operator ['-', '>'] ++ ty.tokens
    | none => []) ++
  s.generics.conditionTokens

end Signature

namespace Syntax

/-! ## Parameters -/

/-- Whether a receiver begins the sequence, and no path that begins with `self`. -/
def beginsReceiver (ts : Tokens) : Bool :=
  let ts := if beginsOp "&" ts then
      let ts := next ts
      if beginsLifetime ts then next ts else ts
    else ts
  let ts := if beginsWord "mut" ts then next ts else ts
  beginsWord "self" ts && !beginsOp "::" (next ts)

/-- Reads a receiver after its attributes, without writing it. -/
def receiver (g : Grammar) (attributes : List Attribute) : Reader Parameter := do
  let (p, _) ← captured do
    if ← tryOp "&" then
      let lifetime ← tryLifetime
      let isMut ← tryWord "mut"
      word "self"
      return Parameter.receiver attributes true lifetime isMut none
    let isMut ← tryWord "mut"
    word "self"
    let ascription ← if ← tryOp ":" then pure (some (← g.type)) else pure none
    return Parameter.receiver attributes false none isMut ascription
  return p

/-- What is read between the parentheses of a signature. -/
structure ParametersSoFar where
  found : List Parameter
  trailingComma : Bool
  variadic : Option Tokens

/-- Reads the mark of variable arguments, with what precedes and follows it. -/
def variadicMark (attributes : List Attribute) (named : Reader Unit) : Reader Tokens :=
  tokensOf do
    writeAttributes attributes
    named
    op "..."
    if !(← atEnd) then op ","

/-- Reads a parameter that is no receiver, after its attributes; or the mark of variable arguments
that a name precedes. -/
def typedParameter (g : Grammar) (attributes : List Attribute) :
    Reader (Parameter ⊕ Tokens) := do
  let ts ← look
  if beginsName ts && beginsOp "<" (next ts) then
    return .inl (.typed (← tokensOf do
      writeAttributes attributes
      write [Token.word "_", .punct ':' false]
      discard g.type))
  let ((), tokens) ← captured do
    discard g.pattern
    op ":"
  if ← sees (beginsOp "...") then
    return .inr (← variadicMark attributes (write tokens))
  return .inl (.typed (← tokensOf do
    writeAttributes attributes
    write tokens
    discard g.type))

/-- Whether the parameter is a receiver. -/
def isReceiver : Parameter → Bool
  | .receiver _ _ _ _ _ => true
  | .typed _ => false

/-- Reads a parameter after its attributes, or the mark of variable arguments. -/
def parameter (g : Grammar) (attributes : List Attribute) : Reader (Parameter ⊕ Tokens) := do
  let ts ← look
  if beginsOp "..." ts then return .inr (← variadicMark attributes (pure ()))
  if beginsReceiver ts then return .inl (← receiver g attributes)
  typedParameter g attributes

/-- Reads the parameters of a signature, without writing them. -/
def parameters (g : Grammar) : Reader ParametersSoFar := do
  let step : ParametersSoFar × Bool → Reader (Option (ParametersSoFar × Bool)) :=
    fun (soFar, more) => do
      if !more || (← atEnd) then return none
      match ← parameter g (← outerAttributes g) with
      | .inr mark => return some ({ soFar with variadic := some mark }, false)
      | .inl p =>
        if isReceiver p && !soFar.found.isEmpty then
          throw (.lateReceiver (soFar.found.any isReceiver))
        let found := p :: soFar.found
        if ← atEnd then return some ({ soFar with found := found, trailingComma := false }, false)
        discard (captured (op ","))
        return some ({ soFar with found := found, trailingComma := true }, true)
  let (soFar, _) ← iterate step (⟨[], false, none⟩, true)
  return { soFar with found := soFar.found.reverse }

/-! ## Signatures -/

/-- Reads a signature, without writing it; whether it is marked as safe, as only that of a foreign
function may be. -/
def markedSignature (g : Grammar) (foreign : Bool) : Reader (Signature × Bool) := do
  let (found, _) ← captured do
    let isConst ← tryWord "const"
    let isAsync ← tryWord "async"
    let isSafe ← if foreign then tryWord "safe" else pure false
    let isUnsafe ← if isSafe then pure false else tryWord "unsafe"
    let (hasConvention, convention) ← captured tryConvention
    word "fn"
    let x ← name
    let generics ← genericParameters g
    let ps ← inside .parenthesis (parameters g)
    let output ← resultType g.type
    let conditions ← whereClause g
    return (Signature.mk isConst isAsync isUnsafe (if hasConvention then some convention else none)
      x ⟨generics, conditions⟩ ps.found ps.trailingComma ps.variadic output, isSafe)
  return found

/-- Reads a signature, without writing it. -/
def signature (g : Grammar) : Reader Signature := return (← markedSignature g false).1

/-- Whether a signature begins the sequence; that of a foreign function may be marked as safe. -/
def beginsSignature (foreign : Bool) (ts : Tokens) : Bool :=
  let skip (w : String) (ts : Tokens) : Tokens := if beginsWord w ts then next ts else ts
  let ts := skip "async" (skip "const" ts)
  let ts := if foreign && beginsWord "safe" ts then next ts else skip "unsafe" ts
  let ts := if beginsWord "extern" ts then
      let ts := next ts
      if beginsLiteralOf (· = .string) ts then next ts else ts
    else ts
  beginsWord "fn" ts

end Syntax

end TraitBuilder
