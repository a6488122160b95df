import TraitBuilder.Syntax.Bound
import TraitBuilder.Syntax.FieldName

/-!
# Reading types

Types are read into `Ty`, without being written.  `&` and `*` bind more tightly than the `+` between
bounds.  A type in an invisible group stays one, unless a path goes on after the group: the group
then is only the beginning of that path.
-/

namespace TraitBuilder.Syntax

/-! ## Object types and opaque types -/

/-- Reads the bounds of an object type; one of them must be a trait. -/
def objectBounds (g : Grammar) (allowPlus : Bool) : Reader Unit := do
  let found ← bounds g allowPlus false false
  if !found.any (· matches .trait_ _) then throw .objectWithoutTrait

/-- Reads the bounds of an opaque type; one of them must be a trait. -/
def opaqueBounds (g : Grammar) (allowPlus : Bool) : Reader Unit := do
  let found ← bounds g allowPlus true true
  if !found.any (· matches .trait_ _ | .conditional) then throw .opaqueWithoutTrait

/-- Reads bounds after the first one of an object type. -/
def furtherBounds (g : Grammar) : Reader Unit :=
  repeatWhile do
    if ← tryOp "+" then
      discard (bound g false false)
      return true
    else return false

/-! ## Function types -/

/-- Reads the name of a calling convention after `extern`, if there is one. -/
def conventionName : Reader Unit := do
  if ← sees (beginsLiteralOf (· = .string)) then discard literal

/-- Reads `extern` and the name of a calling convention, if they come next. -/
def tryConvention : Reader Bool := do
  if ← tryWord "extern" then
    conventionName
    return true
  else return false

/-- Whether `mut self` begins the sequence. -/
def beginsMutSelf (ts : Tokens) : Bool := beginsWord "mut" ts && beginsWord "self" (next ts)

/-- Whether a colon begins the sequence, and no double colon. -/
def beginsColon (ts : Tokens) : Bool := beginsOp ":" ts && !beginsOp "::" ts

/-- Whether the three dots of variable arguments begin the sequence, perhaps after a name. -/
def beginsVariadic (ts : Tokens) : Bool :=
  beginsOp "..." ts
    || ((beginsName ts || beginsWord "_" ts) && beginsOp ":" (next ts)
      && beginsOp "..." (next (next ts)))

/-- Reads the three dots of variable arguments, perhaps after a name, and a comma. -/
def variadicType : Reader Unit := do
  if !(← sees (beginsOp "...")) then
    discard anyIdent
    op ":"
  op "..."
  discard (tryOp ",")

/-- Reads a parameter of a function type after its attributes; only the first one may be a receiver.
Whether it is written as it stands, as a mutable receiver is. -/
def parameterType (g : Grammar) (first : Bool) : Reader Bool := do
  let isMut := first && (← sees beginsMutSelf)
  if isMut then word "mut"
  let ts ← look
  let isSelf := first && beginsWord "self" ts
  let named := (beginsName ts || beginsWord "_" ts || isSelf) && beginsColon (next ts)
  if named then
    discard anyIdent
    op ":"
  if first && !(named && isSelf) && (← sees beginsMutSelf) then
    word "mut"
    word "self"
    return true
  if isMut && !named then
    word "self"
    return true
  discard g.type
  return isMut

/-- Reads the parameters of a function type. -/
def parameterTypes (g : Grammar) : Reader Unit :=
  discard <| iterate (fun (first, more) => do
    if !more || (← atEnd) then return none
    copyOuterAttributes g
    if ← sees beginsVariadic then
      variadicType
      return some (false, false)
    discard (copyingIf id (parameterType g first))
    if ← atEnd then return some (false, false)
    op ","
    return some (false, true)) (true, true)

/-- Reads a function type. -/
def functionType (g : Grammar) : Reader Unit := do
  discard (tryWord "unsafe")
  discard tryConvention
  word "fn"
  inside .parenthesis (parameterTypes g)
  discard (resultType g.typeWithoutPlus)

/-! ## Types that begin otherwise -/

/-- Whether a type can be the first bound of an object type when it stands in parentheses: the
tokens of that bound. -/
def boundOfTy? : Ty → Option Tokens
  | .path head arguments => if head.qualified then none else some (head.tokens ++ arguments)
  | .applied head opening first more =>
    if head.qualified then none else some (Ty.applied head opening first more).tokens
  | .soleBound _ tokens => some tokens
  | _ => none

/-- Reads the further elements of a tuple after its first element. -/
def furtherElements (g : Grammar) : Reader Unit := do
  op ","
  discard (commaSeparated g.type)

/-- Reads what a parenthesis begins: the unit, a tuple, a type in parentheses, or the first bound of
an object type. -/
def parenthesizedType (g : Grammar) (allowPlus : Bool) (content rest : Tokens) : Reader Ty := do
  if content.isEmpty then
    goOn rest
    return .other [.group .parenthesis []]
  if beginsLifetime content then
    let (bounds, _) ← captured (inside .parenthesis (tokensOf (objectBounds g true)))
    return .paren (.other bounds)
  if beginsOp "?" content then
    let (first, _) ← captured (inside .parenthesis (tokensOf (traitBound g false)))
    let more ← tokensOf (furtherBounds g)
    if more.isEmpty then return .soleBound true first
    return .other (.group .parenthesis first :: more)
  let (first?, tokens) ← captured <| inside .parenthesis do
    let first ← g.type
    if ← sees (beginsOp ",") then
      furtherElements g
      return none
    return some first
  match first? with
  | none => return .other tokens
  | some first =>
    match boundOfTy? first with
    | some bound =>
      if allowPlus && (← sees (beginsOp "+")) then
        return .other (.group .parenthesis bound :: (← tokensOf (furtherBounds g)))
      return .paren first
    | none => return .paren first

/-- Reads the rest of a type that a path begins.  A binder makes it a bound, but a macro call loses
its binder. -/
def pathType (g : Grammar) (allowPlus : Bool) (binder : Tokens) : Reader Ty := do
  let p ← path g false
  if p.head.qualified then return p.toTy
  let ts ← look
  if beginsOp "!" ts && !beginsOp "!=" ts && p.plain then
    return .other (← tokensOf do
      write p.tokens
      op "!"
      discard verbatimGroup)
  let more ← tokensOf do
    if allowPlus && beginsOp "+" ts then
      op "+"
      if ← sees (beginsBound false) then discard (bounds g true false false)
  if !more.isEmpty then return .other (binder ++ p.tokens ++ more)
  return if binder.isEmpty then p.toTy else .soleBound false (binder ++ p.tokens)

/-- Whether what the language itself provides begins the sequence. -/
def beginsBuiltin (ts : Tokens) : Bool := beginsWord "builtin" ts && beginsOp "#" (next ts)

/-- Reads the use of what the language itself provides. -/
def builtin : Reader Unit := do
  word "builtin"
  op "#"
  discard name
  match leadingGroup? .parenthesis (← look) with
  | some (_, rest) => goOn rest
  | none => expected Unit "parentheses"

/-- Reads an object type that is marked as such.  One with a star is kept as it stands. -/
def objectType (g : Grammar) (allowPlus : Bool) : Reader Unit :=
  discard <| copyingIf id do
    word "dyn"
    let starred ← tryOp "*"
    objectBounds g allowPlus
    return starred

/-- Reads what brackets enclose: the element of a slice, or nothing if it is that of an array. -/
def bracketedType (g : Grammar) : Reader (Option Ty) :=
  inside .bracket do
    let element ← g.type
    if ← tryOp ";" then
      g.copyExpr
      return none
    return some element

/-- Reads a type of raw pointers. -/
def pointerType (g : Grammar) : Reader Unit := do
  op "*"
  if !(← tryWord "const") && !(← tryWord "mut") then expectedOneOf Unit ["`const`", "`mut`"]
  discard g.typeWithoutPlus

/-- Reads a reference type up to the type it refers to. -/
def referenceMark : Reader (Option Ident × Bool) := do
  op "&"
  let lifetime ← tryLifetime
  return (lifetime, ← tryWord "mut")

/-! ## All types -/

/-- Whether a path begins the sequence. -/
def beginsPath (ts : Tokens) : Bool :=
  beginsName ts || beginsAnyWord pathWords ts || beginsOp "::" ts || beginsOp "<" ts

/-- The words that may begin a type after a binder, besides names. -/
def boundWords : List String := ["fn", "unsafe", "extern", "super", "self", "Self", "crate"]

/-- What may follow a binder, in the words of messages. -/
def boundBeginnings : List String := "identifier" :: boundWords.map fun w => "`" ++ w ++ "`"

/-- What may begin a type, in the words of messages. -/
def typeBeginnings : List String := [
  "`for`", "parentheses", "`fn`", "`unsafe`", "`extern`", "identifier", "`::`", "`<`", "`dyn`",
  "square brackets", "`*`", "`&`", "`!`", "`impl`", "`_`", "lifetime"]

/-- Reads a type that no invisible group begins. -/
def plainType (g : Grammar) (allowPlus : Bool) : Reader Ty := do
  let before ← look
  let binder ← tokensOf (tryForParameters g)
  let ts ← look
  if !binder.isEmpty && !(beginsName ts || beginsAnyWord boundWords ts) then
    return ← expectedOneOf Ty boundBeginnings
  match leadingGroup? .parenthesis ts with
  | some (content, rest) => return ← parenthesizedType g allowPlus content rest
  | none => pure ()
  if beginsAnyWord ["fn", "unsafe", "extern"] ts then
    return .other (binder ++ (← tokensOf (functionType g)))
  if beginsBuiltin ts then
    discard (captured builtin)
    return .other (← sourceSince before)
  if beginsPath ts then return ← pathType g allowPlus binder
  if beginsWord "dyn" ts then return .other (← tokensOf (objectType g allowPlus))
  if beginsGroup .bracket ts then
    let (slice?, tokens) ← captured (bracketedType g)
    return match slice? with
      | some element => .slice element
      | none => .other tokens
  if beginsOp "*" ts then return .other (← tokensOf (pointerType g))
  if beginsOp "&" ts then
    let ((lifetime, isMut), _) ← captured referenceMark
    return .reference lifetime isMut (← g.ty false true)
  if beginsOp "!" ts then return .other (← tokensOf (op "!"))
  if beginsWord "impl" ts then
    return .other (← tokensOf do
      word "impl"
      opaqueBounds g allowPlus)
  if beginsWord "_" ts then return .other (← tokensOf anyIdent)
  if beginsLifetime ts then return .other (← tokensOf (objectBounds g true))
  expectedOneOf Ty typeBeginnings

/-- The path that goes on after a type in an invisible group.  What is no path itself stands in
angle brackets before it. -/
def pathAfter (g : Grammar) (inner : Ty) : Reader PathTree := do
  match PathTree.ofTy? inner with
  | some p => moreSegments g false p
  | none =>
    let separator ← tokensOf (op "::")
    let (x, arguments) ← segment g false
    let lead := .punct '<' false :: inner.tokens ++ .punct '>' false :: separator
    moreSegments g false (.single true lead x arguments)

/-- Reads what may follow a type in an invisible group. -/
def afterGroupedType (g : Grammar) (allowArguments : Bool) (inner : Ty) : Reader Ty := do
  let ts ← look
  if beginsOp "::" ts && beginsIdent (next (next ts)) then return (← pathAfter g inner).toTy
  if (beginsOp "<" ts && allowArguments)
      || (beginsOp "::" ts && beginsOp "<" (next (next ts))) then
    match PathTree.ofTy? inner with
    | some p =>
      if p.arguments.isNone then
        return (← moreSegments g false (p.withArguments (← angleArguments g))).toTy
    | none => pure ()
  return .group inner

/-- Reads a type, without writing it. -/
def readType (g : Grammar) (allowPlus allowArguments : Bool) : Reader Ty := do
  if ← sees beginsInvisible then
    let (inner, _) ← insideInvisible (g.ty true true)
    afterGroupedType g allowArguments inner
  else plainType g allowPlus

end TraitBuilder.Syntax
