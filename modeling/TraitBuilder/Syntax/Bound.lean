import TraitBuilder.Syntax.Attribute

/-!
# Bounds, generic parameters and where clauses

A bound is kept as its tokens and, if it names a trait, the last name of its path.  An empty list of
parameters and an empty where clause are not written, but an empty where clause is still seen.
-/

namespace TraitBuilder

/-- What a bound asks for. -/
inductive BoundForm where
  /-- A trait, by the last name of its path. -/
  | trait_ (name : Ident)
  /-- A trait in constant contexts. -/
  | conditional
  | lifetime
  /-- The names that a hidden type may use. -/
  | captures
  deriving DecidableEq, Repr

/-- Generic parameters and a where clause. -/
structure Generics where
  /-- The parameters in angle brackets, or nothing if there are none. -/
  parameters : Tokens
  /-- What follows `where`, if it is written. -/
  conditions : Option Tokens
  deriving DecidableEq, Repr

namespace Generics

/-- Whether there is neither a parameter nor the word `where`. -/
def isPlain (g : Generics) : Bool := g.parameters.isEmpty && g.conditions.isNone

/-- The where clause as syntax writes it. -/
def conditionTokens (g : Generics) : Tokens :=
  match g.conditions with
  | none => []
  | some [] => []
  | some conditions => Token.word "where" :: conditions

end Generics

namespace Syntax

/-! ## Generic parameters -/

/-- Reads the bounds after the name of a parameter and writes them with their colon, unless there
are none. -/
def parameterBounds (stop : Tokens → Bool) (bound : Reader Unit) : Reader Unit := do
  if ← sees (beginsOp ":") then
    let colon ← tokensOf (op ":")
    let bounds ← tokensOf (boundsUpTo stop bound)
    if !bounds.isEmpty then write (colon ++ bounds)

/-- Reads a parameter that is a lifetime, with its bounds. -/
def lifetimeParameter : Reader Unit := do
  discard lifetimeName
  parameterBounds (fun ts => ts.isEmpty || beginsOp "," ts || beginsOp ">" ts)
    (discard lifetimeName)

/-- Reads a parameter that is a type, with its bounds and its default. -/
def typeParameter (g : Grammar) : Reader Unit := do
  discard name
  parameterBounds (fun ts => beginsOp "," ts || beginsOp ">" ts || beginsOp "=" ts) g.bound
  if ← tryOp "=" then discard g.type

/-- Reads a parameter that is a constant, with its type and its default. -/
def constantParameter (g : Grammar) : Reader Unit := do
  word "const"
  discard name
  op ":"
  discard g.type
  if ← tryOp "=" then constantArgument g

/-- Reads an element of generic parameters after its attributes; `wanted` is what an element may
begin with, in words.  Whether it is a lifetime. -/
def genericParameter (g : Grammar) (wanted : List String) : Reader Bool := do
  let ts ← look
  if beginsLifetime ts then
    lifetimeParameter
    return true
  if beginsName ts then typeParameter g
  else if beginsWord "const" ts then constantParameter g
  else expectedOneOf Unit wanted
  return false

/-- Reads an element of a list of generic parameters, where `_` stands for a type without a name. -/
def listedParameter (g : Grammar) : Reader Bool := do
  copyOuterAttributes g
  if ← tryWord "_" then return false
  genericParameter g ["lifetime", "identifier", "`const`"]

/-- Reads generic parameters, if there are any, without writing them.  They are to be written with
the lifetimes first. -/
def genericParameters (g : Grammar) : Reader Tokens := do
  if !(← sees (beginsOp "<")) then return []
  let (items, opening) ← captured do
    op "<"
    listItems (beginsOp ">") (listedParameter g)
  let closing ← tokensOf (op ">")
  if items.isEmpty then return []
  let (lifetimes, others) := items.partition (·.form)
  return opening ++ joinItems (lifetimes ++ others) ++ closing

/-- Whether generic parameters begin the sequence, and not a type in angle brackets. -/
def beginsParameters (ts : Tokens) : Bool :=
  let first := next ts
  let second := next first
  beginsOp "<" ts
    && (beginsOp ">" first || beginsOp "#" first || beginsWord "const" first
      || ((beginsName first || beginsLifetime first)
        && (beginsOp ">" second || beginsOp "," second || beginsOp "=" second
          || (beginsOp ":" second && !beginsOp "::" second))))

/-- Reads the parameters that `for` introduces. -/
def forParameters (g : Grammar) : Reader Unit := do
  word "for"
  op "<"
  discard <| separated (beginsOp ">") "," do
    copyOuterAttributes g
    discard (genericParameter g ["identifier", "lifetime", "`const`"])
  op ">"

/-- Reads the parameters that `for` introduces, if it comes next. -/
def tryForParameters (g : Grammar) : Reader Bool := do
  if ← sees (beginsWord "for") then
    forParameters g
    return true
  else return false

/-! ## Bounds -/

/-- Reads a result type, if there is one. -/
def resultType (ty : Reader Ty) : Reader (Option Ty) := do
  if ← tryOp "->" then return some (← ty) else return none

/-- Reads arguments in parentheses and a result type. -/
def parenthesizedArguments (g : Grammar) : Reader Unit := do
  discard (inside .parenthesis (commaSeparated g.type))
  discard (resultType g.typeWithoutPlus)

/-- Reads the path of a trait, which arguments in parentheses may follow; whatever stands between
the path and these is not written. -/
def traitPath (g : Grammar) : Reader Ident := do
  let p ← unqualifiedPath g false
  let ts ← look
  let separated := beginsOp "::" ts && beginsGroup .parenthesis (next (next ts))
  if p.arguments.isEmpty && (separated || beginsGroup .parenthesis ts) then
    write (p.withArguments (.plain [])).tokens
    if separated then discard (captured (op "::"))
    parenthesizedArguments g
  else write p.tokens
  return p.head.name

/-- Reads the mark of a bound for constant contexts, if there is one. -/
def constantMark (allowConst : Bool) : Reader Bool := do
  let ts ← look
  if beginsGroup .bracket ts then
    inside .bracket (word "const")
    if !allowConst then throw (.constantBound true)
    return true
  if beginsWord "const" ts then
    word "const"
    if !allowConst then throw (.constantBound false)
    return true
  return false

/-- Reads the trait of a bound. -/
def traitBound (g : Grammar) (allowConst : Bool) : Reader BoundForm := do
  let binder ← tryForParameters g
  let isConst ← constantMark allowConst
  let relaxed ← tryOp "?"
  let binder ← if !binder && relaxed then tryForParameters g else pure binder
  let x ← traitPath g
  if binder && relaxed then throw .relaxedWithBinder
  return if isConst then .conditional else .trait_ x

/-- Reads the names that a hidden type may use.  Lifetimes are written first. -/
def captures : Reader Unit := do
  let (items, opening) ← captured do
    word "use"
    op "<"
    let step : List (ListItem Bool) × Bool → Reader (Option (List (ListItem Bool) × Bool)) :=
      fun (found, more) => do
        let ts ← look
        if !more || beginsOp ">" ts then return none
        if !(beginsLifetime ts || beginsName ts || beginsWord "Self" ts) then
          expectedOneOf Unit ["lifetime", "identifier", "`>`"]
        let (isLifetime, tokens) ← captured do
          if beginsLifetime ts then
            discard lifetimeName
            return true
          discard anyIdent
          return false
        if ← sees (beginsOp ",") then
          discard (captured (op ","))
          return some (⟨isLifetime, tokens, true⟩ :: found, true)
        if !(← sees (beginsOp ">")) then expectedOneOf Unit ["`,`", "`>`"]
        return some (⟨isLifetime, tokens, false⟩ :: found, false)
    return (← iterate step ([], true)).1.reverse
  let (lifetimes, others) := items.partition (·.form)
  write (opening ++ joinItems (lifetimes ++ others))
  op ">"

/-- Reads a bound.  A conditional one is written as it stands. -/
def bound (g : Grammar) (allowUse allowConst : Bool) : Reader BoundForm := do
  let ts ← look
  if beginsLifetime ts then
    discard lifetimeName
    return .lifetime
  if beginsWord "use" ts then
    captures
    if !allowUse then throw .misplacedCaptures
    return .captures
  copyingIf (· == .conditional) <|
    if beginsGroup .parenthesis ts then inside .parenthesis (traitBound g allowConst)
    else traitBound g allowConst

/-- Whether a further bound begins the sequence. -/
def beginsBound (allowConst : Bool) (ts : Tokens) : Bool :=
  beginsIdent ts || beginsOp "::" ts || beginsOp "?" ts || beginsLifetime ts
    || beginsGroup .parenthesis ts
    || (allowConst && (beginsGroup .bracket ts || beginsWord "const" ts))

/-- Reads bounds joined by `+`, or one if `+` may not join. -/
def bounds (g : Grammar) (allowPlus allowUse allowConst : Bool) : Reader (List BoundForm) := do
  let step : List BoundForm × Bool → Reader (Option (List BoundForm × Bool)) :=
    fun (found, more) => do
      if !more then return none
      let b ← bound g allowUse allowConst
      if allowPlus && (← sees (beginsOp "+")) then
        op "+"
        return some (b :: found, ← sees (beginsBound allowConst))
      else return some (b :: found, false)
  return (← iterate step ([], true)).1.reverse

/-! ## Where clauses -/

/-- Whether a where clause ends before the sequence. -/
def endsConditions (ts : Tokens) : Bool :=
  ts.isEmpty || beginsGroup .brace ts || beginsOp "," ts || beginsOp ";" ts
    || (beginsOp ":" ts && !beginsOp "::" ts) || beginsOp "=" ts

/-- Reads one condition of a where clause. -/
def condition (g : Grammar) : Reader Unit := do
  let ts ← look
  if beginsLifetime ts && beginsOp ":" (next ts) then
    discard lifetimeName
    op ":"
    boundsUpTo endsConditions (discard lifetimeName)
  else
    discard (tryForParameters g)
    discard g.type
    op ":"
    boundsUpTo endsConditions g.bound

/-- Reads a where clause, if there is one, without writing it. -/
def whereClause (g : Grammar) : Reader (Option Tokens) := do
  if ← sees (beginsWord "where") then
    discard (captured (word "where"))
    if ← sees beginsParameters then throw .conditionParameters
    return some (← tokensOf (discard (iterate (fun more => do
      if !more || (← sees endsConditions) then return none
      condition g
      return some (← tryOp ",")) true)))
  else return none

end Syntax

end TraitBuilder
