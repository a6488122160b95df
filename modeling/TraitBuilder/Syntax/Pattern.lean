import TraitBuilder.Syntax.Type

/-!
# Reading patterns

A pattern is written as it is read.  What remains of it is its `PatternForm`.
-/

namespace TraitBuilder.Syntax

/-- Whether an alternative follows. -/
def beginsAlternative (ts : Tokens) : Bool :=
  beginsOp "|" ts && !beginsOp "||" ts && !beginsOp "|=" ts

/-- Reads the alternatives after a first pattern; `form` is its form. -/
def alternatives (g : Grammar) (form : PatternForm) (leading : Bool) : Reader PatternForm := do
  if leading || (← sees beginsAlternative) then
    repeatWhile do
      if ← sees beginsAlternative then
        op "|"
        discard g.pattern
        return true
      else return false
    return .other
  else return form

/-- Reads a pattern with alternatives, which a bar may begin. -/
def patternWithAlternatives (g : Grammar) : Reader PatternForm := do
  let leading ← tryOp "|"
  alternatives g (← g.pattern) leading

/-- Reads patterns between commas to the end of the tokens. -/
def patterns (g : Grammar) : Reader Unit := discard (commaSeparated (patternWithAlternatives g))

/-! ## Ranges -/

/-- Whether the end of a range is missing before the sequence. -/
def lacksBound (ts : Tokens) : Bool :=
  ts.isEmpty || beginsOp "|" ts || beginsOp "=" ts || beginsColon ts || beginsOp "," ts
    || beginsOp ";" ts || beginsWord "if" ts

/-- What may be an end of a range, in the words of messages. -/
def rangeBoundBeginnings : List String := [
  "literal", "identifier", "`::`", "`<`", "`self`", "`Self`", "`super`", "`crate`", "`const`"]

/-- Reads a block of constants, and its tokens without the attributes inside. -/
def constantBlock (g : Grammar) : Reader Tokens := do
  word "const"
  let body ← inside .brace do
    copyInnerAttributes g
    let body ← tokensOf g.statements
    write body
    return body
  return [Token.word "const", .group .brace body]

/-- Reads what may be an end of a range: a literal, a path, or a block of constants. -/
def rangeBound (g : Grammar) : Reader PatternForm := do
  let ts ← look
  if beginsLiteral ts then
    discard literal
    return .other
  if beginsPath ts then
    write (← path g true).tokens
    return .other
  if beginsWord "const" ts then return .constant (← constantBlock g)
  expectedOneOf PatternForm rangeBoundBeginnings

/-- Reads the dots of a range in a pattern; whether an end must follow.  Three dots are an old
spelling. -/
def patternDots : Reader Bool := do
  if ← tryOp "..=" then return true
  if ← sees (beginsOp "...") then
    discard (captured (op "..."))
    write (operator ['.', '.', '='])
    return true
  op ".."
  return false

/-- Reads a range from its dots on; whether it has an end. -/
def rangeFromDots (g : Grammar) : Reader Bool := do
  let closed ← patternDots
  if !(← sees lacksBound) then
    discard (rangeBound g)
    return true
  if closed then expected Bool "range upper bound"
  else return false

/-- Reads a range after its start. -/
def patternRange (g : Grammar) : Reader PatternForm := return .range (!(← rangeFromDots g))

/-! ## Structures and paths -/

/-- Reads a field of a structure pattern; whether it is written as it stands, as a boxed one is. -/
def patternField (g : Grammar) : Reader Bool := do
  let boxed ← tryWord "box"
  let byReference ← tryWord "ref"
  let isMut ← tryWord "mut"
  if boxed || byReference || isMut then discard name
  else
    let x ← member
    if x.isNone || (← sees (beginsOp ":")) then
      op ":"
      discard (patternWithAlternatives g)
  return boxed

/-- Reads the fields of a structure pattern. -/
def patternFields (g : Grammar) : Reader Unit :=
  discard <| iterate (fun more => do
    if !more || (← atEnd) then return none
    copyOuterAttributes g
    if ← tryOp ".." then return some false
    discard (copyingIf id (patternField g))
    if ← atEnd then return some false
    op ","
    return some true) true

/-- Reads a pattern that a path begins. -/
def pathPattern (g : Grammar) : Reader PatternForm := do
  let p ← path g true
  write p.tokens
  let ts ← look
  if !p.head.qualified && beginsOp "!" ts && !beginsOp "!=" ts && p.plain then
    op "!"
    discard verbatimGroup
    return .other
  if beginsGroup .brace ts then
    inside .brace (patternFields g)
    return .other
  if beginsGroup .parenthesis ts then
    inside .parenthesis (patterns g)
    return .other
  if beginsOp ".." ts then patternRange g else return .other

/-- Whether a path begins a pattern. -/
def beginsPathPattern (ts : Tokens) : Bool :=
  let after := next ts
  (beginsName ts && (beginsOp "::" after || beginsOp "!" after || beginsGroup .brace after
      || beginsGroup .parenthesis after || beginsOp ".." after))
    || (beginsWord "self" ts && beginsOp "::" after)
    || beginsOp "::" ts || beginsOp "<" ts || beginsAnyWord ["Self", "super", "crate"] ts

/-! ## All patterns -/

/-- What may begin a pattern, in the words of messages.  Dots are no beginning if there are three of
them. -/
def patternBeginnings (dotted : Bool) : List String := [
  "identifier", "`::`", "`<`", "`_`", "literal", "`const`", "`ref`", "`mut`", "`&`", "parentheses",
  "square brackets"] ++ (if dotted then [] else ["`..`"]) ++ ["`const`"]

/-- Reads a pattern that binds a name. -/
def bindingPattern (g : Grammar) : Reader Unit := do
  discard (tryWord "ref")
  discard (tryWord "mut")
  if ← sees (beginsWord "self") then discard anyIdent else discard name
  if ← tryOp "@" then discard g.pattern

/-- Reads one pattern. -/
def readPattern (g : Grammar) : Reader PatternForm := do
  let ts ← look
  if beginsPathPattern ts then return ← pathPattern g
  if beginsWord "_" ts then
    discard anyIdent
    return .other
  if beginsWord "box" ts then
    let (_, source) ← withSource do
      word "box"
      g.pattern
    write source
    return .kept
  if beginsOp "-" ts || beginsLiteral ts || beginsWord "const" ts then
    let form ← rangeBound g
    if ← sees (beginsOp "..") then return ← patternRange g
    return form
  if beginsAnyWord ["ref", "mut", "self"] ts || beginsName ts then
    bindingPattern g
    return .other
  if beginsOp "&" ts then
    op "&"
    discard (tryWord "mut")
    discard g.pattern
    return .other
  if beginsGroup .parenthesis ts then
    inside .parenthesis (patterns g)
    return .other
  if beginsGroup .bracket ts then
    discard <| inside .bracket <| commaSeparated do
      if (← patternWithAlternatives g) = .range true then throw .openRangeInSlice
    return .other
  if beginsOp ".." ts && !beginsOp "..." ts then
    return if ← rangeFromDots g then .range true else .remaining
  expectedOneOf PatternForm (patternBeginnings (beginsOp ".." ts))

end TraitBuilder.Syntax
