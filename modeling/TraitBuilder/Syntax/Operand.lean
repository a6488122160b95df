import TraitBuilder.Syntax.Operator

/-!
# Reading operands

An operand without operators: literals, paths and what follows them, groups, blocks, loops, and the
words that leave them.  An operand that nothing can be divided from is read into its form and its
tokens; one that ends with an expression is read into a tree.

Where a brace must begin a block (`if a {`), it does not begin a structure literal.
-/

namespace TraitBuilder.Syntax

/-- The expression that `r` reads and writes, of the form that `r` gives. -/
def closed (r : Reader Form) : Reader ExprTree := do
  let (form, tokens) ← captured r
  return .closed [] form tokens

/-! ## Paths, groups and lists -/

/-- Reads expressions between commas to the end of the tokens. -/
def arguments (g : Grammar) : Reader Unit := discard (commaSeparated g.copyExpr)

/-- Reads what parentheses enclose: the unit, an expression, or a tuple. -/
def parenContent (g : Grammar) : Reader Form := do
  if ← atEnd then return .tuple
  g.copyExpr
  if ← atEnd then return .paren
  op ","
  arguments g
  return .tuple

/-- Reads what brackets enclose: a list of elements, or an element and its number. -/
def bracketContent (g : Grammar) : Reader Form := do
  if ← atEnd then return .array
  g.copyExpr
  if ← atEnd then return .array
  if ← tryOp "," then
    arguments g
    return .array
  if ← tryOp ";" then
    g.copyExpr
    return .repetition
  expected Form "`,` or `;`"

/-- Reads a field of a structure literal after its attributes. -/
def structField (g : Grammar) : Reader Unit := do
  let x ← member
  if x.isNone || (← sees (beginsOp ":")) then
    op ":"
    g.copyExpr

/-- Reads the fields of a structure literal. -/
def structFields (g : Grammar) : Reader Unit :=
  discard <| iterate (fun more => do
    if !more || (← atEnd) then return none
    if ← tryOp ".." then
      if !(← atEnd) then g.copyExpr
      return some false
    copyOuterAttributes g
    structField g
    if ← atEnd then return some false
    op ","
    return some true) true

/-- Reads what follows a path in an expression: a macro call, a structure literal, or nothing. -/
def afterPath (g : Grammar) (allowStruct : Bool) (p : PathTree) : Reader ExprTree := do
  let ts ← look
  if !p.head.qualified && beginsOp "!" ts && !beginsOp "!=" ts && p.plain then
    return ← closed do
      write p.tokens
      op "!"
      return .macroCall ((← verbatimGroup) = .brace)
  if allowStruct && beginsGroup .brace ts then
    return ← closed do
      write p.tokens
      inside .brace (structFields g)
      return .struct_
  return .closed [] (.path p) p.tokens

/-- Reads an expression in an invisible group.  A path in it may go on after the group. -/
def groupedExpr (g : Grammar) (allowStruct : Bool) : Reader ExprTree := do
  let (inner, _) ← insideInvisible (g.expr true)
  let group := .closed [] (.group inner.form inner.tokens) [.group .invisible inner.tokens]
  match inner with
  | .closed [] (.path p) _ =>
    let extended ← moreSegments g true p
    let e ← afterPath g allowStruct extended
    return if e.form = .path p then group else e
  | _ => return group

/-! ## Closures -/

/-- Reads a parameter of a closure.  Without a type, its attributes belong to the pattern: a range
needs parentheses then, what is kept as it stands has none, and a block of constants loses those
inside. -/
def closureParameter (g : Grammar) : Reader Unit := do
  let attributes := (← outerAttributes g).flatMap Attribute.tokens
  let (form, pattern) ← captured g.pattern
  if ← sees (beginsOp ":") then
    write (attributes ++ pattern)
    op ":"
    discard g.type
  else match form with
    | .kept => write pattern
    | .constant bare => write (attributes ++ bare)
    | .range _ => write (attributes ++ ExprTree.enclosed (!attributes.isEmpty) pattern)
    | _ => write (attributes ++ pattern)

/-- Reads a closure up to its body; whether its result type is given. -/
def closureHead (g : Grammar) : Reader Bool := do
  discard (tryForParameters g)
  discard (tryWord "const")
  discard (tryWord "static")
  discard (tryWord "async")
  discard (tryWord "move")
  op "|"
  discard (separated (beginsOp "|") "," (closureParameter g))
  op "|"
  let typed ← tryOp "->"
  if typed then discard g.type
  return typed

/-- Reads a closure. -/
def closure (g : Grammar) (allowStruct : Bool) : Reader ExprTree := do
  let (typed, head) ← captured (closureHead g)
  let body ← if typed then
      closed do
        g.block false
        return .block true
    else g.expr allowStruct
  return .prefixed [] (.closure typed) head body

/-- Whether `for` begins the sequence and introduces parameters. -/
def beginsForParameters (ts : Tokens) : Bool := beginsWord "for" ts && beginsParameters (next ts)

/-- Whether a closure begins the sequence. -/
def beginsClosure (ts : Tokens) : Bool :=
  beginsOp "|" ts || beginsWord "move" ts || beginsForParameters ts
    || (beginsWord "const" ts && !beginsGroup .brace (next ts))
    || beginsWord "static" ts
    || (beginsWord "async" ts && (beginsOp "|" (next ts) || beginsWord "move" (next ts)))

/-! ## Blocks and conditions -/

/-- Reads a block in braces. -/
def blockExpr (g : Grammar) : Reader Form :=
  inside .brace do
    let attributes ← innerAttributes g
    writeAttributes attributes
    g.statements
    return .block attributes.isEmpty

/-- Reads a word and a block; whether attributes of the block may begin it. -/
def wordAndBlock (g : Grammar) (w : String) (inner : Bool) (form : Form) : Reader Form := do
  word w
  g.block inner
  return form

/-- Reads an asynchronous block. -/
def asyncBlock (g : Grammar) : Reader Form := do
  word "async"
  discard (tryWord "move")
  g.block false
  return .asyncBlock

/-- Reads a condition with its branches. -/
def ifExpr (g : Grammar) : Reader Form := do
  repeatWhile do
    word "if"
    g.copyCondition
    g.block false
    if !(← tryWord "else") then return false
    if ← sees (beginsWord "if") then return true
    if !(← sees (beginsGroup .brace)) then expectedOneOf Unit ["`if`", "curly braces"]
    g.block false
    return false
  return .if_

/-- Reads an arm of a match. -/
def arm (g : Grammar) : Reader Unit := do
  copyOuterAttributes g
  discard (patternWithAlternatives g)
  if ← tryWord "if" then g.copyExpr
  op "=>"
  let body ← g.statement
  write (body.tokensIn .ofArm)
  if body.form.endsArm || (← atEnd) then discard (tryOp ",") else op ","

/-- Reads a match. -/
def matchExpr (g : Grammar) : Reader Form := do
  word "match"
  g.copyCondition
  inside .brace do
    copyInnerAttributes g
    repeatWhile do
      if ← atEnd then return false
      arm g
      return true
  return .match_

/-- Reads a loop with a condition. -/
def whileExpr (g : Grammar) : Reader Form := do
  word "while"
  g.copyCondition
  g.block true
  return .whileLoop

/-- Reads a loop over elements. -/
def forExpr (g : Grammar) : Reader Form := do
  word "for"
  discard (patternWithAlternatives g)
  word "in"
  g.copyCondition
  g.block true
  return .forLoop

/-- Reads an endless loop. -/
def loopExpr (g : Grammar) : Reader Form := wordAndBlock g "loop" true .loop

/-- Reads a loop or block with its label. -/
def labeled (g : Grammar) : Reader Form := do
  discard lifetimeName
  op ":"
  let ts ← look
  if beginsWord "while" ts then whileExpr g
  else if beginsWord "for" ts then forExpr g
  else if beginsWord "loop" ts then loopExpr g
  else if beginsGroup .brace ts then
    g.block true
    return .block false
  else expected Form "loop or block expression"

/-- Reads a pattern tried in a condition. -/
def letExpr (g : Grammar) (allowStruct : Bool) : Reader ExprTree := do
  let head ← tokensOf do
    word "let"
    discard (patternWithAlternatives g)
    op "="
  let operand ← g.unary allowStruct
  return .prefixed [] .let_ head (← g.operators allowStruct operand Precedence.comparison)

/-! ## Leaving blocks -/

/-- Reads the label after the word that leaves a loop, if there is one. -/
def tryBreakLabel (g : Grammar) : Reader Unit := do
  if ← sees beginsLifetime then
    if beginsOp ":" (next (← look)) then
      discard (g.expr true)
      throw .bareLabel
    discard lifetimeName

/-- Reads the word that leaves a loop, with a label and a value. -/
def breakExpr (g : Grammar) (allowStruct : Bool) : Reader ExprTree := do
  let head ← tokensOf do
    word "break"
    tryBreakLabel g
  let ts ← look
  if beginsExpr ts && (allowStruct || !beginsGroup .brace ts) then
    return .prefixed [] .break_ head (← g.expr true)
  else return .closed [] .break_ head

/-- Reads the word that goes on with a loop. -/
def continueExpr : Reader Form := do
  word "continue"
  discard tryLifetime
  return .continue_

/-- Reads a word that a value may follow. -/
def wordWithValue (g : Grammar) (w : String) (form : Form) : Reader ExprTree := do
  let head ← tokensOf (word w)
  if ← sees beginsExpr then return .prefixed [] form head (← g.expr true)
  else return .closed [] form head

/-! ## All operands -/

/-- Reads what is kept as it stands. -/
def keptExpr (r : Reader Unit) : Reader ExprTree :=
  return .closed [] .verbatim (← withSource r).2

/-- Reads a range without a lower end. -/
def openRange (g : Grammar) (allowStruct : Bool) : Reader ExprTree := do
  match ← rangeTail g allowStruct with
  | (dots, some end_) => return .prefixed [] .range dots end_
  | (dots, none) => return .closed [] .range dots

/-- Whether a block after the word `w` begins the sequence. -/
def beginsBlockAfter (w : String) (ts : Tokens) : Bool :=
  beginsWord w ts && beginsGroup .brace (next ts)

/-- Whether an asynchronous block begins the sequence. -/
def beginsAsyncBlock (ts : Tokens) : Bool :=
  beginsBlockAfter "async" ts
    || (beginsWord "async" ts && beginsWord "move" (next ts)
      && beginsGroup .brace (next (next ts)))

/-- Whether a path begins an expression. -/
def beginsExprPath (ts : Tokens) : Bool :=
  beginsPath ts || (beginsWord "try" ts && (beginsOp "!" (next ts) || beginsOp "::" (next ts)))

/-- Reads a block, a loop or a condition, if one begins the sequence. -/
def blockLike? (g : Grammar) (ts : Tokens) : Option (Reader Form) :=
  if beginsWord "if" ts then some (ifExpr g)
  else if beginsWord "while" ts then some (whileExpr g)
  else if beginsWord "for" ts && !beginsForParameters ts then some (forExpr g)
  else if beginsWord "loop" ts then some (loopExpr g)
  else if beginsWord "match" ts then some (matchExpr g)
  else if beginsBlockAfter "try" ts then some (wordAndBlock g "try" false .tryBlock)
  else if beginsWord "unsafe" ts then some (wordAndBlock g "unsafe" true .unsafeBlock)
  else if beginsBlockAfter "const" ts then some (wordAndBlock g "const" true .constBlock)
  else if beginsGroup .brace ts then some (blockExpr g)
  else if beginsLifetime ts then some (labeled g)
  else none

/-- Reads an operand without its unary operators and without what is applied to it. -/
def atom (g : Grammar) (allowStruct : Bool) : Reader ExprTree := do
  let ts ← look
  if beginsInvisible ts then return ← groupedExpr g allowStruct
  if beginsLiteral ts then return ← closed (return .literal (← literal))
  if beginsAsyncBlock ts then return ← closed (asyncBlock g)
  if beginsClosure ts then return ← closure g allowStruct
  if beginsBuiltin ts then return ← keptExpr builtin
  match blockLike? g ts with
  | some r => return ← closed r
  | none => pure ()
  if beginsExprPath ts then return ← afterPath g allowStruct (← path g true)
  if beginsGroup .parenthesis ts then return ← closed (inside .parenthesis (parenContent g))
  if beginsWord "break" ts then return ← breakExpr g allowStruct
  if beginsWord "continue" ts then return ← closed continueExpr
  if beginsWord "return" ts then return ← wordWithValue g "return" .return_
  if beginsWord "become" ts then
    return ← keptExpr do
      word "become"
      discard (g.expr true)
  if beginsGroup .bracket ts then return ← closed (inside .bracket (bracketContent g))
  if beginsWord "let" ts then return ← letExpr g allowStruct
  if beginsWord "yield" ts then return ← wordWithValue g "yield" .yield_
  if beginsOp ".." ts then return ← openRange g allowStruct
  if beginsWord "_" ts then
    return ← closed do
      discard anyIdent
      return .infer
  expected ExprTree "an expression"

end TraitBuilder.Syntax
