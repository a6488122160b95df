import TraitBuilder.Syntax.Operand

/-!
# Reading expressions

An expression is an operand with what is applied to it, the unary operators before it, and the
operators between it and further operands.  In a statement, what ends with the closing brace of a
block is no operand of the operator after it.
-/

namespace TraitBuilder.Syntax

/-! ## What is applied to an operand -/

/-- Reads what follows a dot: `await`, a method with its arguments, or a field. -/
def afterDot (g : Grammar) (dot : Tokens) (e : ExprTree) : Reader ExprTree := do
  if ← sees (beginsWord "await") then
    return .suffixed [] .await e (dot ++ (← tokensOf anyIdent))
  let (form, tail) ← captured do
    let named := (← member).isSome
    let generic ← if named then sees (beginsOp "::") else pure false
    if generic then write (← angleArguments g).tokens
    if generic || (named && (← sees (beginsGroup .parenthesis))) then
      inside .parenthesis (arguments g)
      return Form.methodCall
    return .field
  return .suffixed [] form e (dot ++ tail)

/-- Reads a dot and what follows it. -/
def dotted (g : Grammar) (e : ExprTree) : Reader ExprTree := do
  let dot ← tokensOf (op ".")
  if ← sees beginsFraction then
    let (numbers, more) ← fractionFields
    let e := numbers.foldl (fun e n => .suffixed [] .field e (dot ++ [numberToken n])) e
    if more then afterDot g dot e else return e
  else afterDot g dot e

/-- Reads all that is applied to an operand: calls, fields, indices and question marks. -/
def applied (g : Grammar) (e : ExprTree) : Reader ExprTree :=
  iterate (fun e => do
    let ts ← look
    if beginsGroup .parenthesis ts then
      return some (.suffixed [] .call e (← tokensOf (inside .parenthesis (arguments g))))
    if beginsGroup .bracket ts then
      return some (.suffixed [] .index e (← tokensOf (inside .bracket g.copyExpr)))
    if e.form = .range then return none
    if beginsDot ts then return some (← dotted g e)
    if beginsOp "?" ts then return some (.suffixed [] .try_ e (← tokensOf (op "?")))
    return none) e

/-! ## Unary operators -/

/-- Reads the attributes of an expression.  Those in an invisible group belong to its content. -/
def exprAttributes (g : Grammar) : Reader Tokens := do
  let found ← collect do
    let ts ← look
    if beginsOp "#" ts && !beginsInvisible ts then return some (← outerAttribute g)
    else return none
  return found.flatMap Attribute.tokens

/-- Reads the sign of a reference, and the words after it. -/
def referenceSign : Reader Form := do
  op "&"
  let ts ← look
  if beginsWord "raw" ts && beginsAnyWord ["mut", "const"] (next ts) then
    word "raw"
    discard anyIdent
    return .rawReference
  discard (tryWord "mut")
  return .reference

/-- The unary operator that begins the sequence. -/
def unaryOperator? (ts : Tokens) : Option String := ["*", "!", "-"].find? (beginsOp · ts)

/-- Reads an operand with its unary operators. -/
def readUnary (g : Grammar) (allowStruct : Bool) : Reader ExprTree := do
  let before ← look
  let attributes ← exprAttributes g
  let ts ← look
  if !beginsInvisible ts then
    if beginsOp "&" ts then
      let (form, sign) ← captured referenceSign
      return .prefixed attributes form sign (← g.unary allowStruct)
    match unaryOperator? ts with
    | some symbol =>
      let sign ← tokensOf (op symbol)
      return .prefixed attributes .unary sign (← g.unary allowStruct)
    | none => pure ()
  let e ← applied g (← atom g allowStruct)
  if e.form = .verbatim then return .closed [] .verbatim (← sourceSince before)
  if e.form = .range && !attributes.isEmpty then throw .attributedRange
  return e.mark attributes

/-! ## Operators -/

/-- Reads the operators after an operand that bind at least as tightly as `least`.  A range is no
operand of a further operator. -/
def readOperators (g : Grammar) (allowStruct : Bool) (operand : ExprTree) (least : Nat) :
    Reader ExprTree :=
  iterate (fun operand => do
    let ts ← look
    if operand.form = .range then return none
    match binaryOperator? ts with
    | some (symbol, precedence) =>
      if precedence < least then return none
      if precedence = Precedence.comparison && operand.form = .binary Precedence.comparison then
        throw .chainedComparison
      let sign ← tokensOf (op symbol)
      let right ← lastOperand g allowStruct precedence
      return some (.joined [] (.binary precedence) operand sign right)
    | none =>
      if least ≤ Precedence.assignment && beginsAssignment ts then
        let sign ← tokensOf (op "=")
        let right ← lastOperand g allowStruct Precedence.assignment
        return some (.joined [] .assignment operand sign right)
      if least ≤ Precedence.range && beginsOp ".." ts then
        match ← rangeTail g allowStruct with
        | (dots, some right) => return some (.joined [] .range operand dots right)
        | (dots, none) => return some (.suffixed [] .range operand dots)
      if least ≤ Precedence.cast && beginsWord "as" ts then
        return some (.suffixed [] .cast operand (← tokensOf (castType g)))
      return none) operand

/-! ## Expressions -/

/-- Reads an expression. -/
def readExpr (g : Grammar) (allowStruct : Bool) : Reader ExprTree := do
  readOperators g allowStruct (← readUnary g allowStruct) Precedence.jump

/-- Reads the first operand of an expression that its closing brace may end. -/
def statementOperand (g : Grammar) : Reader ExprTree := do
  let ts ← look
  if beginsInvisible ts then
    let e ← groupedExpr g true
    if e.form.ungrouped.endsArm then return e else applied g e
  else match blockLike? g ts with
    | some r => closed r
    | none => readUnary g true

/-- Reads an expression that its closing brace may end. -/
def readStatementExpr (g : Grammar) : Reader ExprTree := do
  let attributes ← exprAttributes g
  let e ← statementOperand g
  if e.form.ungrouped.endsArm then
    let ts ← look
    if !beginsDot ts && !beginsOp "?" ts then return e.mark attributes
    readOperators g true ((← applied g e).mark attributes) Precedence.jump
  else readOperators g true (e.mark attributes) Precedence.jump

end TraitBuilder.Syntax
