import TraitBuilder.Syntax.Pattern

/-!
# Reading operators

Operators between operands are read by precedence: after an operand, operators that bind at least as
tightly as a given precedence belong to it.  Ranges may lack their ends, and nothing may be applied
to the type of a cast.
-/

namespace TraitBuilder.Syntax

/-! ## Operators between operands -/

open Precedence in
/-- The operators between two operands, each before all that begin it. -/
def binaryOperators : List (String × Nat) := [
  ("+=", assignment), ("-=", assignment), ("*=", assignment), ("/=", assignment),
  ("%=", assignment), ("^=", assignment), ("&=", assignment), ("|=", assignment),
  ("<<=", assignment), (">>=", assignment), ("&&", and), ("||", or), ("<<", shift), (">>", shift),
  ("==", comparison), ("<=", comparison), ("!=", comparison), (">=", comparison), ("+", sum),
  ("-", sum), ("*", product), ("/", product), ("%", product), ("^", bitXor), ("&", bitAnd),
  ("|", bitOr), ("<", comparison), (">", comparison)]

/-- The operator between two operands that begins the sequence, and its precedence. -/
def binaryOperator? (ts : Tokens) : Option (String × Nat) :=
  binaryOperators.find? fun (symbol, _) => beginsOp symbol ts

/-- Whether the sign of an assignment begins the sequence. -/
def beginsAssignment (ts : Tokens) : Bool := beginsOp "=" ts && !beginsOp "=>" ts

/-- The precedence of whatever operator begins the sequence; the least one if none does. -/
def leadingPrecedence (ts : Tokens) : Nat :=
  match binaryOperator? ts with
  | some (_, precedence) => precedence
  | none =>
    if beginsAssignment ts then Precedence.assignment
    else if beginsOp ".." ts then Precedence.range
    else if beginsWord "as" ts then Precedence.cast
    else Precedence.jump

/-- Reads the last operand of an operator of the given precedence. -/
def lastOperand (g : Grammar) (allowStruct : Bool) (precedence : Nat) : Reader ExprTree := do
  let operand ← g.unary allowStruct
  iterate (fun operand => do
    let before ← look
    let following := leadingPrecedence before
    if following > precedence
        || (following = precedence && precedence = Precedence.assignment) then
      let operand ← g.operators allowStruct operand following
      if Tokens.size (← look) = Tokens.size before then return none
      return some operand
    else return none) operand

/-! ## Ranges -/

/-- Reads the dots of a range; whether an upper end must follow. -/
def rangeDots : Reader Bool := do
  if ← tryOp "..=" then return true
  if ← sees (beginsOp "...") then expected Unit "`..=`"
  op ".."
  return false

/-- Whether the upper end of a half-open range is left out before the sequence. -/
def lacksRangeEnd (allowStruct : Bool) (ts : Tokens) : Bool :=
  ts.isEmpty || beginsOp "," ts || beginsOp ";" ts || (beginsOp "." ts && !beginsOp ".." ts)
    || beginsOp "?" ts || beginsOp "=>" ts || (!allowStruct && beginsGroup .brace ts)
    || ["=", "+", "/", "%", "^", ">", "<=", "!=", "-=", "*=", "&=", "|=", "<<="].any (beginsOp · ts)
    || beginsWord "as" ts

/-- Reads a range from its dots on: the dots, and the upper end if there is one. -/
def rangeTail (g : Grammar) (allowStruct : Bool) : Reader (Tokens × Option ExprTree) := do
  let (closed, dots) ← captured rangeDots
  if !closed && (← sees (lacksRangeEnd allowStruct)) then return (dots, none)
  return (dots, some (← lastOperand g allowStruct Precedence.range))

/-! ## Casts -/

/-- Whether a dot begins the sequence, and no range. -/
def beginsDot (ts : Tokens) : Bool := beginsOp "." ts && !beginsOp ".." ts

/-- What would be applied to the type of a cast before the sequence. -/
def appliedToCast? (ts : Tokens) : Option String :=
  let field := next ts
  if beginsDot ts then
    if beginsWord "await" field then some "`.await`"
    else if beginsName field
        && (beginsGroup .parenthesis (next field) || beginsOp "::" (next field)) then
      some "a method call"
    else some "a field access"
  else if beginsOp "?" ts then some "`?`"
  else if beginsGroup .bracket ts then some "indexing"
  else if beginsGroup .parenthesis ts then some "a function call"
  else none

/-- Reads a cast after its operand. -/
def castType (g : Grammar) : Reader Unit := do
  word "as"
  write (← g.ty false false).tokens
  match appliedToCast? (← look) with
  | some what => throw (.appliedToCast what)
  | none => pure ()

/-! ## Beginnings of expressions -/

/-- Whether an expression may begin the sequence. -/
def beginsExpr (ts : Tokens) : Bool :=
  (beginsIdent ts && !beginsWord "as" ts) || beginsGroup .parenthesis ts
    || beginsGroup .bracket ts || beginsGroup .brace ts || beginsLiteral ts
    || (beginsOp "!" ts && !beginsOp "!=" ts)
    || (beginsOp "-" ts && !beginsOp "-=" ts && !beginsOp "->" ts)
    || (beginsOp "*" ts && !beginsOp "*=" ts)
    || (beginsOp "|" ts && !beginsOp "|=" ts)
    || (beginsOp "&" ts && !beginsOp "&=" ts)
    || beginsOp ".." ts
    || (beginsOp "<" ts && !beginsOp "<=" ts && !beginsOp "<<=" ts)
    || beginsOp "::" ts || beginsLifetime ts || beginsOp "#" ts

end TraitBuilder.Syntax
