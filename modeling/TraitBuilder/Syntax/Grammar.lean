import TraitBuilder.Syntax.Parentheses

/-!
# The grammar, level by level

The categories of syntax refer to each other: types hold expressions, expressions hold types,
blocks hold both.  A `Grammar` is a reader for each category that is nested in another one.  The
reader of a category is a function of a grammar, which it uses for what lies one level deeper; the
grammars of all levels are built in `TraitBuilder.Syntax.Language`.

Types and expressions are read without being written, since what surrounds them has a say in how
they are written.
-/

namespace TraitBuilder.Syntax

/-- What a pattern is, as far as its surroundings care. -/
inductive PatternForm where
  /-- A range; whether it lacks one of its ends. -/
  | range (open_ : Bool)
  /-- The remaining elements. -/
  | remaining
  /-- A block of constants, with its tokens without the attributes inside. -/
  | constant (bare : Tokens)
  /-- A pattern that is kept as it stands. -/
  | kept
  | other
  deriving DecidableEq, Repr

/-- A reader for each category that others nest. -/
structure Grammar where
  /-- A type; whether `+` may join bounds, and whether arguments may follow an invisible group. -/
  ty : (allowPlus allowArguments : Bool) → Reader Ty
  /-- A bound of a constrained name. -/
  bound : Reader Unit
  /-- An expression; whether a brace may begin a structure literal. -/
  expr : (allowStruct : Bool) → Reader ExprTree
  /-- An operand with its unary operators. -/
  unary : (allowStruct : Bool) → Reader ExprTree
  /-- The operators after an operand, down to a precedence. -/
  operators : (allowStruct : Bool) → (operand : ExprTree) → (least : Nat) → Reader ExprTree
  /-- An expression that its closing brace may end, as in a statement or a match arm. -/
  statement : Reader ExprTree
  /-- One pattern without alternatives. -/
  pattern : Reader PatternForm
  /-- A block in braces; whether attributes of the block may begin it. -/
  block : (inner : Bool) → Reader Unit
  /-- The statements of a block, to the end of the tokens. -/
  statements : Reader Unit
  /-- What follows the attributes of an item; whether the item is written as it stands. -/
  item : Reader Bool

namespace Grammar

/-- The grammar in which nothing can be read. -/
def empty : Grammar where
  ty _ _ := throw .unexpected
  bound := throw .unexpected
  expr _ := throw .unexpected
  unary _ := throw .unexpected
  operators _ _ _ := throw .unexpected
  statement := throw .unexpected
  pattern := throw .unexpected
  block _ := throw .unexpected
  statements := throw .unexpected
  item := throw .unexpected

/-- Reads a type and writes it. -/
def type (g : Grammar) : Reader Ty := do
  let ty ← g.ty true true
  write ty.tokens
  return ty

/-- Reads a type that `+` does not extend, and writes it. -/
def typeWithoutPlus (g : Grammar) : Reader Ty := do
  let ty ← g.ty false true
  write ty.tokens
  return ty

/-- Reads an expression that nothing surrounds, and writes it. -/
def copyExpr (g : Grammar) : Reader Unit := do write (← g.expr true).tokens

/-- Reads an expression that a block follows, and writes it. -/
def copyCondition (g : Grammar) : Reader Unit := do
  write ((← g.expr false).tokensIn .ofCondition)

end Grammar

end TraitBuilder.Syntax
