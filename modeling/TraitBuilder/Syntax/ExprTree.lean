import TraitBuilder.Syntax.PathTree
import TraitBuilder.Syntax.Reader

/-!
# Expressions as trees

An expression is kept as a tree as far as its beginning and its end go: which operand stands at its
left end and which at its right end.  Whatever is enclosed (the content of a group, a pattern, a
type) cannot be changed by what surrounds the expression and is kept as its tokens.

* `ExprTree.form_mark`: attributes do not change what an expression is.
-/

namespace TraitBuilder.Syntax

/-! ## Precedences -/

namespace Precedence

/-- Of words that leave a function or a loop, and of closures: they extend as far as possible. -/
def jump : Nat := 0
def assignment : Nat := 1
def range : Nat := 2
def or : Nat := 3
def and : Nat := 4
/-- Of a pattern tried in a condition. -/
def trial : Nat := 5
def comparison : Nat := 6
def bitOr : Nat := 7
def bitXor : Nat := 8
def bitAnd : Nat := 9
def shift : Nat := 10
def sum : Nat := 11
def product : Nat := 12
def cast : Nat := 13
/-- Of signs before an operand. -/
def sign : Nat := 14
/-- Of what no operator divides. -/
def operand : Nat := 15

end Precedence

/-! ## Forms -/

/-- What an expression is, as far as its surroundings care. -/
inductive Form where
  | literal (value : Literal)
  | path (path : PathTree)
  /-- An expression in an invisible group, and its tokens. -/
  | group (inner : Form) (tokens : Tokens)
  /-- An operator between two operands, and how tightly it binds. -/
  | binary (precedence : Nat)
  | macroCall (braced : Bool)
  /-- A closure; whether its result type is given. -/
  | closure (typed : Bool)
  /-- A block; whether it has neither a label nor attributes inside. -/
  | block (plain : Bool)
  | array | assignment | asyncBlock | await | break_ | call | cast | constBlock | continue_ | field
  | forLoop | if_ | index | infer | let_ | loop | match_ | methodCall | paren | range | reference
  | repetition | return_ | struct_ | try_ | tryBlock | tuple | unary | unsafeBlock | whileLoop
  | yield_ | rawReference | verbatim
  deriving DecidableEq, Repr

namespace Form

/-- The word for the form in messages about attribute values. -/
def word : Form → String
  | .literal _ => "lit"
  | .path _ => "path"
  | .group _ _ => "group"
  | .binary _ => "binary"
  | .macroCall _ => "macro"
  | .closure _ => "closure"
  | .block _ => "block"
  | .array => "array"
  | .assignment => "assign"
  | .asyncBlock => "async"
  | .await => "await"
  | .break_ => "break"
  | .call => "call"
  | .cast => "cast"
  | .constBlock => "const"
  | .continue_ => "continue"
  | .field => "field"
  | .forLoop => "for_loop"
  | .if_ => "if"
  | .index => "index"
  | .infer => "infer"
  | .let_ => "let"
  | .loop => "loop"
  | .match_ => "match"
  | .methodCall => "method_call"
  | .paren => "paren"
  | .range => "range"
  | .reference => "reference"
  | .repetition => "repeat"
  | .return_ => "return"
  | .struct_ => "struct"
  | .try_ => "try"
  | .tryBlock => "try_block"
  | .tuple => "tuple"
  | .unary => "unary"
  | .unsafeBlock => "unsafe"
  | .whileLoop => "while"
  | .yield_ => "yield"
  | .rawReference => "unknown"
  | .verbatim => "verbatim"

/-- Whether an expression of the form ends a match arm by its closing brace. -/
def endsArm : Form → Bool
  | .if_ | .match_ | .block _ | .unsafeBlock | .whileLoop | .loop | .forLoop | .tryBlock
  | .constBlock => true
  | _ => false

/-- Whether an expression of the form ends a statement by its closing brace. -/
def endsStatement : Form → Bool
  | .macroCall braced => braced
  | form => form.endsArm

/-- How tightly the operator between two operands binds. -/
def operatorPrecedence : Form → Nat
  | .binary precedence => precedence
  | .range => Precedence.range
  | _ => Precedence.assignment

/-- Whether an expression of the form may have a label. -/
def mayHaveLabel : Form → Bool
  | .block _ | .whileLoop | .loop | .forLoop => true
  | _ => false

/-- Whether an expression of the form, with nothing at its end to look into, ends with a brace. -/
def closesWithBrace : Form → Bool
  | .asyncBlock | .struct_ => true
  | form => form.endsStatement

/-- The form inside all invisible groups. -/
def ungrouped : Form → Form
  | .group inner _ => inner.ungrouped
  | form => form

end Form

/-! ## Trees -/

/-- An expression as a tree.  The attributes before it are kept as they are written. -/
inductive ExprTree where
  /-- An expression with an operand neither at its beginning nor at its end. -/
  | closed (attributes : Tokens) (form : Form) (tokens : Tokens)
  /-- An operand, and what follows it. -/
  | suffixed (attributes : Tokens) (form : Form) (base : ExprTree) (tail : Tokens)
  /-- An operand, and what precedes it. -/
  | prefixed (attributes : Tokens) (form : Form) (head : Tokens) (operand : ExprTree)
  /-- Two operands with an operator between them. -/
  | joined (attributes : Tokens) (form : Form) (left : ExprTree) (symbol : Tokens)
      (right : ExprTree)
  deriving Repr

namespace ExprTree

/-- The form of the expression. -/
def form : ExprTree → Form
  | .closed _ form _ => form
  | .suffixed _ form _ _ => form
  | .prefixed _ form _ _ => form
  | .joined _ form _ _ _ => form

/-- The attributes before the expression. -/
def attributes : ExprTree → Tokens
  | .closed attributes _ _ => attributes
  | .suffixed attributes _ _ _ => attributes
  | .prefixed attributes _ _ _ => attributes
  | .joined attributes _ _ _ _ => attributes

/-- The expression with further attributes before it.  What is kept as it stands gets none. -/
def mark (more : Tokens) : ExprTree → ExprTree
  | .closed attributes form tokens =>
    .closed (if form = .verbatim then attributes else more ++ attributes) form tokens
  | .suffixed attributes form base tail => .suffixed (more ++ attributes) form base tail
  | .prefixed attributes form head operand => .prefixed (more ++ attributes) form head operand
  | .joined attributes form left symbol right =>
    .joined (more ++ attributes) form left symbol right

/-- The expression with further attributes before the first operand of its operators.  A range
gets them itself. -/
def markFirst (more : Tokens) : ExprTree → ExprTree
  | .joined attributes form left symbol right =>
    if form = .range then .joined (more ++ attributes) form left symbol right
    else .joined attributes form (left.markFirst more) symbol right
  | .suffixed attributes form base tail =>
    if form = .cast then .suffixed attributes form (base.markFirst more) tail
    else .suffixed (more ++ attributes) form base tail
  | e => e.mark more

theorem form_mark (more : Tokens) (e : ExprTree) : (e.mark more).form = e.form := by
  cases e <;> rfl

/-- Whether the expression begins with a label, attributes apart. -/
def beginsWithLabel : ExprTree → Bool
  | .closed _ form tokens => form.mayHaveLabel && beginsLifetime tokens
  | .suffixed _ _ base _ => base.beginsWithLabel
  | .prefixed _ _ _ _ => false
  | .joined _ _ left _ _ => left.beginsWithLabel

/-- Whether a group in braces is the last of the tokens. -/
def endsInBraces (ts : Tokens) : Bool :=
  match ts.getLast? with
  | some (.group .brace _) => true
  | _ => false

/-- Whether the expression ends with a brace. -/
def endsWithBrace : ExprTree → Bool
  | .closed _ form tokens => form.closesWithBrace || (form = .verbatim && endsInBraces tokens)
  | .suffixed _ form _ tail => form = .cast && endsInBraces tail
  | .prefixed _ _ _ operand => operand.endsWithBrace
  | .joined _ _ _ _ right => right.endsWithBrace

/-- Whether the expression is a range without an upper end. -/
def lacksUpperEnd : ExprTree → Bool
  | .closed _ form _ => form = .range
  | .suffixed _ form _ _ => form = .range
  | _ => false

/-- Whether the expression is a range without a lower end. -/
def lacksLowerEnd : ExprTree → Bool
  | .closed _ form _ => form = .range
  | .prefixed _ form _ _ => form = .range
  | _ => false

/-- Whether the expression is a word that leaves a function or loop, without a value. -/
def isBareJump : ExprTree → Bool
  | .closed _ form _ => form = .break_ || form = .return_ || form = .yield_
  | _ => false

end ExprTree

end TraitBuilder.Syntax
