import TraitBuilder.Syntax.Statement

/-!
# The language

The grammars of all levels, and the readers of whole token sequences.  The grammar of level `n + 1`
uses that of level `n` for what is nested, so a level as high as the number of tokens reads
everything.

* `Ty.ofTokens?`, `TraitDecl.ofTokens?`, `Attribute.listOfTokens?`, `Expr.ofTokens?`,
  `Ident.ofTokens?`, `visibilityOfTokens?`: the readers.
-/

namespace TraitBuilder

namespace Syntax

/-- The grammar whose readers may nest `n` deep. -/
def Grammar.level : Nat → Grammar
  | 0 => .empty
  | n + 1 =>
    let g := Grammar.level n
    { ty := readType g
      bound := discard (Syntax.bound g false true)
      expr := readExpr g
      unary := readUnary g
      operators := readOperators g
      statement := readStatementExpr g
      pattern := readPattern g
      block := readBlock g
      statements := readStatements g
      item := readItem g }

/-- A grammar that reads all that `ts` may hold. -/
def Grammar.forTokens (ts : Tokens) : Grammar := .level (2 * Tokens.size ts + 8)

/-- Reads all of `ts`. -/
def parse {α : Type} (r : Grammar → Reader α) (ts : Tokens) : Except SyntaxError (α × Tokens) :=
  readAll (r (.forTokens ts)) ts

end Syntax

open Syntax

/-- An expression: its form and its tokens as syntax writes them. -/
structure Expr where
  form : Form
  tokens : Tokens
  deriving DecidableEq, Repr

/-- The expression that the tokens are. -/
def Expr.ofTokens? (ts : Tokens) : Except SyntaxError Expr :=
  (parse (·.expr true) ts).map fun (e, _) => ⟨e.form, e.tokens⟩

/-- The type that the tokens are. -/
def Ty.ofTokens? (ts : Tokens) : Except SyntaxError Ty := (parse (·.ty true true) ts).map (·.1)

/-- The trait that the tokens declare. -/
def TraitDecl.ofTokens? (ts : Tokens) : Except SyntaxError TraitDecl :=
  (parse (fun g => do traitAfterAttributes g (← outerAttributes g)) ts).map (·.1)

/-- The attributes that the tokens are. -/
def Attribute.listOfTokens? (ts : Tokens) : Except SyntaxError (List Attribute) :=
  (parse outerAttributes ts).map (·.1)

/-- The name that the tokens are. -/
def Ident.ofTokens? (ts : Tokens) : Except SyntaxError Ident :=
  (parse (fun _ => Syntax.name) ts).map (·.1)

/-- The identifier, keyword or not, that the tokens are. -/
def Ident.anyOfTokens? (ts : Tokens) : Except SyntaxError Ident :=
  (parse (fun _ => Syntax.anyIdent) ts).map (·.1)

/-- The tokens of a visibility, if the tokens are one. -/
def visibilityOfTokens? (ts : Tokens) : Except SyntaxError Tokens :=
  (parse (fun _ => Syntax.visibility) ts).map (·.2)

end TraitBuilder
