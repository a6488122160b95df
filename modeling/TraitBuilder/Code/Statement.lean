import TraitBuilder.Code.Term

/-!
# Statements and bodies in generated code

A body is a list of statements and what the function hands back after them.  A record is always one
of the type whose implementation is being written.

* `Statement.tokensOfAll_append`: bodies are written statement by statement.
-/

namespace TraitBuilder.Code

/-- What the elements of a loop are bound to. -/
inductive Binder where
  | one (name : Ident)
  /-- The position and the element. -/
  | numbered (position element : Ident)
  deriving DecidableEq, Repr

/-- A statement in generated code. -/
inductive Statement where
  /-- A term that is evaluated for its effect. -/
  | run (t : Term)
  | assign (target value : Term)
  | bind (isMut : Bool) (name : Ident) (value : Term)
  | when (condition : Term) (body : List Statement)
  /-- Runs the body if the option holds a value, bound to the name. -/
  | whenSome (name : Ident) (value : Term) (body : List Statement)
  | each (binder : Binder) (iterable : Term) (body : List Statement)
  /-- Hands back a term at once. -/
  | leave (t : Term)
  deriving Repr

/-- A record: the fields with their values. -/
abbrev Record := List (Ident × Term)

/-- What a body hands back. -/
inductive Outcome where
  | nothing
  | term (t : Term)
  | record (fields : Record)
  /-- The record as a success. -/
  | okRecord (fields : Record)
  /-- The term for the value of an option, bound to the name; without a value it panics. -/
  | expect (option : Term) (name : Ident) (found : Term) (message : String)
  /-- The text that belongs to the receiver's variant. -/
  | labels (arms : List (Ident × String))
  /-- Whether all tests hold. -/
  | all (tests : List Term)
  deriving Repr

/-- The body of a function. -/
structure Body where
  statements : List Statement
  outcome : Outcome
  deriving Repr

/-! ## Tokens -/

/-- The tokens of what the elements of a loop are bound to. -/
def Binder.tokens : Binder → Tokens
  | .one name => [.ident name]
  | .numbered position element =>
    [.group .parenthesis [.ident position, .punct ',' false, .ident element]]

namespace Statement

/-- The semicolon. -/
def semicolon : Token := .punct ';' false

mutual

/-- The tokens of a statement. -/
def tokens : Statement → Tokens
  | .run t => t.tokens ++ [semicolon]
  | .assign target value => target.tokens ++ [.punct '=' false] ++ value.tokens ++ [semicolon]
  | .bind isMut name value =>
    [Token.word "let"] ++ (if isMut then [Token.word "mut"] else []) ++
      [.ident name, .punct '=' false] ++ value.tokens ++ [semicolon]
  | .when condition body =>
    [Token.word "if"] ++ condition.tokens ++ [.group .brace (tokensOfAll body)]
  | .whenSome name value body =>
    [Token.word "if", Token.word "let"] ++ Library.tokens .some ++
      [.group .parenthesis [.ident name], .punct '=' false] ++ value.tokens ++
      [.group .brace (tokensOfAll body)]
  | .each binder iterable body =>
    [Token.word "for"] ++ binder.tokens ++ [Token.word "in"] ++ iterable.tokens ++
      [.group .brace (tokensOfAll body)]
  | .leave t => [Token.word "return"] ++ t.tokens ++ [semicolon]

/-- The tokens of statements one after the other. -/
def tokensOfAll : List Statement → Tokens
  | [] => []
  | s :: rest => s.tokens ++ tokensOfAll rest

end

theorem tokensOfAll_append (as bs : List Statement) :
    tokensOfAll (as ++ bs) = tokensOfAll as ++ tokensOfAll bs := by
  induction as with
  | nil => simp [tokensOfAll]
  | cons a as ih => simp [tokensOfAll, ih]

end Statement

/-- The tokens of one field of a record. -/
def fieldValueTokens (name : Ident) (value : Term) : Tokens :=
  [.ident name, .punct ':' false] ++ value.tokens ++ [.punct ',' false]

/-- The tokens of the fields of a record. -/
def Record.tokens (fields : Record) : Tokens :=
  fields.flatMap fun (name, value) => fieldValueTokens name value

/-- The tokens of a record with its braces. -/
def Record.braced (fields : Record) : Tokens :=
  [Token.word "Self", .group .brace (Record.tokens fields)]

/-- The tokens of a panic with a message. -/
def panicTokens (message : String) : Tokens :=
  pathTokens ["core", "panic"] ++
    [.punct '!' false, .group .parenthesis [Token.string message]]

namespace Outcome

/-- The arrow of an arm. -/
def arrow : Tokens := operator ['=', '>']

/-- The tokens of an outcome. -/
def tokens : Outcome → Tokens
  | .nothing => []
  | .term t => t.tokens
  | .record fields => Record.braced fields
  | .okRecord fields => Library.tokens .ok ++ [.group .parenthesis (Record.braced fields)]
  | .expect option name found message =>
    [Token.word "match"] ++ option.tokens ++ [.group .brace
      (Library.tokens .some ++ [.group .parenthesis [.ident name]] ++ arrow ++ found.tokens ++
        [.punct ',' false] ++ Library.tokens .none ++ arrow ++ panicTokens message ++
        [.punct ',' false])]
  | .labels arms =>
    [Token.word "match", Token.word "self", .group .brace
      (arms.flatMap fun (variant, label) =>
        [Token.word "Self"] ++ colons ++ [.ident variant] ++ arrow ++
          [Token.string label, .punct ',' false])]
  | .all tests => tests.flatMap (fun t => t.tokens ++ operator ['&', '&']) ++ [Token.word "true"]

end Outcome

namespace Body

/-- The tokens between the braces of a body. -/
def tokens (b : Body) : Tokens := Statement.tokensOfAll b.statements ++ b.outcome.tokens

/-- The body that hands back a term. -/
def term (t : Term) : Body := ⟨[], .term t⟩

end Body

end TraitBuilder.Code
