import TraitBuilder.Code.TypeExpr

/-!
# Terms in generated code

The expressions that bodies of generated functions are made of.

* `Term.tokens_given`: tokens that the user wrote are written as they are.
-/

namespace TraitBuilder.Code

/-- What is called. -/
inductive Callee where
  | library (f : Library)
  /-- A function that belongs to a type. -/
  | associated (owner name : Ident)
  /-- The method of the user's trait, on the type whose implementation is being written. -/
  | ofTrait (traitName : Ident) (method : String)
  /-- The function that collects anything iterable into a list. -/
  | collectList (element : Ty)
  /-- The function that reads the fields of a serialized value. -/
  | readFields
  deriving DecidableEq, Repr

/-- The operators between two operands. -/
inductive Comparison where
  | equal
  | notEqual
  deriving DecidableEq, Repr

/-- An expression in generated code. -/
inductive Term where
  /-- Tokens that the user wrote. -/
  | given (tokens : Tokens)
  | var (name : Ident)
  | text (value : String)
  | number (value : Nat)
  /-- A number of the type that counts elements. -/
  | size (value : Nat)
  | truth (value : Bool)
  /-- A constant that belongs to a type. -/
  | constant (owner name : Ident)
  /-- A library function or constant as a value. -/
  | library (f : Library)
  | field (owner : Term) (name : Ident)
  /-- A call; whether a comma follows the last argument. -/
  | call (f : Callee) (arguments : List Term) (trailingComma : Bool)
  | method (receiver : Term) (name : Ident) (arguments : List Term)
  | borrow (isMut : Bool) (t : Term)
  | deref (t : Term)
  | not (t : Term)
  /-- The value of a success; a failure is returned at once. -/
  | orReturn (t : Term)
  | compare (operator : Comparison) (left right : Term)
  /-- A function of no argument. -/
  | thunk (body : Term)
  /-- A function of one argument. -/
  | closure (parameter : Ident) (body : Term)
  | array (elements : List Term)
  deriving Repr

namespace Callee

/-- The tokens of what is called. -/
def tokens : Callee → Tokens
  | .library f => f.tokens
  | .associated owner name => [.ident owner] ++ colons ++ [.ident name]
  | .ofTrait traitName method =>
    [.punct '<' false, Token.word "Self", Token.word "as", .ident traitName, .punct '>' false] ++
      colons ++ [Token.word method]
  | .collectList element =>
    [.punct '<' false] ++ (TypeExpr.list (.given element)).tokens ++ [Token.word "as"] ++
      (TypeExpr.apply ["core", "iter", "FromIterator"] (.given element)).tokensBefore true ++
      [.punct '>' false] ++ colons ++ [Token.word "from_iter"]
  | .readFields =>
    [.punct '<' false, Token.word "Fields", Token.word "as"] ++
      (TypeExpr.lifetimed ["serde", "Deserialize"] "de").tokensBefore true ++
      [.punct '>' false] ++ colons ++ [Token.word "deserialize"]

end Callee

/-- The tokens of a comparison. -/
def Comparison.tokens : Comparison → Tokens
  | .equal => operator ['=', '=']
  | .notEqual => operator ['!', '=']

/-- A number as a literal. -/
def numeral (value : Nat) (suffix : String) : Token := .literal (toString value ++ suffix)

namespace Term

mutual

/-- The tokens of a term. -/
def tokens : Term → Tokens
  | .given tokens => tokens
  | .var name => [.ident name]
  | .text value => [Token.string value]
  | .number value => [numeral value ""]
  | .size value => [numeral value "usize"]
  | .truth value => [Token.word (if value then "true" else "false")]
  | .constant owner name => [.ident owner] ++ colons ++ [.ident name]
  | .library f => f.tokens
  | .field owner name => owner.tokens ++ [.punct '.' false, .ident name]
  | .call f arguments trailingComma =>
    f.tokens ++ [.group .parenthesis
      (tokensOfAll arguments ++ if trailingComma then [.punct ',' false] else [])]
  | .method receiver name arguments =>
    receiver.tokens ++ [.punct '.' false, .ident name, .group .parenthesis (tokensOfAll arguments)]
  | .borrow isMut t =>
    [.punct '&' false] ++ (if isMut then [Token.word "mut"] else []) ++ t.tokens
  | .deref t => .punct '*' false :: t.tokens
  | .not t => .punct '!' false :: t.tokens
  | .orReturn t => t.tokens ++ [.punct '?' false]
  | .compare op left right => left.tokens ++ op.tokens ++ right.tokens
  | .thunk body => operator ['|', '|'] ++ body.tokens
  | .closure parameter body =>
    [.punct '|' false, .ident parameter, .punct '|' false] ++ body.tokens
  | .array elements => [.group .bracket (tokensOfAll elements)]

/-- The tokens of terms with commas between them. -/
def tokensOfAll : List Term → Tokens
  | [] => []
  | [t] => t.tokens
  | t :: rest => t.tokens ++ [.punct ',' false] ++ tokensOfAll rest

end

@[simp] theorem tokens_given (ts : Tokens) : (given ts).tokens = ts := by
  simp [tokens]

/-! ## Common terms -/

/-- The receiver of a method. -/
def self : Term := .var (plain "self")

/-- A field of the receiver. -/
def ownField (name : Ident) : Term := .field self name

/-- A reference to a field of the receiver. -/
def ownFieldRef (name : Ident) : Term := .borrow false (ownField name)

/-- A call of a library function. -/
def apply (f : Library) (arguments : List Term) : Term := .call (.library f) arguments false

/-- A call of a method of the receiver. -/
def ownMethod (name : Ident) (arguments : List Term) : Term := .method self name arguments

/-- The option that holds a value. -/
def some (t : Term) : Term := apply .some [t]

/-- The option without a value. -/
def none : Term := .library .none

/-- A copy of what the reference refers to. -/
def clone (reference : Term) : Term := apply .clone [reference]

end Term

end TraitBuilder.Code
