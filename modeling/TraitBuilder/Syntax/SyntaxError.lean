import TraitBuilder.Token.Basic

/-!
# Syntax errors

Why a sequence of tokens is not the syntax wanted, each cause with its wording.

* `SyntaxError.message`: the wording.
* `SyntaxError.leftIn`: the error of tokens left over in a group.
-/

namespace TraitBuilder.Syntax

/-- Why a sequence of tokens is not the syntax wanted. -/
inductive SyntaxError where
  /-- One of certain things was wanted; at the end of the tokens the wording says so. -/
  | expected (wanted : List String) (atEnd : Bool)
  /-- A certain operator or separator was wanted. -/
  | missing (symbol : String)
  /-- A keyword stands where a name was wanted. -/
  | keyword (word : String)
  /-- Tokens are left over, or tokens of no use. -/
  | unexpected
  /-- A token stands where only a certain character could. -/
  | surplus (wanted : Char)
  /-- A comparison is compared. -/
  | chainedComparison
  /-- Something is applied to the type of a cast. -/
  | appliedToCast (what : String)
  /-- The value of an attribute begins with an attribute. -/
  | nestedAttribute
  /-- The value of a `break` begins with a label. -/
  | bareLabel
  /-- Attributes stand before a range without a lower end. -/
  | attributedRange
  /-- A range without one of its ends is an element of a slice pattern. -/
  | openRangeInSlice
  /-- The number of a field has a suffix. -/
  | suffixedIndex
  /-- The number of a field has a sign. -/
  | signedIndex
  /-- The number of a field takes more than 32 bits. -/
  | largeIndex
  /-- An object type has no trait among its bounds. -/
  | objectWithoutTrait
  /-- An opaque type has no trait among its bounds. -/
  | opaqueWithoutTrait
  /-- A bound for constant contexts stands where none may; it may be written in brackets. -/
  | constantBound (bracketed : Bool)
  /-- The names that a hidden type may use stand where no hidden type is. -/
  | misplacedCaptures
  /-- A relaxed bound introduces lifetimes. -/
  | relaxedWithBinder
  /-- A where clause begins with generic parameters. -/
  | conditionParameters
  /-- An implementation without a trait is negated. -/
  | negatedInherent
  /-- A receiver is not the first parameter; it may even be the second receiver. -/
  | lateReceiver (second : Bool)
  deriving DecidableEq, Repr

namespace SyntaxError

/-- What was wanted, in words. -/
def wording : List String → String
  | [] => ""
  | [a] => "expected " ++ a
  | [a, b] => "expected " ++ a ++ " or " ++ b
  | wanted => "expected one of: " ++ String.intercalate ", " wanted

/-- The wording of the error. -/
def message : SyntaxError → String
  | .expected [] atEnd => if atEnd then "unexpected end of input" else "unexpected token"
  | .expected wanted atEnd =>
    (if atEnd then "unexpected end of input, " else "") ++ wording wanted
  | .missing symbol => "expected `" ++ symbol ++ "`"
  | .keyword word => "expected identifier, found keyword `" ++ word ++ "`"
  | .unexpected => "unexpected token"
  | .surplus wanted => "unexpected token, expected `" ++ wanted.toString ++ "`"
  | .chainedComparison => "comparison operators cannot be chained"
  | .appliedToCast what => "casts cannot be followed by " ++ what
  | .nestedAttribute => "unexpected attribute inside of attribute"
  | .bareLabel => "parentheses required"
  | .attributedRange => "attributes are not allowed on range expressions starting with `..`"
  | .openRangeInSlice => "range pattern is not allowed unparenthesized inside slice pattern"
  | .suffixedIndex => "expected unsuffixed integer"
  | .signedIndex => "invalid digit found in string"
  | .largeIndex => "number too large to fit in target type"
  | .objectWithoutTrait => "at least one trait is required for an object type"
  | .opaqueWithoutTrait => "at least one trait must be specified"
  | .constantBound bracketed =>
    (if bracketed then "`[const]`" else "`const`") ++ " is not allowed here"
  | .misplacedCaptures => "`use<...>` precise capturing syntax is not allowed here"
  | .relaxedWithBinder => "`for<...>` binder not allowed with `?` trait polarity modifier"
  | .conditionParameters => "generic parameters on `where` clauses are reserved for future use"
  | .negatedInherent => "inherent impls cannot be negative"
  | .lateReceiver second =>
    if second then "unexpected second method receiver" else "unexpected method receiver"

/-- The error of tokens left over in a group with delimiter `d`. -/
def leftIn : Delimiter → SyntaxError
  | .parenthesis => .surplus ')'
  | .bracket => .surplus ']'
  | .brace => .surplus '}'
  | .invisible => .unexpected

end SyntaxError

end TraitBuilder.Syntax
