import TraitBuilder.Token.Basic

/-!
# The text of tokens

Tokens are written with one blank between neighbours, except after a joint punctuation character.
Parentheses and brackets enclose their content directly, braces with a blank on either side, and an
invisible group is written as its content alone.
-/

namespace TraitBuilder

namespace Delimiter

/-- What opens a group. -/
def opening : Delimiter → String
  | .parenthesis => "("
  | .bracket => "["
  | .brace => "\x7b "
  | .invisible => ""

/-- What closes a group of the given content. -/
def closing (content : Tokens) : Delimiter → List String
  | .parenthesis => [")"]
  | .bracket => ["]"]
  | .brace => if content.isEmpty then ["\x7d"] else [" ", "\x7d"]
  | .invisible => []

end Delimiter

/-- What stands between `t` and the tokens `rest` that follow it. -/
def separator (t : Token) (rest : Tokens) : List String :=
  if rest.isEmpty || t.isJoint then [] else [" "]

mutual

/-- The text of a token in pieces. -/
def Token.pieces : Token → List String
  | .ident x => [x.spelling]
  | .punct c _ => [String.singleton c]
  | .literal text => [text]
  | .group d content => d.opening :: (Tokens.pieces content ++ d.closing content)

/-- The text of a sequence of tokens in pieces. -/
def Tokens.pieces : List Token → List String
  | [] => []
  | t :: rest => t.pieces ++ (separator t rest ++ Tokens.pieces rest)

end

/-- The text of a sequence of tokens. -/
def Tokens.text (ts : Tokens) : String := String.join (Tokens.pieces ts)

end TraitBuilder
