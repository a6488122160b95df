import TraitBuilder.Token.Basic

/-!
# Chunks

A long sequence of tokens cut where an item or statement ends: after every group in braces and after
every semicolon, neither of them inside another group.
-/

namespace TraitBuilder

/-- Whether a chunk ends with `t`. -/
def Token.endsChunk : Token → Bool
  | .group .brace _ => true
  | .punct ';' _ => true
  | _ => false

/-- The chunks of a sequence; no chunk is empty. -/
def Tokens.chunks : List Token → List (List Token)
  | [] => []
  | t :: rest =>
    if t.endsChunk then [t] :: Tokens.chunks rest
    else match Tokens.chunks rest with
      | [] => [[t]]
      | chunk :: others => (t :: chunk) :: others

end TraitBuilder
