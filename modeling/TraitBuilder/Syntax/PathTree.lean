import TraitBuilder.Syntax.Ty

/-!
# Paths with arguments

A path whose segments may have arguments in angle brackets.  Only the last segment is kept apart,
since it alone decides what a type is; the path can be extended by a further segment.
-/

namespace TraitBuilder.Syntax

/-- The arguments of a path segment. -/
inductive Arguments where
  /-- None, or arguments of which the first is no type. -/
  | plain (tokens : Tokens)
  /-- Arguments of which the first is a type, with what stands before and after it. -/
  | typed (opening : Tokens) (first : Ty) (more : Tokens)
  deriving DecidableEq, Repr

namespace Arguments

/-- The arguments as syntax writes them. -/
def tokens : Arguments → Tokens
  | .plain tokens => tokens
  | .typed opening first more => opening ++ first.tokens ++ more

/-- Whether the segment has no arguments. -/
def isNone : Arguments → Bool
  | .plain [] => true
  | _ => false

/-- Whether there is no argument.  Angle brackets may stand around nothing; whatever argument comes
first, unless it is a type, it holds more than operator characters. -/
def isEmpty : Arguments → Bool
  | .plain tokens => tokens.all (· matches .punct _ _)
  | .typed _ _ _ => false

/-- The path with the given head and arguments. -/
def toTy (head : PathHead) : Arguments → Ty
  | .plain tokens => .path head tokens
  | .typed opening first more => .applied head opening first more

end Arguments

/-- A path with arguments. -/
structure PathTree where
  /-- What precedes the last segment, and its name. -/
  head : PathHead
  /-- The arguments of the last segment. -/
  arguments : Arguments
  /-- Whether no segment has arguments. -/
  plain : Bool
  deriving DecidableEq, Repr

namespace PathTree

/-- The path as a type. -/
def toTy (p : PathTree) : Ty := p.arguments.toTy p.head

/-- The path as syntax writes it. -/
def tokens (p : PathTree) : Tokens := p.head.tokens ++ p.arguments.tokens

/-- The path of one segment, with what stands before it. -/
def single (qualified : Bool) (lead : Tokens) (name : Ident) (arguments : Arguments) : PathTree :=
  ⟨⟨qualified, lead, name⟩, arguments, !qualified && arguments.isNone⟩

/-- The path extended by one segment. -/
def extend (p : PathTree) (name : Ident) (arguments : Arguments) : PathTree :=
  ⟨⟨p.head.qualified, p.tokens ++ operator [':', ':'], name⟩, arguments,
    p.plain && arguments.isNone⟩

/-- The path with other arguments of its last segment. -/
def withArguments (p : PathTree) (arguments : Arguments) : PathTree :=
  { p with arguments := arguments, plain := false }

/-- The path that a type is. -/
def ofTy? : Ty → Option PathTree
  | .path head tokens => some ⟨head, .plain tokens, false⟩
  | .applied head opening first more => some ⟨head, .typed opening first more, false⟩
  | _ => none

end PathTree

end TraitBuilder.Syntax
