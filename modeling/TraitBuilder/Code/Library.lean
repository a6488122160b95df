import TraitBuilder.Token.Basic

/-!
# The libraries that generated code uses

Generated code names everything outside of itself by its full path, so that nothing in scope can
come between.
-/

namespace TraitBuilder.Code

/-- The tokens `::`. -/
def colons : Tokens := operator [':', ':']

/-- The tokens of a full path. -/
def pathTokens (path : List String) : Tokens :=
  path.flatMap fun name => colons ++ [Token.word name]

/-- The functions and constants that generated code uses. -/
inductive Library where
  | some | none | mapOption | asRef | asDeref | okOrElse
  | ok | err
  | clone | into | toOwned
  | cloned | copied | collect | enumerate | mapEach | equalEach | intoIter | extend
  | hash | display
  | emptyList | setOf
  | serializeStruct | serializeField | endStruct | customError
  deriving DecidableEq, Repr

namespace Library

/-- The path of a function. -/
def path : Library → List String
  | .some => ["core", "option", "Option", "Some"]
  | .none => ["core", "option", "Option", "None"]
  | .mapOption => ["core", "option", "Option", "map"]
  | .asRef => ["core", "option", "Option", "as_ref"]
  | .asDeref => ["core", "option", "Option", "as_deref"]
  | .okOrElse => ["core", "option", "Option", "ok_or_else"]
  | .ok => ["core", "result", "Result", "Ok"]
  | .err => ["core", "result", "Result", "Err"]
  | .clone => ["core", "clone", "Clone", "clone"]
  | .into => ["core", "convert", "Into", "into"]
  | .toOwned => ["std", "borrow", "ToOwned", "to_owned"]
  | .cloned => ["core", "iter", "Iterator", "cloned"]
  | .copied => ["core", "iter", "Iterator", "copied"]
  | .collect => ["core", "iter", "Iterator", "collect"]
  | .enumerate => ["core", "iter", "Iterator", "enumerate"]
  | .mapEach => ["core", "iter", "Iterator", "map"]
  | .equalEach => ["core", "iter", "Iterator", "eq"]
  | .intoIter => ["core", "iter", "IntoIterator", "into_iter"]
  | .extend => ["core", "iter", "Extend", "extend"]
  | .hash => ["core", "hash", "Hash", "hash"]
  | .display => ["core", "fmt", "Display", "fmt"]
  | .emptyList => ["std", "vec", "Vec", "new"]
  | .setOf => ["std", "collections", "BTreeSet", "from"]
  | .serializeStruct => ["serde", "Serializer", "serialize_struct"]
  | .serializeField => ["serde", "ser", "SerializeStruct", "serialize_field"]
  | .endStruct => ["serde", "ser", "SerializeStruct", "end"]
  | .customError => ["serde", "de", "Error", "custom"]

/-- The tokens of a function. -/
def tokens (f : Library) : Tokens := pathTokens f.path

end Library

end TraitBuilder.Code
