import TraitBuilder.Syntax.Language
import TraitBuilder.Text.Similarity
import TraitBuilder.Token.LiteralValue

/-!
# Faults of attribute arguments

What can be wrong with one entry of an argument list.  A list that is no syntax at all has one fault
only; otherwise every entry is judged and all faults are reported.
-/

namespace TraitBuilder

/-- What is wrong with an argument list or with one of its entries. -/
inductive ArgumentFault where
  /-- The list is no argument list. -/
  | malformed (error : Syntax.SyntaxError)
  /-- The attribute has a value where a list of arguments was wanted. -/
  | noList
  | literalEntry
  | wordEntry
  | listEntry
  /-- The value of the entry is of another kind than wanted. -/
  | valueKind (kind : String)
  /-- The value is a string with a text that is not wanted. -/
  | unknownValue (text : String)
  /-- The entry has a name that is not known, perhaps close to one that is. -/
  | unknownName (name : String) (suggestion : Option String)
  | duplicate (name : String)
  deriving DecidableEq, Repr

namespace ArgumentFault

/-- The wording of the fault. -/
def message : ArgumentFault → String
  | .malformed error => error.message
  | .noList => "Name-value arguments are not supported. Use #[builder(...)]"
  | .literalEntry => "Unexpected meta-item format `literal`"
  | .wordEntry => "Unexpected meta-item format `word`"
  | .listEntry => "Unexpected meta-item format `list`"
  | .valueKind kind => "Unexpected type `" ++ kind ++ "`"
  | .unknownValue text => "Unknown literal value `" ++ text ++ "`"
  | .unknownName name none => "Unknown field: `" ++ name ++ "`"
  | .unknownName name (some other) =>
    "Unknown field: `" ++ name ++ "`. Did you mean `" ++ other ++ "`?"
  | .duplicate name => "Duplicate field `" ++ name ++ "`"

/-- The fault of a name that is none of the known ones. -/
def unknownAmong (known : List String) (name : String) : ArgumentFault :=
  .unknownName name (Text.Similarity.closest name known)

end ArgumentFault

end TraitBuilder
