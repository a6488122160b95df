import TraitBuilder.Property.Getter

/-!
# Problems

What is reported when a trait cannot be given a builder, and how problems are collected: each one is
kept, in the order in which it was found.

* `compileErrors`: the code that makes a compiler report messages.
* `compileError_eq`: the tokens that report one message.
-/

namespace TraitBuilder

/-- A reason why no builder is generated. -/
inductive Problem where
  | argument (fault : ArgumentFault)
  /-- A method with a body has an attribute addressed to the builder. -/
  | attributeOnProvided
  | getter (fault : GetterFault)
  | constantWithoutValue
  | associatedType
  /-- Two methods of the builder would have the same name. -/
  | collision (method owner : Ident)
  | genericTrait
  deriving DecidableEq, Repr

/-- The wording of the problem. -/
def Problem.message : Problem → String
  | .argument fault => fault.message
  | .attributeOnProvided => "`#[builder]` only applies to methods without a body"
  | .getter fault => fault.message
  | .constantWithoutValue => "associated constants of a `free_builder` trait need a default value"
  | .associatedType => "`free_builder` does not support associated types"
  | .collision method owner =>
    "builder method `" ++ method.spelling ++ "` is also generated for `" ++ owner.spelling ++ "`"
  | .genericTrait => "`free_builder` does not support generic traits"

/-! ## Collecting -/

/-- The value of a result, and the problems found so far.  A failure adds its problem and counts as
the default. -/
def settle {α ε : Type} [Inhabited α] (result : Except ε α) (found : List ε) : α × List ε :=
  match result with
  | .ok value => (value, found)
  | .error problem => (default, found ++ [problem])

/-- The code that makes a compiler report a message. -/
def compileError (message : String) : Tokens :=
  let colons := operator [':', ':']
  colons ++ [Token.word "core"] ++ colons ++
    [Token.word "compile_error", .punct '!' false, .group .brace [Token.string message]]

theorem compileError_eq (message : String) :
    compileError message = [.punct ':' true, .punct ':' false, .ident ⟨"core", false⟩,
      .punct ':' true, .punct ':' false, .ident ⟨"compile_error", false⟩, .punct '!' false,
      .group .brace [.literal (Text.quote message)]] := rfl

/-- The code that makes a compiler report all messages. -/
def compileErrors (messages : List String) : Tokens := messages.flatMap compileError

end TraitBuilder
