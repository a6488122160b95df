import TraitBuilder.Argument.Reading

/-!
# Options of a trait

The arguments of the attribute on a trait rename the generated types and switch features.

* `Options.ofTokens?`: the options that an argument list asks for, or all its faults.
-/

namespace TraitBuilder

/-- What the arguments of the attribute on a trait ask for; `none` where they are silent. -/
structure Options where
  builder : Option Ident := none
  value : Option Ident := none
  partialType : Option Ident := none
  /-- Whether the builder can be created from outside. -/
  builderFactory : Option Bool := none
  serde : Bool := false
  deriving DecidableEq, Repr

namespace Options

/-- The names of the options. -/
def names : List String := ["builder", "value", "partial", "builder_factory", "serde"]

/-- The options with that of the given name taken from an entry. -/
def accept (name : String) (body : EntryBody) (o : Options) : Except ArgumentFault Options := do
  if name = "builder" then return { o with builder := some (← body.ident?) }
  else if name = "value" then return { o with value := some (← body.ident?) }
  else if name = "partial" then return { o with partialType := some (← body.ident?) }
  else if name = "builder_factory" then return { o with builderFactory := some (← body.truth?) }
  else
    body.switch?
    return { o with serde := true }

/-- The options that the entries ask for. -/
def ofEntries? (entries : List Entry) : Except (List ArgumentFault) Options :=
  ((Reading.start {}).addAll names accept entries).result

/-- The options that an argument list asks for. -/
def ofTokens? (ts : Tokens) : Except (List ArgumentFault) Options :=
  match Entry.listOfTokens? ts with
  | .ok entries => ofEntries? entries
  | .error e => .error [.malformed e]

end Options

end TraitBuilder
