import TraitBuilder.Argument.Options
import TraitBuilder.Generated.Source
import TraitBuilder.Property.Inventory

/-!
# Expansion of a trait

A trait with the attribute is replaced by itself, without the attributes addressed to the builder,
and by the generated code after it.  If anything is wrong with its items, the problems stand in
place of the generated code.

* `expand`: the expansion, or why there is none.
* `expand_of_options`: the expansion of a trait that is not generic.
-/

namespace TraitBuilder

namespace TraitDecl

/-- What the items of the trait yield. -/
def inventory (t : TraitDecl) : Inventory := .ofItems t.items

/-- The trait without the attributes addressed to the builder. -/
def strip (t : TraitDecl) : TraitDecl := { t with items := t.inventory.items }

/-- The members that the getters of the trait are. -/
def members (t : TraitDecl) : List Member :=
  t.inventory.properties.map (classify t.inventory.invocations)

/-- Everything that is wrong with the items of the trait: the problems of single items come before
those of items that do not go together. -/
def problems (t : TraitDecl) : List Problem := t.inventory.problems ++ collisions t.members

/-- What is to be generated for the trait. -/
def blueprint (t : TraitDecl) (o : Options) : Blueprint :=
  let derived (ending : String) : Ident := ⟨t.name.name ++ ending, false⟩
  { typeName := t.name
    visibility := t.visibility
    builder := o.builder.getD (derived "Builder")
    value := o.value.getD (derived "Value")
    partialType := o.partialType.getD (derived "Partial")
    propertyEnum := derived "Property"
    buildError := derived "BuildError"
    members := t.members
    builderFactory := o.builderFactory.getD true
    standards := .ofTrait t
    debugSupertrait := t.hasDebug
    serde := o.serde }

end TraitDecl

/-- Why there is no expansion. -/
inductive ExpansionFailure where
  /-- The arguments or the trait are refused, for these reasons. -/
  | refused (problems : List Problem)
  /-- A required property cannot be tracked, since its label gives no identifier. -/
  | untrackable (invalid : Ident.Invalid)
  deriving DecidableEq, Repr

/-- What stands after the trait in its expansion. -/
def TraitDecl.continuation (t : TraitDecl) (o : Options) : Except Ident.Invalid Tokens :=
  if t.problems.isEmpty then (t.blueprint o).tokens?
  else .ok (compileErrors (t.problems.map Problem.message))

namespace TraitDecl

variable {t : TraitDecl}

theorem continuation_of_problems (h : t.problems ≠ []) (o : Options) :
    t.continuation o = .ok (compileErrors (t.problems.map Problem.message)) := by
  simp [continuation, h]

theorem continuation_of_faultless (h : t.problems = []) (o : Options) :
    t.continuation o = (t.blueprint o).tokens? := by
  simp [continuation, h]

/-- Only a label that cannot be tracked, in a trait without problems, keeps the code from being
written. -/
theorem continuation_eq_error_iff {o : Options} {invalid : Ident.Invalid} :
    t.continuation o = .error invalid ↔
      t.problems = [] ∧ (t.blueprint o).invalidVariant? = some invalid := by
  by_cases h : t.problems = []
  · rw [continuation_of_faultless h, Blueprint.tokens?]
    cases (t.blueprint o).invalidVariant? <;> simp [h]
  · simp [continuation_of_problems h, h]

end TraitDecl

/-- The expansion of a trait with the arguments of its attribute. -/
def expand (arguments : Tokens) (t : TraitDecl) : Except ExpansionFailure Tokens :=
  match Options.ofTokens? arguments with
  | .error faults => .error (.refused (faults.map .argument))
  | .ok o =>
    if !t.generics.isPlain then .error (.refused [.genericTrait])
    else match t.continuation o with
      | .error invalid => .error (.untrackable invalid)
      | .ok rest => .ok (t.strip.tokens ++ rest)

/-- The arguments decide only by their options. -/
theorem expand_of_options {arguments : Tokens} {t : TraitDecl} {o : Options}
    (hoptions : Options.ofTokens? arguments = .ok o) (hplain : t.generics.isPlain = true) :
    expand arguments t = match t.continuation o with
      | .error invalid => .error (.untrackable invalid)
      | .ok rest => .ok (t.strip.tokens ++ rest) := by
  rw [expand, hoptions]
  simp only [hplain]
  rfl

end TraitBuilder
