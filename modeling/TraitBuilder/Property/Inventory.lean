import TraitBuilder.Property.Member
import TraitBuilder.Property.Problem

/-!
# Inventories

What the items of a trait yield: properties, the setters that the builder's constructor calls,
problems, and the items themselves without the attributes addressed to the builder.  Every item is
judged alone; the inventory of a list is those of its items one after the other.

* `Inventory.ofItems_append`: the inventory of a list is that of its parts.
* `collisions`: the problems of members whose methods bear the same name.
-/

namespace TraitBuilder

/-- What items of a trait yield. -/
structure Inventory where
  properties : List Property := []
  invocations : List Invocation := []
  problems : List Problem := []
  items : List TraitItem := []
  deriving DecidableEq, Repr

namespace Inventory

/-- One inventory after the other. -/
def append (a b : Inventory) : Inventory where
  properties := a.properties ++ b.properties
  invocations := a.invocations ++ b.invocations
  problems := a.problems ++ b.problems
  items := a.items ++ b.items

instance : Append Inventory := ⟨append⟩

/-- The calls of the constructor for a property with the given default value. -/
def invocationsFor (p : Property) : Option Expr → List Invocation
  | some argument => [⟨p.setter, argument⟩]
  | none => []

/-- What a getter yields: the problems of its attributes come before its own. -/
def ofGetter (attributes : List Attribute) (signature : Signature) : Inventory :=
  let kept := keptAttributes attributes
  let items := [TraitItem.method kept signature none]
  let (default, faults) : Option Expr × List ArgumentFault :=
    match defaultOf? (builderAttributes attributes) with
    | .ok default => (default, [])
    | .error faults => (none, faults)
  let argumentProblems := faults.map Problem.argument
  match Property.ofGetter? signature kept with
  | .error fault => { problems := argumentProblems ++ [.getter fault], items := items }
  | .ok p =>
    { properties := [p], invocations := invocationsFor p default, problems := argumentProblems,
      items := items }

theorem items_ofGetter (attributes : List Attribute) (s : Signature) :
    (ofGetter attributes s).items = [.method (keptAttributes attributes) s none] := by
  unfold ofGetter
  grind

/-- What an item yields. -/
def ofItem (item : TraitItem) : Inventory :=
  match item with
  | .method attributes signature none => ofGetter attributes signature
  | .method attributes signature (some body) =>
    { problems := if (builderAttributes attributes).isEmpty then [] else [.attributeOnProvided]
      items := [.method (keptAttributes attributes) signature (some body)] }
  | .constant _ _ _ none => { problems := [.constantWithoutValue], items := [item] }
  | .associatedType _ _ _ => { problems := [.associatedType], items := [item] }
  | item => { items := [item] }

/-- What the items yield together. -/
def ofItems : List TraitItem → Inventory
  | [] => {}
  | item :: rest => ofItem item ++ ofItems rest

theorem append_def (a b : Inventory) :
    a ++ b = ⟨a.properties ++ b.properties, a.invocations ++ b.invocations,
      a.problems ++ b.problems, a.items ++ b.items⟩ := rfl

theorem append_assoc (a b c : Inventory) : a ++ b ++ c = a ++ (b ++ c) := by
  simp [append_def]

theorem nil_append (a : Inventory) : ({} : Inventory) ++ a = a := by
  simp [append_def]

theorem ofItems_append (as bs : List TraitItem) :
    ofItems (as ++ bs) = ofItems as ++ ofItems bs := by
  induction as with
  | nil => simp [ofItems, nil_append]
  | cons a as ih => simp [ofItems, ih, append_assoc]

end Inventory

/-! ## Collisions -/

/-- The methods of the members in order, each with the property that it belongs to. -/
def methodOwners (members : List Member) : List (Ident × Ident) :=
  members.flatMap fun m => m.builderMethods.map fun method => (method, m.name)

/-- The problems of methods whose names are taken, where `seen` are the methods before. -/
def collisionsAfter (seen : List (Ident × Ident)) : List (Ident × Ident) → List Problem
  | [] => []
  | (method, owner) :: rest =>
    match seen.find? (·.1 = method) with
    | some (_, first) => .collision method first :: collisionsAfter seen rest
    | none => collisionsAfter (seen ++ [(method, owner)]) rest

/-- The problems of members whose methods bear the same name. -/
def collisions (members : List Member) : List Problem := collisionsAfter [] (methodOwners members)

end TraitBuilder
