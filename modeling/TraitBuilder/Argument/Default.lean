import TraitBuilder.Argument.Reading

/-!
# Attributes of a getter

A getter may carry attributes named `builder`.  They are taken off it, and all their arguments
together, as one list, may give the property a default value.

* `defaultOf?`: the default value that the attributes give, or all their faults.
* `isBuilderAttribute`, `docAttributes`: the attributes that are taken off, and those that document.
-/

namespace TraitBuilder

/-- Whether the attribute is addressed to the builder. -/
def isBuilderAttribute (a : Attribute) : Bool := a.is "builder"

/-- The attributes addressed to the builder. -/
def builderAttributes (attributes : List Attribute) : List Attribute :=
  attributes.filter isBuilderAttribute

/-- The attributes that are left when those addressed to the builder are taken off. -/
def keptAttributes (attributes : List Attribute) : List Attribute :=
  attributes.filter (!isBuilderAttribute ·)

/-- The attributes that document what they stand on. -/
def docAttributes (attributes : List Attribute) : List Attribute :=
  attributes.filter (·.is "doc")

/-- The only argument of a getter's attributes. -/
def defaultName : String := "default"

/-- The default value taken from an entry. -/
def acceptDefault (_ : String) (body : EntryBody) (_ : Option Expr) :
    Except ArgumentFault (Option Expr) := body.expr?.map some

/-- Takes the entries of one attribute. -/
def addAttribute (r : Reading (Option Expr)) (a : Attribute) : Reading (Option Expr) :=
  match a.body with
  | .word => r
  | .value _ => r.fail .noList
  | .list _ content =>
    match Entry.listOfTokens? content with
    | .ok entries => r.addAll [defaultName] acceptDefault entries
    | .error e => r.fail (.malformed e)

/-- The default value that attributes addressed to the builder give. -/
def defaultOf? (attributes : List Attribute) : Except (List ArgumentFault) (Option Expr) :=
  (attributes.foldl addAttribute (Reading.start none)).result

end TraitBuilder
