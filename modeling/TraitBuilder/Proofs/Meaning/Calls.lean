import TraitBuilder.Generated.Value
import TraitBuilder.Proofs.Meaning.Evaluation

/-!
# Calls of generated functions

What the functions of a blueprint do when they call each other.  Calls are followed to a given
depth; the generated functions call each other at most three deep.

* `Blueprint.link`: what a call does, to a given depth.
* `Blueprint.WellNamed`: the names that must differ for the generated code to compile.
* `Blueprint.method_builder`: a method of the builder is run if its name is its own.
-/

namespace TraitBuilder

open Code Meaning

namespace Blueprint

variable {D : Type}

/-- The functions that are found by name on an instance, or on the type itself. -/
def functionsOf (b : Blueprint) : Kind → List Function
  | .builder => b.builderFunctions
  | .value => b.valueFunctions
  | .partialType => [b.partialNew]
  | .buildError => [b.errorNew, b.errorProperties]
  | .written | .shadow => []

/-- The getters that implement the user's trait. -/
def traitGettersOf (b : Blueprint) : Kind → List Function
  | .value => b.valueGetters
  | .partialType => b.partialGetters
  | _ => []

/-- What the bodies of a type depend on, when calls do what `inner` says. -/
def context (b : Blueprint) (given : Tokens → Value D) (kind : Kind) (inner : Link D) :
    Context D where
  given := given
  declared := b.required.map (·.property.variant)
  kind := kind
  link := inner

/-- The function of the given name. -/
def findFunction (fs : List Function) (name : Ident) : Option Function :=
  fs.find? fun f => f.name.name = name.name

/-- Runs the function of the given name. -/
def runNamed (b : Blueprint) (given : Tokens → Value D) (kind : Kind) (inner : Link D)
    (fs : List Function) (name : Ident) (receiver : Value D) (arguments : List (Value D)) :
    Answer D (Value D × Value D) :=
  match findFunction fs name with
  | some f => runFunction (b.context given kind inner) f receiver arguments
  | none => .error .stuck

/-- A method of a record. -/
def callOn (b : Blueprint) (given : Tokens → Value D) (inner : Link D) (mayChange : Bool)
    (receiver : Value D) (name : Ident) (arguments : List (Value D)) :
    Answer D (Value D × Value D) :=
  match receiver with
  | .record kind _ =>
    b.runNamed given kind inner
      ((b.functionsOf kind).filter fun f =>
        f.receiver = .shared || (f.receiver = .mutable && mayChange))
      name receiver arguments
  | _ => .error .stuck

/-- A function that belongs to a type.  What is handed over decides between types, together with
their names: a builder is made of nothing, an error of a set, a value and a partial of a builder,
and a getter of the trait takes anything that implements it. -/
def callOf (b : Blueprint) (given : Tokens → Value D) (inner : Link D) (owner name : Ident)
    (arguments : List (Value D)) : Answer D (Value D) :=
  let run (kind : Kind) : Answer D (Value D) := do
    return (← b.runNamed given kind inner
      ((b.functionsOf kind).filter fun f => f.receiver = .none) name .unit arguments).1
  match arguments with
  | [] => if owner = b.builder then run .builder
    else if owner = b.value then run .value else .error .stuck
  | [.set _] => if owner = b.buildError then run .buildError else .error .stuck
  | [.record .builder _] => if owner = b.value then run .value
    else if owner = b.partialType then run .partialType else .error .stuck
  | [.record kind fields] =>
    if owner = b.typeName then do
      return (← b.runNamed given kind inner (b.traitGettersOf kind) name (.record kind fields) []).1
    else .error .stuck
  | [.foreign answers] =>
    if owner = b.typeName then
      match Fields.get? answers name with
      | some v => .ok v
      | none => .error (.panic "")
    else .error .stuck
  | _ => .error .stuck

/-- What calls do, followed to the given depth. -/
def link (b : Blueprint) (given : Tokens → Value D) : Nat → Link D
  | 0 => ⟨fun _ _ _ _ => .error .stuck, fun _ _ _ => .error .stuck⟩
  | n + 1 => ⟨b.callOn given (b.link given n), b.callOf given (b.link given n)⟩

/-! ## Finding functions -/

/-- The names that must differ, raw marks aside, for the generated code to compile. -/
structure WellNamed (b : Blueprint) : Prop where
  fields : (b.builderFields.map (·.1.name)).Nodup
  methods : (b.builderFunctions.map (·.name.name)).Nodup
  variants : (b.required.map (·.property.variant.name)).Nodup

theorem findFunction_of_mem {fs : List Function} {f : Function}
    (h : (fs.map (·.name.name)).Nodup) (hf : f ∈ fs) : findFunction fs f.name = some f := by
  induction fs with
  | nil => cases hf
  | cons g fs ih =>
    rw [List.map_cons, List.nodup_cons] at h
    rcases List.mem_cons.mp hf with rfl | hf
    · simp [findFunction]
    · have hne : g.name.name ≠ f.name.name := by
        intro heq
        exact h.1 (heq ▸ List.mem_map.mpr ⟨f, hf, rfl⟩)
      rw [findFunction, List.find?_cons_of_neg (by simpa using hne)]
      exact ih h.2 hf

/-- A function is found among those that satisfy a condition. -/
theorem findFunction_filter {fs : List Function} {f : Function} {p : Function → Bool}
    (h : (fs.map (·.name.name)).Nodup) (hf : f ∈ fs) (hp : p f = true) :
    findFunction (fs.filter p) f.name = some f :=
  findFunction_of_mem ((List.filter_sublist.map _).nodup h) (List.mem_filter.mpr ⟨hf, hp⟩)

/-- A method of the builder is run when it is called by its name. -/
theorem method_builder {b : Blueprint} (hn : b.WellNamed) {f : Function}
    (hf : f ∈ b.builderFunctions) {mayChange : Bool}
    (hr : f.receiver = .shared ∨ f.receiver = .mutable ∧ mayChange = true)
    (given : Tokens → Value D) (n : Nat) (fs : Fields D) (arguments : List (Value D)) :
    (b.link given (n + 1)).method mayChange (.record .builder fs) f.name arguments =
      runFunction (b.context given .builder (b.link given n)) f (.record .builder fs)
        arguments := by
  have hfind : findFunction (b.builderFunctions.filter fun f =>
      f.receiver = .shared || (f.receiver = .mutable && mayChange)) f.name = some f := by
    refine findFunction_filter hn.methods hf ?_
    rcases hr with hr | ⟨hr, hchange⟩
    · simp [hr]
    · simp [hr, hchange]
  simp only [link, callOn, runNamed, functionsOf, hfind]

end Blueprint

end TraitBuilder
