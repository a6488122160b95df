import TraitBuilder.Proofs.Code.MethodCalls
import TraitBuilder.Proofs.Code.Provisions

/-!
# Calls of the builder's methods

The names that a trait is checked for are kept apart from the code that is generated: for each
member in `Member.builderMethods`, and for every builder in `reservedNames`.  Both agree.  The
builder declares what is named and nothing else, and whatever is called on a builder is declared.

A builder is held by the receiver of its own methods, by a parameter of its type, and by a variable
that is bound to a new builder.

* `Blueprint.Holds`: a variable holds a builder.
* `Blueprint.NamesMatch`: the names agree with the code.
* `Blueprint.namesMatch`: so they do for every blueprint.
-/

namespace TraitBuilder

open Code

/-! ## Standard traits -/

/-- The variables on which the implementations of standard traits call methods. -/
def standardVars : List Ident := [selfVar, Blueprint.propertyVar, valueVar, formatterVar]

@[simp] theorem valueVar_mem_standardVars : valueVar ∈ standardVars := by decide

@[simp] theorem formatterVar_mem_standardVars : formatterVar ∈ standardVars := by decide

theorem callOn_comparable (m : Member) (layout : Layout) (owner name : Ident) :
    CallOn standardVars (comparable m layout (.field (.var owner) name)).subterms := by
  unfold comparable
  split
  · simp [Term.calledOn?]
  · split <;> simp [bitsOf, bitsFunction, Term.apply, Term.calledOn?]

theorem callOn_memberTest (t : Target) (m : Member) :
    CallOn standardVars (memberTest t m).subterms := by
  have hleft := callOn_comparable m (t.layout m) selfVar m.name
  have hright := callOn_comparable m (t.layout m) otherVar m.name
  unfold memberTest
  dsimp only
  split <;> simp [Term.apply, Term.calledOn?, Term.ownField, Term.self] <;> exact ⟨hleft, hright⟩

theorem callOn_hashTerm {t : Term} (h : CallOn standardVars t.subterms) :
    CallOn standardVars (hashTerm t).subterms := by
  simp [hashTerm, Term.apply, Term.calledOn?, h]

theorem callOn_hashMember (t : Target) (m : Member) :
    CallOn standardVars ((hashMember t m).flatMap Statement.subterms) := by
  have hstored := callOn_comparable m (t.layout m) selfVar m.name
  unfold hashMember
  dsimp only
  split
  · simp [hashTerm, bitsOf, Term.apply, Term.ownField, Term.self, Term.calledOn?]
  · rw [List.flatMap_singleton]
    exact callOn_hashTerm hstored

theorem callOn_displayField {value : Term} (m : Member) (h : CallOn standardVars value.subterms) :
    CallOn standardVars ((displayField m value).flatMap Statement.subterms) := by
  unfold displayField
  dsimp only
  split <;> simp [writeText, writeDisplayed, separateElements, Term.apply, Term.calledOn?, h]

namespace Blueprint

variable {b : Blueprint} {t : Target}

theorem callOn_displayMember (t : Target) (index : Nat) (m : Member) :
    CallOn standardVars ((b.displayMember t index m).flatMap Statement.subterms) := by
  have hleading : CallOn standardVars ((b.leading t index).flatMap Statement.subterms) := by
    unfold leading
    split
    · simp [writeText, Term.calledOn?]
    · split <;> simp [writeText, joiner, Term.calledOn?]
  have htrailing : CallOn standardVars ((b.trailing t).flatMap Statement.subterms) := by
    unfold trailing
    split <;> simp [joiner, Term.calledOn?]
  have hstored : CallOn standardVars (Term.ownFieldRef m.name).subterms :=
    callOn_of_calledOn rfl
  have hpresent : CallOn standardVars (Term.var presentVar).subterms := callOn_of_calledOn rfl
  unfold displayMember
  dsimp only
  split
  · simpa [hstored, Statement.subtermsOfAll_eq, hleading, htrailing]
      using callOn_displayField m hpresent
  · simpa [hleading, htrailing] using callOn_displayField m hstored

theorem callOn_displayMembers (t : Target) (index : Nat) (members : List Member) :
    CallOn standardVars ((b.displayMembers t index members).flatMap Statement.subterms) := by
  induction members generalizing index with
  | nil => exact callOn_nil
  | cons m rest ih =>
    rw [displayMembers, List.flatMap_append, callOn_append]
    exact ⟨callOn_displayMember t index m, ih (index + 1)⟩

theorem callOn_structuralBody (s : StandardTrait) (t : Target) :
    CallOn standardVars (b.structuralBody s t).subterms := by
  cases s with
  | equality =>
    have hmembers :
        CallOn standardVars ((b.members.map (memberTest t)).flatMap Term.subterms) := by
      rw [List.flatMap_map]
      exact callOn_flatMap fun m _ => callOn_memberTest t m
    simp only [structuralBody, Body.subterms, Outcome.subterms, equalityTests, List.flatMap_nil,
      List.nil_append, List.flatMap_append, callOn_append]
    refine ⟨hmembers, ?_⟩
    split <;> simp [Member.ownUnset, Term.ownField, Term.self, Term.calledOn?]
  | hashing =>
    have hmembers : CallOn standardVars ((b.members.flatMap (hashMember t)).flatMap
        Statement.subterms) := by
      rw [List.flatMap_assoc]
      exact callOn_flatMap fun m _ => callOn_hashMember t m
    simp only [structuralBody, Body.subterms, Outcome.subterms, hashStatements, List.append_nil,
      List.flatMap_append, callOn_append]
    refine ⟨hmembers, ?_⟩
    split <;> simp [hashTerm, Member.ownUnset, Term.apply, Term.ownField, Term.self, Term.calledOn?]
  | display =>
    have hmembers := callOn_displayMembers (b := b) t 0 b.members
    simp only [structuralBody, Body.subterms, displayBody, displayStatements, writeLast,
      Outcome.subterms, List.flatMap_cons, List.flatMap_append, callOn_append]
    refine ⟨⟨?_, ?_, hmembers⟩, ?_⟩
    · simp [writeText, Term.calledOn?]
    · split <;> simp [Term.calledOn?]
    · simp [Term.calledOn?]

/-- Where a function calls methods on its parameters, it is a formatter on which it does. -/
def TakesFormatter (f : Function) : Prop :=
  ∀ p ∈ f.parameters, p.1 ∈ standardVars →
    p.2 = .refMut (.lifetimed ["core", "fmt", "Formatter"] "_")

theorem takesFormatter_equalityFunction {x : Ident} (hx : x ∉ standardVars) (type : TypeExpr)
    (body : Body) : TakesFormatter (equalityFunction x type body) := by
  intro p hp hcalled
  obtain rfl := List.mem_singleton.mp hp
  exact absurd hcalled hx

theorem takesFormatter_hashFunction {x : Ident} (hx : x ∉ standardVars) (body : Body) :
    TakesFormatter (hashFunction x body) := by
  intro p hp hcalled
  obtain rfl := List.mem_singleton.mp hp
  exact absurd hcalled hx

theorem takesFormatter_formatFunction (decorations : List Decoration) (body : Body) :
    TakesFormatter (formatFunction decorations body) := by
  intro p hp _
  obtain rfl := List.mem_singleton.mp hp
  rfl

theorem markUnused_not_mem_standardVars {x : Ident} (hx : x ∈ [otherVar, stateVar])
    (unused : Bool) : markUnused x unused ∉ standardVars := by
  revert x unused
  decide

theorem takesFormatter_of_mem_standardOf {s : StandardTrait} {i : Implementation}
    (h : i ∈ (b.standardOf s t).flatMap Item.implementations) :
    ∀ f ∈ i.functions, TakesFormatter f := by
  cases s with
  | equality =>
    simp only [standardOf, equalityItems] at h
    split at h
    · cases h
    · simp only [providedEquality, List.flatMap_cons, List.flatMap_nil, implementations_derivedImpl,
        List.mem_append, List.mem_singleton, List.not_mem_nil, or_false] at h
      rcases h with rfl | rfl <;> rw [Implementation.functions_derived, List.forall_mem_singleton]
      · exact takesFormatter_equalityFunction (by decide) _ _
      · exact takesFormatter_equalityFunction (by decide) _ _
    · obtain rfl := List.mem_singleton.mp h
      exact List.forall_mem_singleton.mpr (takesFormatter_equalityFunction
        (markUnused_not_mem_standardVars (by decide) _) _ _)
  | hashing =>
    simp only [standardOf, hashItems] at h
    split at h
    · cases h
    · obtain rfl := List.mem_singleton.mp h
      exact List.forall_mem_singleton.mpr (takesFormatter_hashFunction (by decide) _)
    · obtain rfl := List.mem_singleton.mp h
      exact List.forall_mem_singleton.mpr (takesFormatter_hashFunction
        (markUnused_not_mem_standardVars (by decide) _) _)
  | display =>
    simp only [standardOf, displayItems] at h
    split at h
    · cases h
    · obtain rfl := List.mem_singleton.mp h
      exact List.forall_mem_singleton.mpr (takesFormatter_formatFunction _ _)
    · obtain rfl := List.mem_singleton.mp h
      exact List.forall_mem_singleton.mpr (takesFormatter_formatFunction _ _)

/-! ## Builders -/

/-- A variable of a function in an implementation holds a builder. -/
inductive Holds (b : Blueprint) (i : Implementation) (f : Function) : Ident → Prop
  | receiver (htrait : i.trait? = none) (htarget : i.target = b.builderType)
      (h : f.receiver ≠ .none) : Holds b i f selfVar
  | parameter {x : Ident} {type : TypeExpr} (h : (x, type) ∈ f.parameters)
      (htype : type = b.builderType ∨ type = .ref b.builderType ∨ type = .refMut b.builderType) :
      Holds b i f x
  | created {x : Ident} (isMut : Bool) (h : .bind isMut x b.newBuilder ∈ f.body.statements) :
      Holds b i f x

theorem newBuilder_mem_subterms {isMut : Bool} {x : Ident} {body : Body}
    (h : .bind isMut x b.newBuilder ∈ body.statements) : b.newBuilder ∈ body.subterms := by
  refine List.mem_append_left _ (List.mem_flatMap.mpr ⟨_, h, ?_⟩)
  simp [newBuilder]

/-- No method is called on a builder in the implementation. -/
def Spares (b : Blueprint) (i : Implementation) : Prop :=
  ∀ f ∈ i.functions, ∀ x, Holds b i f x → ∀ y, (x, y) ∉ calledOn f.body.subterms

/-- An implementation of a trait calls no method on a builder if its function calls them on standard
variables only and creates no builder. -/
theorem spares_derived {X : TypeExpr} {target : Ident} {f : Function}
    (hcalls : CallOn standardVars f.body.subterms) (hparameters : TakesFormatter f)
    (hcreated : b.newBuilder ∉ f.body.subterms) : b.Spares (.derived X target [f]) := by
  intro g hg x hx y hcalled
  obtain rfl : g = f := by simpa using hg
  cases hx with
  | receiver htrait => cases htrait
  | @parameter _ type h htype =>
    have hformatter := hparameters _ h (hcalls _ hcalled)
    rcases htype with htype | htype | htype <;> cases htype.symm.trans hformatter
  | created isMut h => exact hcreated (newBuilder_mem_subterms h)

theorem spares_of_mem_standardItems {i : Implementation}
    (h : i ∈ (b.standardItems t).flatMap Item.implementations) : b.Spares i := by
  rcases of_mem_standardItems h with ⟨s, hs⟩ | rfl
  · have hparameters := takesFormatter_of_mem_standardOf hs
    rcases of_mem_standardOf hs with ⟨f, hbody, rfl⟩ | ⟨rfl, ⟨f, hbody, rfl⟩ | ⟨rfl, hmixed⟩⟩
    · refine spares_derived (hbody ▸ callOn_structuralBody s t) (hparameters f (by simp)) ?_
      intro hnew
      rw [hbody] at hnew
      cases b.callLibrary_structuralBody s t _ hnew
    · refine spares_derived (hbody ▸ callOn_of_calledOn rfl) (hparameters f (by simp)) ?_
      rw [hbody]
      simp [providedBody, newBuilder, Body.term, Body.subterms, Outcome.subterms, Term.self]
    · obtain rfl := List.mem_singleton.mp hmixed
      refine spares_derived (callOn_of_calledOn rfl)
        (takesFormatter_equalityFunction (by decide) _ _) ?_
      simp [equalityFunction, newBuilder, Body.term, Body.subterms, Outcome.subterms]
  · refine spares_derived (callOn_of_calledOn rfl) (takesFormatter_formatFunction _ _) ?_
    simp [formatFunction, newBuilder, Body.term, Body.subterms, Outcome.subterms, Term.apply,
      Term.self]

theorem implementations_trackingItems (b : Blueprint) :
    b.trackingItems.flatMap Item.implementations = b.ifRequired [
      .own b.propertyEnum [b.propertyLabel],
      .derived displayTrait b.propertyEnum
        [formatFunction [] ⟨[], writeLast (.ownMethod labelFunction [])⟩],
      .own b.buildError [b.errorNew, b.errorProperties],
      .derived displayTrait b.buildError [formatFunction [] errorDisplayBody],
      .derived (.library ["std", "error", "Error"]) b.buildError []] := by
  rw [ifRequired_eq, trackingItems]
  split <;> rfl

theorem spares_of_mem_trackingItems {i : Implementation}
    (h : i ∈ b.trackingItems.flatMap Item.implementations) : b.Spares i := by
  rw [implementations_trackingItems, ifRequired] at h
  split at h
  · cases h
  simp only [List.mem_cons, List.not_mem_nil, or_false] at h
  rcases h with rfl | rfl | rfl | rfl | rfl
  · intro f hf x _ y hcalled
    obtain rfl : f = b.propertyLabel := by simpa using hf
    cases hcalled
  · refine spares_derived (by decide) (takesFormatter_formatFunction _ _) ?_
    simp [formatFunction, writeLast, newBuilder, Body.subterms, Outcome.subterms, Term.ownMethod,
      Term.self]
  · intro f hf x hx y hcalled
    rw [Implementation.functions_own, List.mem_cons, List.mem_singleton] at hf
    rcases hf with rfl | rfl
    -- the set of unset properties is the parameter on which a method is called
    · cases hx with
      | receiver _ _ h => exact h rfl
      | @parameter _ type h htype =>
        obtain ⟨-, hunset⟩ : x = errorField ∧ type = .ref b.unsetType := by
          simpa [errorNew] using h
        rcases htype with htype | htype | htype <;> cases htype.symm.trans hunset
      | created isMut h => cases h
    · cases hcalled
  · refine spares_derived (by decide) (takesFormatter_formatFunction _ _) ?_
    simp [formatFunction, errorDisplayBody, writeLast, writeText, separateElements, newBuilder,
      Body.subterms, Outcome.subterms, Term.ownField, Term.apply, Term.self]
  · intro f hf
    cases hf

/-! ## Declared methods -/

/-- The names of the functions that the builder declares. -/
def declaredNames (b : Blueprint) : List Ident := b.builderImplementation.functions.map (·.name)

theorem declaredNames_perm (b : Blueprint) : b.declaredNames.Perm
    (reservedNames.map plain ++ b.members.flatMap Member.builderMethods) := by
  rw [declaredNames, functions_builderImplementation]
  exact b.name_of_builderFunctions

theorem reserved_mem_declaredNames {name : String} (h : name ∈ reservedNames) :
    plain name ∈ b.declaredNames :=
  b.declaredNames_perm.mem_iff.mpr (List.mem_append_left _ (List.mem_map_of_mem h))

theorem method_mem_declaredNames {m : Member} (hm : m ∈ b.members) {x : Ident}
    (h : x ∈ m.builderMethods) : x ∈ b.declaredNames :=
  b.declaredNames_perm.mem_iff.mpr (List.mem_append_right _ (List.mem_flatMap.mpr ⟨m, hm, h⟩))

/-- Whatever methods the functions of the implementation call on variables, the builder declares
them. -/
def CallsDeclared (b : Blueprint) (i : Implementation) : Prop :=
  ∀ f ∈ i.functions, ∀ p ∈ calledOn f.body.subterms, p.2 ∈ b.declaredNames

theorem callsDeclared_builderImplementation : b.CallsDeclared b.builderImplementation := by
  intro f hf p hp
  rw [functions_builderImplementation] at hf
  simp only [builderFunctions, List.mem_append, List.mem_cons, List.not_mem_nil, or_false] at hf
  rcases hf with (rfl | hf) | rfl | rfl | rfl | rfl | rfl
  · rw [calledOn_builderNew] at hp
    cases hp
  · obtain ⟨m, hm, hf⟩ := List.mem_flatMap.mp hf
    exact method_mem_declaredNames hm (Member.mem_builderMethods_of_accessor hf hp)
  · rw [calledOn_buildFunction] at hp
    cases hp
  · rw [calledOn_mergeFromFunction] at hp
    obtain ⟨m, hm, rfl⟩ := List.mem_map.mp hp
    exact method_mem_declaredNames hm m.filler_mem_builderMethods
  · rw [calledOn_mergeFromBuilderFunction] at hp
    obtain ⟨m, hm, hp⟩ := List.mem_flatMap.mp hp
    rcases List.mem_cons.mp hp with rfl | hp
    · exact method_mem_declaredNames hm m.filler_mem_builderMethods
    · obtain ⟨x, hx, rfl⟩ := List.mem_map.mp hp
      exact method_mem_declaredNames hm (Member.mem_builderMethods_of_mem_readers hx)
  · rw [calledOn_clearFunction] at hp
    cases hp
  · cases hp

theorem callsDeclared_of_silent {i : Implementation}
    (h : ∀ f ∈ i.functions, calledOn f.body.subterms = []) : b.CallsDeclared i := by
  intro f hf p hp
  rw [h f hf] at hp
  cases hp

theorem callsDeclared_valueFunctions :
    b.CallsDeclared (.own b.value b.valueFunctions) := by
  intro f hf p hp
  rw [Implementation.functions_own, valueFunctions, List.mem_append, List.mem_singleton] at hf
  rcases hf with rfl | hf
  · rw [calledOn_valueNew] at hp
    cases hp
  · split at hf
    · rw [List.mem_cons, List.mem_singleton] at hf
      rcases hf with rfl | rfl
      · cases hp
      · rw [calledOn_valueToBuilder] at hp
        obtain rfl := List.mem_singleton.mp hp
        exact reserved_mem_declaredNames (by decide)
    · cases hf

theorem callsDeclared_of_mem_ownItems {i : Implementation}
    (h : i ∈ b.ownItems.flatMap Item.implementations) : b.CallsDeclared i := by
  rw [implementations_ownItems] at h
  simp only [List.mem_append, List.mem_cons, List.not_mem_nil, or_false] at h
  rcases h with (rfl | h) | rfl | rfl | rfl | rfl
  · exact callsDeclared_builderImplementation
  · unfold builderDefault at h
    split at h
    · obtain rfl := List.mem_singleton.mp h
      exact callsDeclared_of_silent (List.forall_mem_singleton.mpr rfl)
    · cases h
  · exact callsDeclared_valueFunctions
  · refine callsDeclared_of_silent ?_
    rw [Implementation.functions_derived, valueGetters, List.forall_mem_map]
    exact fun m _ => m.calledOn_readStored
  · refine callsDeclared_of_silent ?_
    rw [Implementation.functions_own, List.forall_mem_singleton]
    exact b.calledOn_partialNew
  · refine callsDeclared_of_silent ?_
    rw [Implementation.functions_derived, partialGetters, List.forall_mem_map]
    intro m _
    dsimp only [traitGetter]
    split
    · exact m.calledOn_readRequired
    · exact m.calledOn_readStored

theorem callsDeclared_of_mem_serializationItems {i : Implementation}
    (h : i ∈ b.serializationItems.flatMap Item.implementations) : b.CallsDeclared i := by
  unfold serializationItems at h
  split at h
  · rcases List.mem_cons.mp h with rfl | h
    · exact callsDeclared_of_silent (List.forall_mem_singleton.mpr b.calledOn_serializeFunction)
    · obtain rfl := List.mem_singleton.mp h
      refine List.forall_mem_singleton.mpr fun p hp => ?_
      rw [calledOn_deserializeFunction, List.mem_append, List.mem_singleton] at hp
      rcases hp with hp | rfl
      · obtain ⟨m, hm, rfl⟩ := List.mem_map.mp hp
        exact method_mem_declaredNames hm m.presetter_mem_builderMethods
      · exact reserved_mem_declaredNames (by decide)
  · cases h

/-- Every method that generated code calls on a builder is one that the builder declares. -/
theorem called_mem_declaredNames {i : Implementation} (hi : i ∈ b.allImplementations)
    {f : Function} (hf : f ∈ i.functions) {x : Ident} (hx : Holds b i f x) {y : Ident}
    (hy : (x, y) ∈ calledOn f.body.subterms) : y ∈ b.declaredNames := by
  rw [allImplementations_eq] at hi
  simp only [List.mem_append] at hi
  rcases hi with (hi | hi) | (hi | hi) | hi
  · exact absurd hy (spares_of_mem_trackingItems hi f hf x hx y)
  · exact callsDeclared_of_mem_ownItems hi f hf _ hy
  · exact absurd hy (spares_of_mem_standardItems hi f hf x hx y)
  · exact absurd hy (spares_of_mem_standardItems hi f hf x hx y)
  · exact callsDeclared_of_mem_serializationItems hi f hf _ hy

/-- The names that a trait is checked for agree with the generated code. -/
structure NamesMatch (b : Blueprint) : Prop where
  /-- The builder declares the methods that every builder has and those of the members. -/
  declared : b.declaredNames.Perm
    (reservedNames.map plain ++ b.members.flatMap Member.builderMethods)
  /-- The methods for a member are those that are named. -/
  accessors : ∀ m ∈ b.members, ((m.accessors b).map (·.name)).Perm m.builderMethods
  /-- None of them is named twice. -/
  once : ∀ m ∈ b.members, (m.builderMethods.map (·.name)).Nodup
  /-- Whatever the code for a member calls is among them. -/
  called : ∀ m ∈ b.members, ∀ p ∈ calledOn (b.codeFor m), p.2 ∈ m.builderMethods
  /-- Whatever any code calls on a builder is declared. -/
  resolved : ∀ i ∈ b.allImplementations, ∀ f ∈ i.functions, ∀ x, Holds b i f x →
    ∀ y, (x, y) ∈ calledOn f.body.subterms → y ∈ b.declaredNames

/-- The builder has the methods that the check for collisions expects, and no code calls another one
on a builder. -/
theorem namesMatch (b : Blueprint) : b.NamesMatch where
  declared := b.declaredNames_perm
  accessors := fun m _ => m.name_of_accessors b
  once := fun m _ => m.name_builderMethods_nodup
  called := fun _ _ _ hp => b.calledOn_codeFor hp
  resolved := fun _ hi _ hf _ hx _ hy => called_mem_declaredNames hi hf hx hy

end Blueprint

end TraitBuilder
