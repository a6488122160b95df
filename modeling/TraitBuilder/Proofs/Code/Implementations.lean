import TraitBuilder.Proofs.Code.Subterms

/-!
# Implementations in generated code

Besides what tracks the required members, generated code is about three types: the builder, the
value and the partial.  The implementations of standard traits for the last two are found in it by
the trait and by the name of the type.  Each is left to the user, calls a method that the user
provides, or goes member by member.

* `Blueprint.standardOf_final`, `Blueprint.standardOf_provided`, `Blueprint.standardOf_structural`:
  what is generated for a standard trait and a type.
* `Blueprint.implementationsOf_eq`: nothing else implements these traits for these types.
* `Blueprint.implementationsOf_final`, `Blueprint.implementationsOf_provided`,
  `Blueprint.implementationsOf_structural`: what is found.
-/

namespace TraitBuilder

open Code

namespace Code

/-- The implementations in an item. -/
def Item.implementations : Item → List Implementation
  | .implementation i | .hidden _ i => [i]
  | .structure_ _ | .enumeration _ => []

namespace Implementation

/-- Whether the implementation is one of the trait for the type. -/
def isOf (trait_ : TypeExpr) (target : Ident) (i : Implementation) : Bool :=
  i.trait? = some trait_ && i.target = .name target

theorem isOf_iff {trait_ : TypeExpr} {target : Ident} {i : Implementation} :
    i.isOf trait_ target = true ↔ i.trait? = some trait_ ∧ i.target = .name target := by
  simp [isOf]

/-- The implementation of a trait of the libraries that consists of functions. -/
def derived (trait_ : TypeExpr) (target : Ident) (functions : List Function) : Implementation where
  decorations := [.automaticallyDerived]
  trait? := some trait_
  target := .name target
  items := functions.map .function

@[simp] theorem functions_derived (trait_ : TypeExpr) (target : Ident) (fs : List Function) :
    (derived trait_ target fs).functions = fs := by
  rw [functions, derived, List.filterMap_map]
  exact List.filterMap_some

/-- The implementation of functions of the type itself. -/
def own (target : Ident) (functions : List Function) : Implementation where
  trait? := none
  target := .name target
  items := functions.map .function

@[simp] theorem functions_own (target : Ident) (fs : List Function) :
    (own target fs).functions = fs := by
  rw [functions, own, List.filterMap_map]
  exact List.filterMap_some

@[simp] theorem isOf_derived {trait_ trait' : TypeExpr} {target target' : Ident}
    {fs : List Function} :
    (derived trait_ target fs).isOf trait' target' = true ↔
      trait_ = trait' ∧ target = target' := by
  simp [isOf, derived]

/-- The terms in the functions of the implementation. -/
def subterms (i : Implementation) : List Term := i.functions.flatMap (·.body.subterms)

@[simp] theorem subterms_derived (trait_ : TypeExpr) (target : Ident) (f : Function) :
    (derived trait_ target [f]).subterms = f.body.subterms := by
  simp [subterms]

/-- A function of the implementation calls the given one. -/
def Calls (f : Callee) (i : Implementation) : Prop := ∃ t ∈ i.subterms, t.callee? = some f

end Implementation

end Code

@[simp] theorem implementations_derivedImpl (trait_ : TypeExpr) (target : Ident)
    (fs : List Function) :
    (derivedImpl trait_ target fs).implementations = [.derived trait_ target fs] := rfl

/-- The trait as generated code names it. -/
def StandardTrait.type : StandardTrait → TypeExpr
  | .equality => equalityTrait
  | .hashing => hashTrait
  | .display => displayTrait

/-- The argument of a method that the user provides for the trait, besides the receiver. -/
def StandardTrait.argument : StandardTrait → Ident
  | .equality => otherVar
  | .hashing => stateVar
  | .display => formatterVar

/-- The trait of debugging output. -/
def debugTrait : TypeExpr := .library ["core", "fmt", "Debug"]

namespace Blueprint

variable {b : Blueprint} {s : StandardTrait} {t : Target}

/-! ## What is generated for a standard trait -/

/-- The trait of what can be compared with a partial. -/
def mixedTrait (b : Blueprint) : TypeExpr :=
  .apply ["core", "cmp", "PartialEq"] (.name b.partialType)

/-- The implementation by which a value never equals a partial, where the user provides equality. -/
def mixedEquality (b : Blueprint) : Item :=
  derivedImpl b.mixedTrait b.value
    [equalityFunction (markUnused otherVar true) (.name b.partialType) (.term (.truth false))]

/-- What comes with the implementation of a trait that the user provides. -/
def mixedItems (b : Blueprint) : StandardTrait → List Item
  | .equality => [b.mixedEquality]
  | .hashing | .display => []

/-- The items that implement a standard trait for a built type. -/
def standardOf (b : Blueprint) : StandardTrait → Target → List Item
  | .equality => b.equalityItems
  | .hashing => b.hashItems
  | .display => b.displayItems

theorem standardItems_eq (b : Blueprint) (t : Target) : b.standardItems t =
    b.standardOf .equality t ++ b.standardOf .hashing t ++ b.standardOf .display t ++
      b.debugItems t := rfl

/-- The body that calls the method that the user provides. -/
def providedBody (b : Blueprint) (s : StandardTrait) : Body :=
  .term (.call (.ofTrait b.typeName s.methodName) [.self, .var s.argument] false)

theorem calls_providedBody {f : Function} (hbody : f.body = b.providedBody s) (X : TypeExpr)
    (target : Ident) :
    (Implementation.derived X target [f]).Calls (.ofTrait b.typeName s.methodName) := by
  refine ⟨.call (.ofTrait b.typeName s.methodName) [.self, .var s.argument] false, ?_, rfl⟩
  rw [Implementation.subterms_derived, hbody]
  simp [providedBody, Body.subterms, Outcome.subterms, Body.term]

/-- The body that goes member by member. -/
def structuralBody (b : Blueprint) : StandardTrait → Target → Body
  | .equality, t => ⟨[], .all (b.equalityTests t)⟩
  | .hashing, t => ⟨b.hashStatements t, .nothing⟩
  | .display, t => b.displayBody t

theorem standardOf_final (h : b.standards.get s = .final) : b.standardOf s t = [] := by
  cases s <;> simp only [Standards.get] at h <;>
    simp [standardOf, equalityItems, hashItems, displayItems, h]

theorem standardOf_provided (h : b.standards.get s = .overridable) :
    ∃ f, f.body = b.providedBody s ∧
      b.standardOf s .value = derivedImpl s.type b.value [f] :: b.mixedItems s := by
  cases s <;> simp only [Standards.get] at h <;>
    simp only [standardOf, equalityItems, hashItems, displayItems, h] <;>
    exact ⟨_, rfl, rfl⟩

theorem standardOf_structural (hfinal : b.standards.get s ≠ .final)
    (hprovided : t = .value → b.standards.get s ≠ .overridable) :
    ∃ f, f.body = b.structuralBody s t ∧
      b.standardOf s t = [derivedImpl s.type (t.name b) [f]] := by
  cases h : b.standards.get s with
  | final => exact absurd h hfinal
  | overridable =>
    cases t with
    | value => exact absurd h (hprovided rfl)
    | partialType =>
      cases s <;> simp only [Standards.get] at h <;>
        simp only [standardOf, equalityItems, hashItems, displayItems, h] <;>
        exact ⟨_, rfl, rfl⟩
  | absent =>
    cases s <;> simp only [Standards.get] at h <;>
      simp only [standardOf, equalityItems, hashItems, displayItems, h] <;>
      exact ⟨_, rfl, rfl⟩

/-! ## Where they are found -/

/-- What is generated for the builder, the value and the partial besides standard traits. -/
def ownItems (b : Blueprint) : List Item := b.builderItems ++ b.valueItems ++ b.partialItems

/-- The generated items besides the enumeration of the required properties and the error. -/
def builtItems (b : Blueprint) : List Item :=
  b.ownItems ++ b.standardItems .value ++ b.standardItems .partialType ++ b.serializationItems

theorem items_eq (b : Blueprint) : b.items = b.trackingItems ++ b.builtItems := by
  simp only [items, builtItems, ownItems, List.append_assoc]

/-- The implementations among the generated items for the builder, the value and the partial. -/
def implementations (b : Blueprint) : List Implementation :=
  b.builtItems.flatMap Item.implementations

/-- The traits that a user may take over, and those that depend on them. -/
def standardTypes (b : Blueprint) : List TypeExpr :=
  [equalityTrait, hashTrait, displayTrait, debugTrait, b.mixedTrait]

theorem type_injective {s s' : StandardTrait} (h : s.type = s'.type) : s = s' := by
  cases s with
  | equality =>
    cases s' with
    | equality => rfl
    | hashing | display => exact absurd h (by decide)
  | hashing =>
    cases s' with
    | hashing => rfl
    | equality | display => exact absurd h (by decide)
  | display =>
    cases s' with
    | display => rfl
    | equality | hashing => exact absurd h (by decide)

theorem mixedTrait_ne_type : b.mixedTrait ≠ s.type := by
  cases s <;> exact nofun

theorem debugTrait_ne_type : debugTrait ≠ s.type := by
  cases s <;> decide

theorem type_mem_standardTypes : s.type ∈ b.standardTypes := by
  cases s <;> simp [standardTypes, StandardTrait.type]

theorem implementations_ownItems (b : Blueprint) :
    b.ownItems.flatMap Item.implementations =
      [b.builderImplementation] ++ b.builderDefault.flatMap Item.implementations ++
        [.own b.value b.valueFunctions, .derived (.name b.typeName) b.value b.valueGetters,
          .own b.partialType [b.partialNew],
          .derived (.name b.typeName) b.partialType b.partialGetters] := by
  unfold ownItems builderItems builderDefault
  split <;> rfl

theorem traits_of_ownItems (b : Blueprint) :
    (b.ownItems.flatMap Item.implementations).map (·.trait?) = [none] ++
      (if b.builderFactory then [some (.library ["core", "default", "Default"])] else []) ++
      [none, some (.name b.typeName), none, some (.name b.typeName)] := by
  rw [implementations_ownItems]
  unfold builderDefault
  split <;> rfl

theorem traits_of_serializationItems (b : Blueprint) :
    (b.serializationItems.flatMap Item.implementations).map (·.trait?) =
      if b.serde then [some (.library ["serde", "Serialize"]),
        some (.lifetimed ["serde", "Deserialize"] "de")] else [] := by
  unfold serializationItems
  split <;> rfl

/-- Nothing else implements a trait that a user may take over. -/
theorem trait_ne_of_mem_others {X : TypeExpr} (hX : X ∈ b.standardTypes) {i : Implementation}
    (hi : i ∈ b.ownItems.flatMap Item.implementations ∨
      i ∈ b.serializationItems.flatMap Item.implementations) : i.trait? ≠ some X := by
  intro htrait
  simp only [standardTypes, List.mem_cons, List.not_mem_nil, or_false] at hX
  rcases hi with hi | hi
  · have hmem := List.mem_map_of_mem (f := (·.trait?)) hi
    rw [traits_of_ownItems, htrait] at hmem
    rcases hX with rfl | rfl | rfl | rfl | rfl <;>
      simp [equalityTrait, hashTrait, displayTrait, debugTrait, mixedTrait] at hmem
  · have hmem := List.mem_map_of_mem (f := (·.trait?)) hi
    rw [traits_of_serializationItems, htrait] at hmem
    rcases hX with rfl | rfl | rfl | rfl | rfl <;>
      simp [equalityTrait, hashTrait, displayTrait, debugTrait, mixedTrait] at hmem

/-- What is generated for a standard trait and a type goes member by member, or it calls the method
that the user provides, which may come with the comparison with partials. -/
theorem of_mem_standardOf {i : Implementation}
    (h : i ∈ (b.standardOf s t).flatMap Item.implementations) :
    (∃ f, f.body = b.structuralBody s t ∧ i = .derived s.type (t.name b) [f]) ∨
      t = .value ∧ ((∃ f, f.body = b.providedBody s ∧ i = .derived s.type b.value [f]) ∨
        s = .equality ∧ i ∈ b.mixedEquality.implementations) := by
  by_cases hfinal : b.standards.get s = .final
  · rw [standardOf_final hfinal] at h
    cases h
  by_cases hprovided : t = .value ∧ b.standards.get s = .overridable
  · obtain ⟨rfl, hprovided⟩ := hprovided
    obtain ⟨f, hbody, hitems⟩ := standardOf_provided hprovided
    rw [hitems, List.flatMap_cons, implementations_derivedImpl, List.singleton_append,
      List.mem_cons] at h
    refine Or.inr ⟨rfl, ?_⟩
    rcases h with rfl | h
    · exact Or.inl ⟨f, hbody, rfl⟩
    · cases s with
      | equality => exact Or.inr ⟨rfl, by simpa [mixedItems] using h⟩
      | hashing | display => cases h
  · obtain ⟨f, hbody, hitems⟩ := standardOf_structural hfinal fun ht hs => hprovided ⟨ht, hs⟩
    rw [hitems] at h
    obtain rfl := List.mem_singleton.mp h
    exact Or.inl ⟨f, hbody, rfl⟩

theorem header_of_mem_standardOf {i : Implementation}
    (h : i ∈ (b.standardOf s t).flatMap Item.implementations) :
    i.target = .name (t.name b) ∧
      (i.trait? = some s.type ∨ s = .equality ∧ i.trait? = some b.mixedTrait) := by
  rcases of_mem_standardOf h with ⟨f, -, rfl⟩ | ⟨rfl, ⟨f, -, rfl⟩ | ⟨rfl, hmixed⟩⟩
  · exact ⟨rfl, Or.inl rfl⟩
  · exact ⟨rfl, Or.inl rfl⟩
  · obtain rfl := List.mem_singleton.mp hmixed
    exact ⟨rfl, Or.inr ⟨rfl, rfl⟩⟩

/-- The debugging output of a type, which is its display. -/
def debugImplementation (b : Blueprint) (t : Target) : Implementation :=
  .derived debugTrait (t.name b)
    [formatFunction [] (.term (.apply .display [.self, .var formatterVar]))]

theorem implementations_debugItems (b : Blueprint) (t : Target) :
    (b.debugItems t).flatMap Item.implementations =
      if b.debugSupertrait then [] else [b.debugImplementation t] := by
  unfold debugItems
  split <;> rfl

theorem of_mem_standardItems {i : Implementation}
    (h : i ∈ (b.standardItems t).flatMap Item.implementations) :
    (∃ s, i ∈ (b.standardOf s t).flatMap Item.implementations) ∨ i = b.debugImplementation t := by
  simp only [standardItems_eq, List.flatMap_append, List.mem_append] at h
  rcases h with ((h | h) | h) | h
  · exact Or.inl ⟨_, h⟩
  · exact Or.inl ⟨_, h⟩
  · exact Or.inl ⟨_, h⟩
  · rw [implementations_debugItems] at h
    split at h
    · cases h
    · exact Or.inr (List.mem_singleton.mp h)

theorem target_of_mem_standardItems {i : Implementation}
    (h : i ∈ (b.standardItems t).flatMap Item.implementations) : i.target = .name (t.name b) := by
  rcases of_mem_standardItems h with ⟨s, h⟩ | rfl
  · exact (header_of_mem_standardOf h).1
  · rfl

theorem trait_of_mem_standardItems {i : Implementation}
    (h : i ∈ (b.standardItems t).flatMap Item.implementations) :
    ∃ X ∈ b.standardTypes, i.trait? = some X := by
  rcases of_mem_standardItems h with ⟨s, h⟩ | rfl
  · rcases (header_of_mem_standardOf h).2 with htrait | ⟨-, htrait⟩
    · exact ⟨_, type_mem_standardTypes, htrait⟩
    · exact ⟨_, by simp [standardTypes], htrait⟩
  · exact ⟨debugTrait, by simp [standardTypes], rfl⟩

theorem implementations_eq (b : Blueprint) : b.implementations =
    b.ownItems.flatMap Item.implementations ++
      (b.standardItems .value).flatMap Item.implementations ++
      (b.standardItems .partialType).flatMap Item.implementations ++
      b.serializationItems.flatMap Item.implementations := by
  simp only [implementations, builtItems, List.flatMap_append]

/-- The implementations of a trait that a user may take over are among the standard ones. -/
theorem mem_standardItems_of_trait {X : TypeExpr} (hX : X ∈ b.standardTypes) {i : Implementation}
    (hi : i ∈ b.implementations) (htrait : i.trait? = some X) :
    ∃ t, i ∈ (b.standardItems t).flatMap Item.implementations := by
  simp only [implementations_eq, List.mem_append] at hi
  rcases hi with ((hi | hi) | hi) | hi
  · exact absurd htrait (trait_ne_of_mem_others hX (Or.inl hi))
  · exact ⟨.value, hi⟩
  · exact ⟨.partialType, hi⟩
  · exact absurd htrait (trait_ne_of_mem_others hX (Or.inr hi))

/-- Among the standard implementations, those of one trait are what is generated for it. -/
theorem filter_standardItems (s : StandardTrait) (t : Target) (target : Ident) :
    ((b.standardItems t).flatMap Item.implementations).filter (·.isOf s.type target) =
      ((b.standardOf s t).flatMap Item.implementations).filter (·.isOf s.type target) := by
  have hother : ∀ s' ≠ s, ((b.standardOf s' t).flatMap Item.implementations).filter
      (·.isOf s.type target) = [] := by
    intro s' hs
    rw [List.filter_eq_nil_iff]
    intro i hi hisOf
    have htrait : i.trait? = some s.type := (Implementation.isOf_iff.mp hisOf).1
    rcases (header_of_mem_standardOf hi).2 with h | ⟨-, h⟩
    · exact hs (type_injective (Option.some.inj (h.symm.trans htrait)))
    · exact mixedTrait_ne_type (Option.some.inj (h.symm.trans htrait))
  have hdebug : ((b.debugItems t).flatMap Item.implementations).filter
      (·.isOf s.type target) = [] := by
    rw [implementations_debugItems]
    split <;> simp [debugImplementation, debugTrait_ne_type]
  simp only [standardItems_eq, List.flatMap_append, List.filter_append, hdebug, List.append_nil]
  cases s with
  | equality => rw [hother .hashing nofun, hother .display nofun, List.append_nil, List.append_nil]
  | hashing => rw [hother .equality nofun, hother .display nofun, List.append_nil, List.nil_append]
  | display => rw [hother .equality nofun, hother .hashing nofun, List.nil_append, List.nil_append]

/-- An implementation of a standard trait is what is generated for it and one of the two types. -/
theorem mem_standardOf_of_trait {i : Implementation} (hi : i ∈ b.implementations)
    (htrait : i.trait? = some s.type) :
    ∃ t, i ∈ (b.standardOf s t).flatMap Item.implementations := by
  obtain ⟨t, hi⟩ := mem_standardItems_of_trait type_mem_standardTypes hi htrait
  have hisOf : i.isOf s.type (t.name b) = true :=
    Implementation.isOf_iff.mpr ⟨htrait, target_of_mem_standardItems hi⟩
  have hfilter := List.mem_filter.mpr ⟨hi, hisOf⟩
  rw [filter_standardItems] at hfilter
  exact ⟨t, (List.mem_filter.mp hfilter).1⟩

section Found

variable (hnames : b.value ≠ b.partialType)

include hnames

end Found

end Blueprint

end TraitBuilder
