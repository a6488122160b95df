import TraitBuilder.Proofs.Code.Implementations
import TraitBuilder.Proofs.Naming.FieldNames

/-!
# Records and labels in generated code

All generated functions are searched for records and for what depends on a variant, and all
generated items for enumerations and for the implementations of the user's trait and of the traits
of serialization.

* `Blueprint.records_eq`, `Blueprint.arms_eq`, `Blueprint.enumerations_eq`: what is found.
* `Blueprint.implementing_typeName`, `Blueprint.implementing_serializeTrait`: who implements what.
-/

namespace TraitBuilder

open Code

namespace Code

/-! ## Reading items -/

/-- The name of a structure and those of its fields. -/
def Structure.outline (s : Structure) : Ident × List Ident := (s.name, s.fields.map (·.1))

/-- The name of an enumeration and those of its variants. -/
def Enumeration.outline (e : Enumeration) : Ident × List Ident := (e.name, e.variants.map (·.2))

/-- The enumerations that an item declares. -/
def Item.enumerations : Item → List Enumeration
  | .enumeration e => [e]
  | .structure_ _ | .implementation _ | .hidden _ _ => []

namespace Outcome

/-- The record that a body hands back. -/
def record? : Outcome → Option Record
  | .record fields | .okRecord fields => some fields
  | _ => none

/-- The arms by which a body tells variants apart. -/
def arms? : Outcome → Option (List (Ident × String))
  | .labels arms => some arms
  | _ => none

end Outcome

/-- The records that functions hand back. -/
def recordsOf (fs : List Function) : List Record := fs.filterMap (·.body.outcome.record?)

/-- The arms by which functions tell variants apart. -/
def armsOf (fs : List Function) : List (List (Ident × String)) :=
  fs.filterMap (·.body.outcome.arms?)

/-- A function hands back neither a record nor a label. -/
def Function.Unstructured (f : Function) : Prop :=
  f.body.outcome.record? = none ∧ f.body.outcome.arms? = none

theorem recordsOf_eq_nil {fs : List Function} (h : ∀ f ∈ fs, f.Unstructured) :
    recordsOf fs = [] :=
  List.filterMap_eq_nil_iff.mpr fun f hf => (h f hf).1

theorem armsOf_eq_nil {fs : List Function} (h : ∀ f ∈ fs, f.Unstructured) : armsOf fs = [] :=
  List.filterMap_eq_nil_iff.mpr fun f hf => (h f hf).2

/-- The records that an implementation hands back, with the type that they are of. -/
def Implementation.records (i : Implementation) : List (TypeExpr × Record) :=
  (recordsOf i.functions).map (i.target, ·)

end Code

namespace Blueprint

variable {b : Blueprint}

/-! ## All items -/

/-- The names of the members in the order of declaration. -/
def names (b : Blueprint) : List Ident := b.members.map Member.name

/-- What there is only if some member is required. -/
def ifRequired {α : Type} (b : Blueprint) (as : List α) : List α :=
  if b.required = [] then [] else as

theorem ifRequired_eq {α : Type} (as : List α) :
    b.ifRequired as = if b.hasRequired then as else [] := by
  by_cases h : b.hasRequired = true
  · rw [ifRequired, if_neg (b.hasRequired_iff.mp h), if_pos h]
  · rw [ifRequired, if_pos (not_not.mp fun hne => h (b.hasRequired_iff.mpr hne)), if_neg h]

/-- The enumerations that are declared in the generated code. -/
def enumerations (b : Blueprint) : List Enumeration := b.items.flatMap Item.enumerations

/-- All implementations in the generated code. -/
def allImplementations (b : Blueprint) : List Implementation := b.items.flatMap Item.implementations

/-- The implementations of a trait in the generated code. -/
def implementing (b : Blueprint) (trait_ : TypeExpr) : List Implementation :=
  b.allImplementations.filter (·.trait? = some trait_)

/-- All records in the generated code, with the type that each is of. -/
def records (b : Blueprint) : List (TypeExpr × Record) :=
  b.allImplementations.flatMap Implementation.records

/-- All arms in the generated code. -/
def arms (b : Blueprint) : List (List (Ident × String)) :=
  b.allImplementations.flatMap fun i => armsOf i.functions

theorem allImplementations_eq (b : Blueprint) : b.allImplementations =
    b.trackingItems.flatMap Item.implementations ++ b.ownItems.flatMap Item.implementations ++
      ((b.standardItems .value).flatMap Item.implementations ++
      (b.standardItems .partialType).flatMap Item.implementations ++
      b.serializationItems.flatMap Item.implementations) := by
  simp only [allImplementations, items_eq, builtItems, List.flatMap_append, List.append_assoc]

theorem functions_builderImplementation (b : Blueprint) :
    b.builderImplementation.functions = b.builderFunctions := by
  have hjoiner : b.joinerItems.filterMap AssociatedItem.function? = [] := by
    unfold joinerItems
    split <;> rfl
  rw [Implementation.functions, builderImplementation, List.filterMap_append, hjoiner,
    List.nil_append, List.filterMap_map]
  exact List.filterMap_some

theorem unstructured_of_mem_accessors {f : Function} (h : f ∈ b.accessorFunctions) :
    f.Unstructured := by
  obtain ⟨m, -, hf⟩ := List.mem_flatMap.mp h
  unfold Member.accessors at hf
  split at hf
  · simp only [Member.singleAccessors, List.mem_cons, List.not_mem_nil, or_false] at hf
    rcases hf with rfl | rfl
    · exact ⟨rfl, rfl⟩
    · split <;> exact ⟨rfl, rfl⟩
  · simp only [Member.optionalAccessors, List.mem_cons, List.not_mem_nil, or_false] at hf
    rcases hf with rfl | rfl | rfl | rfl <;> exact ⟨rfl, rfl⟩
  · simp only [Member.listAccessors, List.mem_cons, List.not_mem_nil, or_false] at hf
    rcases hf with rfl | rfl | rfl | rfl | rfl <;> exact ⟨rfl, rfl⟩

theorem unstructured_of_mem_builderFunctions {f : Function} (h : f ∈ b.builderFunctions.tail) :
    f.Unstructured := by
  have htail : b.builderFunctions.tail = b.accessorFunctions ++ [b.buildFunction,
      b.mergeFromFunction, b.mergeFromBuilderFunction, b.clearFunction,
      b.buildPartialFunction] := rfl
  rw [htail, List.mem_append] at h
  rcases h with h | h
  · exact unstructured_of_mem_accessors h
  simp only [List.mem_cons, List.not_mem_nil, or_false] at h
  rcases h with rfl | rfl | rfl | rfl | rfl
  · unfold buildFunction
    split <;> exact ⟨rfl, rfl⟩
  · exact ⟨rfl, rfl⟩
  · exact ⟨rfl, rfl⟩
  · unfold clearFunction
    dsimp only
    split <;> exact ⟨rfl, rfl⟩
  · exact ⟨rfl, rfl⟩

theorem unstructured_of_mem_valueFunctions {f : Function} (h : f ∈ b.valueFunctions.tail) :
    f.Unstructured := by
  have htail : b.valueFunctions.tail =
      if b.builderFactory then [b.valueBuilder, b.valueToBuilder] else [] := rfl
  rw [htail] at h
  split at h
  · simp only [List.mem_cons, List.not_mem_nil, or_false] at h
    rcases h with rfl | rfl <;> exact ⟨rfl, rfl⟩
  · cases h

theorem unstructured_of_mem_getters {f : Function} (h : f ∈ b.valueGetters ++ b.partialGetters) :
    f.Unstructured := by
  rw [List.mem_append] at h
  rcases h with h | h
  · obtain ⟨m, -, rfl⟩ := List.mem_map.mp h
    exact ⟨rfl, rfl⟩
  · obtain ⟨m, -, rfl⟩ := List.mem_map.mp h
    dsimp only [traitGetter]
    split <;> exact ⟨rfl, rfl⟩

theorem unstructured_of_mem_standardItems {t : Target} {i : Implementation}
    (h : i ∈ (b.standardItems t).flatMap Item.implementations) :
    ∀ f ∈ i.functions, f.Unstructured := by
  have hsingle : ∀ (body : Body) (f : Function) (X : TypeExpr) (target : Ident), f.body = body →
      body.outcome.record? = none → body.outcome.arms? = none →
        ∀ g ∈ (Implementation.derived X target [f]).functions, g.Unstructured := by
    intro body f X target hbody hrecord harms
    rw [Implementation.functions_derived, List.forall_mem_singleton, Function.Unstructured, hbody]
    exact ⟨hrecord, harms⟩
  rcases of_mem_standardItems h with ⟨s, h⟩ | rfl
  · rcases of_mem_standardOf h with ⟨f, hbody, rfl⟩ | ⟨-, ⟨f, hbody, rfl⟩ | ⟨-, hmixed⟩⟩
    · exact hsingle _ f _ _ hbody (by cases s <;> rfl) (by cases s <;> rfl)
    · exact hsingle _ f _ _ hbody rfl rfl
    · obtain rfl := List.mem_singleton.mp hmixed
      exact hsingle _ _ _ _ rfl rfl rfl
  · exact hsingle _ _ _ _ rfl rfl rfl

theorem unstructured_of_mem_serializationItems {i : Implementation}
    (h : i ∈ b.serializationItems.flatMap Item.implementations) :
    ∀ f ∈ i.functions, f.Unstructured := by
  unfold serializationItems at h
  split at h
  · have hi : i = .derived (.library ["serde", "Serialize"]) b.value [b.serializeFunction] ∨
        i.functions = [b.deserializeFunction] := by
      rcases List.mem_cons.mp h with rfl | h
      · exact Or.inl rfl
      · obtain rfl := List.mem_singleton.mp h
        exact Or.inr rfl
    rcases hi with rfl | hi
    · exact List.forall_mem_singleton.mpr ⟨rfl, rfl⟩
    · rw [hi]
      exact List.forall_mem_singleton.mpr ⟨rfl, rfl⟩
  · cases h

/-- The values of the fields of the error. -/
def errorInitials : Record :=
  [(errorField, .apply .collect [.apply .copied [.method (.var errorField) (plain "iter") []]])]

theorem records_ownItems (b : Blueprint) :
    (b.ownItems.flatMap Item.implementations).flatMap Implementation.records =
      [(.name b.builder, b.builderInitials), (.name b.value, b.valueInitials),
        (.name b.partialType, b.partialInitials)] := by
  have hbuilder : b.builderImplementation.records = [(.name b.builder, b.builderInitials)] := by
    have hnew : recordsOf b.builderFunctions =
        b.builderInitials :: recordsOf b.builderFunctions.tail := rfl
    rw [Implementation.records, functions_builderImplementation, hnew,
      recordsOf_eq_nil fun f => unstructured_of_mem_builderFunctions]
    rfl
  have hdefault : (b.builderDefault.flatMap Item.implementations).flatMap Implementation.records =
      [] := by
    unfold builderDefault
    split <;> rfl
  have hvalue : (Implementation.own b.value b.valueFunctions).records =
      [(.name b.value, b.valueInitials)] := by
    have hnew : recordsOf b.valueFunctions =
        b.valueInitials :: recordsOf b.valueFunctions.tail := by
      refine List.filterMap_cons_some ?_
      unfold valueNew
      dsimp only
      split <;> rfl
    rw [Implementation.records, Implementation.functions_own, hnew,
      recordsOf_eq_nil fun f => unstructured_of_mem_valueFunctions]
    rfl
  have hpartial : (Implementation.own b.partialType [b.partialNew]).records =
      [(.name b.partialType, b.partialInitials)] := rfl
  have hgetters : recordsOf b.valueGetters ++ recordsOf b.partialGetters = [] := by
    rw [recordsOf, recordsOf, ← List.filterMap_append]
    exact recordsOf_eq_nil fun f => unstructured_of_mem_getters
  obtain ⟨hvalueGetters, hpartialGetters⟩ := List.append_eq_nil_iff.mp hgetters
  rw [implementations_ownItems]
  simp only [List.flatMap_append, List.flatMap_cons, List.flatMap_nil, hbuilder, hdefault, hvalue,
    hpartial]
  simp [Implementation.records, hvalueGetters, hpartialGetters]

theorem arms_ownItems (b : Blueprint) :
    ((b.ownItems.flatMap Item.implementations).flatMap fun i => armsOf i.functions) = [] := by
  have hbuilder : armsOf b.builderFunctions = [] := by
    have hnew : armsOf b.builderFunctions = armsOf b.builderFunctions.tail := rfl
    rw [hnew, armsOf_eq_nil fun f => unstructured_of_mem_builderFunctions]
  have hdefault : ((b.builderDefault.flatMap Item.implementations).flatMap
      fun i => armsOf i.functions) = [] := by
    unfold builderDefault
    split <;> rfl
  have hvalue : armsOf b.valueFunctions = [] := by
    have hnew : armsOf b.valueFunctions = armsOf b.valueFunctions.tail := by
      refine List.filterMap_cons_none ?_
      unfold valueNew
      dsimp only
      split <;> rfl
    rw [hnew, armsOf_eq_nil fun f => unstructured_of_mem_valueFunctions]
  have hgetters : armsOf b.valueGetters ++ armsOf b.partialGetters = [] := by
    rw [armsOf, armsOf, ← List.filterMap_append]
    exact armsOf_eq_nil fun f => unstructured_of_mem_getters
  obtain ⟨hvalueGetters, hpartialGetters⟩ := List.append_eq_nil_iff.mp hgetters
  have hpartial : armsOf [b.partialNew] = [] := rfl
  rw [implementations_ownItems]
  simp only [List.flatMap_append, List.flatMap_cons, List.flatMap_nil, hdefault,
    functions_builderImplementation, Implementation.functions_own,
    Implementation.functions_derived, hbuilder, hvalue, hpartial, hvalueGetters, hpartialGetters,
    List.append_nil]

theorem unstructured_of_mem_others {i : Implementation}
    (h : i ∈ (b.standardItems .value).flatMap Item.implementations ++
      (b.standardItems .partialType).flatMap Item.implementations ++
      b.serializationItems.flatMap Item.implementations) : ∀ f ∈ i.functions, f.Unstructured := by
  simp only [List.mem_append] at h
  rcases h with (h | h) | h
  · exact unstructured_of_mem_standardItems h
  · exact unstructured_of_mem_standardItems h
  · exact unstructured_of_mem_serializationItems h

/-- The error, the builder, the value and the partial are made field by field, and nothing else. -/
theorem records_eq (b : Blueprint) : b.records =
    b.ifRequired [(.name b.buildError, errorInitials)] ++
      [(.name b.builder, b.builderInitials), (.name b.value, b.valueInitials),
        (.name b.partialType, b.partialInitials)] := by
  have htracking : (b.trackingItems.flatMap Item.implementations).flatMap Implementation.records =
      b.ifRequired [(.name b.buildError, errorInitials)] := by
    rw [ifRequired_eq, trackingItems]
    split <;> rfl
  have hothers : ∀ is : List Implementation, (∀ i ∈ is, ∀ f ∈ i.functions, f.Unstructured) →
      is.flatMap Implementation.records = [] := by
    intro is h
    rw [List.flatMap_eq_nil_iff]
    intro i hi
    rw [Implementation.records, recordsOf_eq_nil (h i hi), List.map_nil]
  rw [records, allImplementations_eq, List.flatMap_append, List.flatMap_append, htracking,
    records_ownItems, hothers _ fun i => unstructured_of_mem_others, List.append_nil]

/-- Only the labels of the required members depend on a variant. -/
theorem arms_eq (b : Blueprint) : b.arms =
    b.ifRequired [b.required.map fun m => (m.property.variant, m.label)] := by
  have htracking : ((b.trackingItems.flatMap Item.implementations).flatMap
      fun i => armsOf i.functions) =
        b.ifRequired [b.required.map fun m => (m.property.variant, m.label)] := by
    rw [ifRequired_eq, trackingItems]
    split <;> rfl
  have hothers : ∀ is : List Implementation, (∀ i ∈ is, ∀ f ∈ i.functions, f.Unstructured) →
      is.flatMap (fun i => armsOf i.functions) = [] := by
    intro is h
    rw [List.flatMap_eq_nil_iff]
    exact fun i hi => armsOf_eq_nil (h i hi)
  rw [arms, allImplementations_eq, List.flatMap_append, List.flatMap_append, htracking,
    arms_ownItems, hothers _ fun i => unstructured_of_mem_others, List.append_nil, List.append_nil]

theorem enumerations_eq (b : Blueprint) :
    b.enumerations = b.ifRequired [b.propertyEnumeration] := by
  have htracking : b.trackingItems.flatMap Item.enumerations =
      b.ifRequired [b.propertyEnumeration] := by
    rw [ifRequired_eq, trackingItems]
    split <;> rfl
  have hown : b.ownItems.flatMap Item.enumerations = [] := by
    unfold ownItems builderItems builderDefault
    split <;> rfl
  have hstandard : ∀ t, (b.standardItems t).flatMap Item.enumerations = [] := by
    intro t
    rw [List.flatMap_eq_nil_iff]
    intro item hitem
    obtain ⟨_, _, _, rfl⟩ := derivedImpl_of_mem_standardItems hitem
    rfl
  have hserialization : b.serializationItems.flatMap Item.enumerations = [] := by
    unfold serializationItems
    split <;> rfl
  simp only [enumerations, items_eq, builtItems, List.flatMap_append, htracking, hown, hstandard,
    hserialization, List.append_nil]

/-! ## Traits that are implemented once for each type -/

/-- The trait of what can be written. -/
def serializeTrait : TypeExpr := .library ["serde", "Serialize"]

/-- The trait of what can be read. -/
def deserializeTrait : TypeExpr := .lifetimed ["serde", "Deserialize"] "de"

/-- A trait that no user may take over is implemented by what is generated besides standard
traits. -/
theorem implementing_eq {X : TypeExpr} (hX : X ∉ b.standardTypes)
    (htracking : (b.trackingItems.flatMap Item.implementations).filter (·.trait? = some X) = []) :
    b.implementing X =
      (b.ownItems.flatMap Item.implementations).filter (·.trait? = some X) ++
        (b.serializationItems.flatMap Item.implementations).filter (·.trait? = some X) := by
  have hstandard : ∀ t, ((b.standardItems t).flatMap Item.implementations).filter
      (·.trait? = some X) = [] := by
    intro t
    rw [List.filter_eq_nil_iff]
    intro i hi htrait
    obtain ⟨Y, hY, hi⟩ := trait_of_mem_standardItems hi
    obtain rfl := Option.some.inj ((of_decide_eq_true htrait).symm.trans hi)
    exact hX hY
  simp only [implementing, allImplementations_eq, List.filter_append, htracking, hstandard,
    List.nil_append]

theorem implementing_typeName (b : Blueprint) : b.implementing (.name b.typeName) =
    [.derived (.name b.typeName) b.value b.valueGetters,
      .derived (.name b.typeName) b.partialType b.partialGetters] := by
  have htracking : (b.trackingItems.flatMap Item.implementations).filter
      (·.trait? = some (.name b.typeName)) = [] := by
    unfold trackingItems
    split <;> rfl
  have hserialization : (b.serializationItems.flatMap Item.implementations).filter
      (·.trait? = some (.name b.typeName)) = [] := by
    unfold serializationItems
    split <;> rfl
  rw [implementing_eq (by simp [standardTypes, equalityTrait, hashTrait, displayTrait, debugTrait,
    mixedTrait]) htracking, hserialization, implementations_ownItems]
  unfold builderDefault
  split <;> simp [Implementation.own, Implementation.derived, builderImplementation, derivedImpl,
    Item.implementations]

theorem implementing_serialization {X : TypeExpr} (hX : X = serializeTrait ∨ X = deserializeTrait) :
    b.implementing X =
      (b.serializationItems.flatMap Item.implementations).filter (·.trait? = some X) := by
  have hstandard : X ∉ b.standardTypes := by
    rcases hX with rfl | rfl <;>
      simp [standardTypes, serializeTrait, deserializeTrait, equalityTrait, hashTrait,
        displayTrait, debugTrait, mixedTrait]
  have htracking : (b.trackingItems.flatMap Item.implementations).filter
      (·.trait? = some X) = [] := by
    unfold trackingItems
    rcases hX with rfl | rfl <;> split <;> rfl
  have hown : (b.ownItems.flatMap Item.implementations).filter (·.trait? = some X) = [] := by
    rw [implementations_ownItems]
    unfold builderDefault
    rcases hX with rfl | rfl <;> split <;> rfl
  rw [implementing_eq hstandard htracking, hown, List.nil_append]

theorem implementing_serializeTrait (b : Blueprint) : b.implementing serializeTrait =
    if b.serde then [.derived serializeTrait b.value [b.serializeFunction]] else [] := by
  rw [implementing_serialization (Or.inl rfl), serializationItems]
  split <;> rfl

theorem functions_deserializeTrait (b : Blueprint) :
    (b.implementing deserializeTrait).map (fun i => (i.target, i.functions)) =
      if b.serde then [(.name b.value, [b.deserializeFunction])] else [] := by
  rw [implementing_serialization (Or.inr rfl), serializationItems]
  split <;> rfl

end Blueprint

end TraitBuilder
