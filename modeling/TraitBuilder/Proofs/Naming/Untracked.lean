import TraitBuilder.Proofs.Naming.Foreign

/-!
# Generated code without required members

The enumeration of the required properties, the error and the field of the unset properties exist
only while some member is required.  Without such a member no generated code refers to them, unless
the user wrote the same name.  The items are gone through in the order in which they are written.

* `Blueprint.not_refers_items`: without required members no generated code refers to a type or a
  field whose name the user did not write.
-/

namespace TraitBuilder

open Code

namespace Blueprint

variable {b : Blueprint} {r : Reference}

theorem foreign_member (hr : r.Foreign b.userTokens) {m : Member} (hm : m ∈ b.members) :
    r.Foreign m.userTokens := by
  refine ⟨hr.declared, fun hin => hr.absent ?_⟩
  exact Reference.within_append.mpr (Or.inr (Reference.within_flatMap.mpr ⟨m, hm, hin⟩))

theorem not_within_visibility (hr : r.Foreign b.userTokens) : ¬ r.Within b.visibility := by
  intro hin
  exact hr.absent (Reference.within_append.mpr (Or.inl (Reference.within_append.mpr (Or.inr hin))))

theorem within_of_mem_userTypes {x : Ident} (hx : x ∈ b.userTypes) (h : r.name = x.name) :
    r.Within b.userTokens := by
  simp only [userTypes, List.mem_cons, List.not_mem_nil, or_false] at hx
  simp only [userTokens, Reference.within_append]
  rcases hx with rfl | rfl | rfl | rfl <;> simp [userTypes, h]

theorem not_isType (hr : r.Foreign b.userTokens) {x : Ident} (hx : x ∈ b.userTypes) :
    ¬ r.IsType x := by
  rintro ⟨rfl, -⟩
  exact hr.absent (within_of_mem_userTypes hx rfl)

theorem isRequired_eq_false (hnone : b.hasRequired = false) {m : Member} (hm : m ∈ b.members) :
    m.isRequired = false := by
  simp only [hasRequired, List.any_eq_false] at hnone
  simpa using hnone m hm

theorem not_refers_derivedImpl {trait_ : TypeExpr} {target : Ident} {functions : List Function}
    (ht : ¬ trait_.Refers r) (htarget : ¬ r.IsType target)
    (hf : ∀ f ∈ functions, ¬ f.Refers r) : ¬ (derivedImpl trait_ target functions).Refers r := by
  simpa [derivedImpl, Implementation.Refers, ht, htarget] using hf

section NoneRequired

variable (hr : r.Foreign b.userTokens) (hnone : b.hasRequired = false)

include hr

theorem not_isType_builder : ¬ r.IsType b.builder := not_isType hr (by simp [userTypes])

theorem not_isType_target (t : Target) : ¬ r.IsType (t.name b) := by
  cases t <;> exact not_isType hr (by simp [userTypes, Target.name])

theorem not_isType_typeName : ¬ r.IsType b.typeName := not_isType hr (by simp [userTypes])

/-! ### Common parts -/

theorem not_refers_newBuilder : ¬ b.newBuilder.Refers r := by
  simp [newBuilder, not_isType_builder hr]

theorem not_refers_builtFrom (t : Target) : ¬ (builtFrom (t.name b)).Refers r := by
  simp [builtFrom, Term.self, hr.ne_variable, not_isType_target hr t]

theorem not_refers_traitGetter {m : Member} (hm : m ∈ b.members) {outcome : Outcome}
    (ho : ¬ outcome.Refers r) : ¬ (traitGetter m outcome).Refers r := by
  apply Function.not_refers rfl
  · simp [traitGetter]
  · simp [traitGetter]
  · rintro t ⟨⟩
    exact (Member.free_of_foreign (foreign_member hr hm)).returnType
  · exact Body.not_refers (List.forall_mem_nil _) ho

theorem not_refers_traitImplementation (t : Target) {getters : List Function}
    (hg : ∀ f ∈ getters, ¬ f.Refers r) :
    ¬ (traitImplementation b.typeName (t.name b) getters).Refers r :=
  not_refers_derivedImpl (not_isType_typeName hr) (not_isType_target hr t) hg

/-! ### The builder -/

theorem not_refers_buildPartialFunction : ¬ b.buildPartialFunction.Refers r := by
  apply Function.not_refers rfl
  · simp [buildPartialFunction]
  · simp [buildPartialFunction]
  · rintro t ⟨⟩
    exact not_isType_target hr .partialType
  · exact Body.not_refers (List.forall_mem_nil _) (not_refers_builtFrom hr .partialType)

theorem not_refers_mergeFromFunction : ¬ b.mergeFromFunction.Refers r := by
  have htype := not_isType_typeName hr
  apply Member.not_refers_changer (not_isType_builder hr)
  · simp
  · simpa [TypeExpr.ref] using htype
  · intro s hs
    obtain ⟨m, hm, rfl⟩ := List.mem_map.mp hs
    exact Member.not_refers_mergeFromValue (foreign_member hr hm) htype _
  · exact hr.ne_variable _

include hnone

theorem builderFields_not_refers : ∀ field ∈ b.builderFields, ¬ field.2.Refers r := by
  rw [builderFields_of_not_hasRequired hnone]
  intro field hfield
  obtain ⟨m, hm, rfl⟩ := List.mem_map.mp hfield
  exact Member.not_refers_storageType (foreign_member hr hm) _

theorem not_refers_builderNew : ¬ b.builderNew.Refers r := by
  apply Function.not_refers rfl
  · unfold builderNew
    dsimp only
    split <;> simp
  · simp [builderNew]
  · rintro t ⟨⟩
    simp [TypeExpr.self]
  · refine Body.not_refers (List.forall_mem_nil _) ?_
    simp only [builderNew, builderInitials, hnone, Outcome.Refers]
    rintro ⟨field, hfield, h⟩
    obtain ⟨m, hm, rfl⟩ : ∃ m ∈ b.members, (m.name, m.initial) = field := by simpa using hfield
    have hm := foreign_member hr hm
    rcases h with h | h
    · exact (Member.free_of_foreign hm).name h
    · exact Member.not_refers_initial hm h

theorem not_refers_buildFunction : ¬ b.buildFunction.Refers r := by
  simp only [buildFunction, hnone]
  apply Function.not_refers rfl
  · simp
  · simp
  · rintro t ⟨⟩
    exact not_isType_target hr .value
  · exact Body.not_refers (List.forall_mem_nil _) (not_refers_builtFrom hr .value)

theorem not_refers_mergeFromBuilderFunction : ¬ b.mergeFromBuilderFunction.Refers r := by
  have hbuilder := not_isType_builder hr
  apply Member.not_refers_changer hbuilder
  · simp
  · simpa [TypeExpr.ref, builderType] using hbuilder
  · intro s hs
    obtain ⟨m, hm, rfl⟩ := List.mem_map.mp hs
    simpa [mergeMember, isRequired_eq_false hnone hm] using
      Member.not_refers_mergeFromBuilder (foreign_member hr hm) templateVar
  · exact hr.ne_variable _

theorem not_refers_clearFunction : ¬ b.clearFunction.Refers r := by
  have hself : ¬ Term.self.Refers r := hr.ne_variable _
  unfold clearFunction
  dsimp only
  split
  · apply Member.not_refers_changer (not_isType_builder hr) _ _ _ hself
    · simp
    · simp
    · intro s hs
      simp only [clearStatements, hnone, Bool.false_eq_true, if_false, List.append_nil,
        List.mem_append, List.mem_flatMap] at hs
      rcases hs with hs | ⟨m, hm, hs⟩
      · split at hs
        · obtain rfl := List.mem_singleton.mp hs
          exact not_refers_newBuilder hr
        · cases hs
      · exact Member.not_refers_clear (foreign_member hr hm) _ s hs
  · apply Member.not_refers_changer (not_isType_builder hr) _ _ _ hself
    · simp
    · simp
    · intro s hs
      obtain ⟨m, hm, hs⟩ := List.mem_flatMap.mp hs
      exact Member.not_refers_partialClear (foreign_member hr hm) hself s hs

theorem not_refers_builderFunctions : ∀ f ∈ b.builderFunctions, ¬ f.Refers r := by
  intro f hf
  simp only [builderFunctions, accessorFunctions, List.mem_append, List.mem_cons, List.mem_flatMap,
    List.not_mem_nil, or_false] at hf
  rcases hf with (rfl | ⟨m, hm, hf⟩) | rfl | rfl | rfl | rfl | rfl
  · exact not_refers_builderNew hr hnone
  · exact Member.not_refers_accessors (foreign_member hr hm) (not_isType_builder hr)
      (isRequired_eq_false hnone hm) f hf
  · exact not_refers_buildFunction hr hnone
  · exact not_refers_mergeFromFunction hr
  · exact not_refers_mergeFromBuilderFunction hr hnone
  · exact not_refers_clearFunction hr hnone
  · exact not_refers_buildPartialFunction hr

theorem not_refers_builderItems : ∀ item ∈ b.builderItems, ¬ item.Refers r := by
  have hbuilder := not_isType_builder hr
  have hfunctions := not_refers_builderFunctions hr hnone
  intro item hitem
  simp only [builderItems, List.mem_append, List.mem_cons, List.not_mem_nil, or_false] at hitem
  rcases hitem with (rfl | rfl) | hitem
  · simpa [Structure.Refers, builderStructure, not_within_visibility hr] using
      builderFields_not_refers hr hnone
  · simp only [Item.Refers, Implementation.Refers, builderImplementation, builderType]
    rintro (⟨_, ⟨⟩, _⟩ | ⟨_, ⟨⟩, _⟩ | h | ⟨item, hitem, h⟩)
    · exact hbuilder h
    · rcases List.mem_append.mp hitem with hitem | hitem
      · unfold joinerItems at hitem
        split at hitem
        · obtain rfl := List.mem_singleton.mp hitem
          exact h
        · cases hitem
      · obtain ⟨f, hf, rfl⟩ := List.mem_map.mp hitem
        exact hfunctions f hf h
  · unfold builderDefault at hitem
    split at hitem
    · obtain rfl := List.mem_singleton.mp hitem
      apply not_refers_derivedImpl (by simp) hbuilder
      simp [Function.Refers, Body.Refers, Body.term, TypeParameter.Refers, TypeExpr.self]
    · cases hitem

/-! ### The value and the partial -/

theorem not_refers_valueNew : ¬ b.valueNew.Refers r := by
  apply Function.not_refers rfl
  · simp [valueNew]
  · simpa [valueNew, TypeExpr.ref, builderType] using not_isType_builder hr
  · simp [valueNew, hnone, TypeExpr.self]
  · simp only [valueNew, hnone]
    refine Body.not_refers (List.forall_mem_nil _) ?_
    rintro ⟨field, hfield, h⟩
    obtain ⟨m, hm, rfl⟩ := List.mem_map.mp hfield
    have hforeign := foreign_member hr hm
    rcases h with h | h
    · exact (Member.free_of_foreign hforeign).name h
    · exact Member.not_refers_finalValue hforeign (isRequired_eq_false hnone hm) _ h

theorem not_refers_valueFunctions : ∀ f ∈ b.valueFunctions, ¬ f.Refers r := by
  have hbuilder := not_isType_builder hr
  have hvar : ¬ (Term.var builderVar).Refers r := hr.ne_variable _
  intro f hf
  rcases List.mem_append.mp hf with hf | hf
  · obtain rfl := List.mem_singleton.mp hf
    exact not_refers_valueNew hr hnone
  split at hf
  · simp only [List.mem_cons, List.not_mem_nil, or_false] at hf
    rcases hf with rfl | rfl
    · apply Function.not_refers rfl
      · simp [valueBuilder]
      · simp [valueBuilder]
      · rintro t ⟨⟩
        exact hbuilder
      · exact Body.not_refers (List.forall_mem_nil _) (not_refers_newBuilder hr)
    · apply Function.not_refers rfl
      · simp [valueToBuilder]
      · simp [valueToBuilder]
      · rintro t ⟨⟩
        exact hbuilder
      · refine Body.not_refers ?_ hvar
        intro s hs
        simp only [valueToBuilder, List.mem_append, List.mem_cons, List.mem_flatMap,
          List.not_mem_nil, or_false] at hs
        rcases hs with (rfl | ⟨m, hm, hs⟩) | rfl
        · exact not_refers_newBuilder hr
        · exact Member.not_refers_partialClear (foreign_member hr hm) hvar s hs
        · simp [hr.ne_variable, Term.self]
  · cases hf

theorem not_refers_valueItems : ∀ item ∈ b.valueItems, ¬ item.Refers r := by
  simp only [valueItems, List.forall_mem_cons]
  refine ⟨?_, ?_, ?_, List.forall_mem_nil _⟩
  · have hfields : ∀ field ∈ b.valueFields, ¬ field.2.Refers r := by
      intro field hfield
      obtain ⟨m, hm, rfl⟩ := List.mem_map.mp hfield
      exact Member.not_refers_storageType (foreign_member hr hm) _
    simpa [Structure.Refers, valueStructure, not_within_visibility hr] using hfields
  · simpa [Implementation.Refers, not_isType_target hr .value] using
      ⟨not_isType_target hr .value, not_refers_valueFunctions hr hnone⟩
  · apply not_refers_traitImplementation hr .value
    intro f hf
    obtain ⟨m, hm, rfl⟩ := List.mem_map.mp hf
    exact not_refers_traitGetter hr hm (Member.not_refers_readStored (foreign_member hr hm))

theorem not_refers_partialNew : ¬ b.partialNew.Refers r := by
  apply Function.not_refers rfl
  · simp [partialNew]
  · simpa [partialNew, TypeExpr.ref, builderType] using not_isType_builder hr
  · rintro t ⟨⟩
    simp [TypeExpr.self]
  · refine Body.not_refers (List.forall_mem_nil _) ?_
    simp only [partialNew, partialInitials, hnone, Outcome.Refers]
    rintro ⟨field, hfield, h⟩
    obtain ⟨m, hm, rfl⟩ : ∃ m ∈ b.members, (m.name, m.partialValue builderVar) = field := by
      simpa using hfield
    have hforeign := foreign_member hr hm
    rcases h with h | h
    · exact (Member.free_of_foreign hforeign).name h
    · exact Member.not_refers_copied hforeign _ h

theorem not_refers_partialItems : ∀ item ∈ b.partialItems, ¬ item.Refers r := by
  simp only [partialItems, List.forall_mem_cons]
  refine ⟨?_, ?_, ?_, List.forall_mem_nil _⟩
  · rw [partialStructure, partialFields_eq]
    simpa [Structure.Refers, not_within_visibility hr] using builderFields_not_refers hr hnone
  · simpa [Implementation.Refers, not_isType_target hr .partialType] using
      ⟨not_isType_target hr .partialType, not_refers_partialNew hr hnone⟩
  · apply not_refers_traitImplementation hr .partialType
    intro f hf
    obtain ⟨m, hm, rfl⟩ := List.mem_map.mp hf
    rw [if_neg (by simp [isRequired_eq_false hnone hm])]
    exact not_refers_traitGetter hr hm (Member.not_refers_readStored (foreign_member hr hm))

end NoneRequired

/-! ### Equality and hashing -/

theorem not_refers_equalityFunction {other : Ident} {otherType : TypeExpr} {body : Body}
    (ht : ¬ otherType.Refers r) (hb : ¬ body.Refers r) :
    ¬ (equalityFunction other otherType body).Refers r := by
  apply Function.not_refers rfl
  · simp [equalityFunction]
  · simpa [equalityFunction, TypeExpr.ref] using ht
  · rintro t ⟨⟩
    simp
  · exact hb

/-- The type parameter of the function is no type that something else declares. -/
theorem not_refers_hashFunction {state : Ident} {body : Body} (hb : ¬ body.Refers r) :
    ¬ (hashFunction state body).Refers r := by
  rintro ⟨hown, ⟨_, ⟨⟩, _⟩ | h | ⟨p, hp, h⟩ | ⟨_, ⟨⟩, _⟩ | h⟩
  · exact h
  · obtain rfl := List.mem_singleton.mp hp
    exact hown "H" rfl h.1
  · exact hb h

section Standard

variable (hr : r.Foreign b.userTokens)

include hr

theorem not_refers_comparable (m : Member) (layout : Layout) {stored : Term}
    (hstored : ¬ stored.Refers r) : ¬ (comparable m layout stored).Refers r := by
  unfold comparable
  split
  · exact hstored
  · split <;> simp [bitsOf, bitsFunction, Term.apply, hstored, hr.ne_variable]

theorem not_refers_ownField {m : Member} (hm : m ∈ b.members) :
    ¬ (Term.ownField m.name).Refers r := by
  simp [Term.ownField, Term.self, hr.ne_variable,
    (Member.free_of_foreign (foreign_member hr hm)).name]

theorem not_refers_memberTest {m : Member} (hm : m ∈ b.members) (t : Target) :
    ¬ (memberTest t m).Refers r := by
  have hother : ¬ (Term.field (.var otherVar) m.name).Refers r := by
    simp [hr.ne_variable, (Member.free_of_foreign (foreign_member hr hm)).name]
  have hleft := not_refers_comparable hr m (t.layout m) (not_refers_ownField hr hm)
  have hright := not_refers_comparable hr m (t.layout m) hother
  unfold memberTest
  dsimp only
  split <;> simp [Term.apply, hleft, hright]

theorem not_refers_hashTerm {t : Term} (ht : ¬ t.Refers r) : ¬ (hashTerm t).Refers r := by
  simp [hashTerm, Term.apply, ht, hr.ne_variable]

theorem not_refers_hashMember {m : Member} (hm : m ∈ b.members) (t : Target) :
    ∀ s ∈ hashMember t m, ¬ s.Refers r := by
  have hstored := not_refers_ownField hr hm
  unfold hashMember
  dsimp only
  split
  · simp only [List.forall_mem_cons]
    refine ⟨not_refers_hashTerm hr (by simp [hstored]), ?_, List.forall_mem_nil _⟩
    simp [hashTerm, bitsOf, Term.apply, hstored, hr.ne_variable]
  · simpa using not_refers_hashTerm hr (not_refers_comparable hr m (t.layout m) hstored)

variable (hnone : b.hasRequired = false)

include hnone

theorem not_refers_structuralEquality (t : Target) : ¬ (b.structuralEquality t).Refers r := by
  apply not_refers_derivedImpl (by simp [equalityTrait]) (not_isType_target hr t)
  rw [List.forall_mem_singleton]
  refine not_refers_equalityFunction (by simp [TypeExpr.self]) ?_
  refine Body.not_refers (List.forall_mem_nil _) ?_
  simp only [equalityTests, hnone, Bool.and_false, Bool.false_eq_true, if_false,
    List.append_nil, Outcome.Refers]
  rintro ⟨test, htest, h⟩
  obtain ⟨m, hm, rfl⟩ := List.mem_map.mp htest
  exact not_refers_memberTest hr hm t h

omit hnone in
theorem not_refers_providedEquality : ∀ item ∈ b.providedEquality, ¬ item.Refers r := by
  have hvalue : ¬ r.IsType b.value := not_isType_target hr .value
  have hpartial : ¬ r.IsType b.partialType := not_isType_target hr .partialType
  simp only [providedEquality, List.forall_mem_cons]
  refine ⟨?_, ?_, List.forall_mem_nil _⟩
  · apply not_refers_derivedImpl (by simp [equalityTrait]) hvalue
    rw [List.forall_mem_singleton]
    refine not_refers_equalityFunction (by simp [TypeExpr.self]) ?_
    simp [Term.self, hr.ne_variable, not_isType_typeName hr]
  · apply not_refers_derivedImpl (by simpa using hpartial) hvalue
    rw [List.forall_mem_singleton]
    refine not_refers_equalityFunction (by simpa using hpartial) ?_
    simp

theorem not_refers_equalityItems (t : Target) : ∀ item ∈ b.equalityItems t, ¬ item.Refers r := by
  unfold equalityItems
  split
  · exact List.forall_mem_nil _
  · exact not_refers_providedEquality hr
  · simpa using not_refers_structuralEquality hr hnone _

theorem not_refers_structuralHash (t : Target) : ¬ (b.structuralHash t).Refers r := by
  apply not_refers_derivedImpl (by simp [hashTrait]) (not_isType_target hr t)
  rw [List.forall_mem_singleton]
  refine not_refers_hashFunction (Body.not_refers ?_ not_false)
  simp only [hashStatements, hnone, Bool.and_false, Bool.false_eq_true, if_false,
    List.append_nil, List.mem_flatMap]
  rintro s ⟨m, hm, hs⟩
  exact not_refers_hashMember hr hm t s hs

omit hnone in
theorem not_refers_providedHash : ¬ b.providedHash.Refers r := by
  apply not_refers_derivedImpl (by simp [hashTrait]) (not_isType_target hr .value)
  rw [List.forall_mem_singleton]
  refine not_refers_hashFunction ?_
  simp [Term.self, hr.ne_variable, not_isType_typeName hr]

theorem not_refers_hashItems (t : Target) : ∀ item ∈ b.hashItems t, ¬ item.Refers r := by
  unfold hashItems
  split
  · exact List.forall_mem_nil _
  · simpa using not_refers_providedHash hr
  · simpa using not_refers_structuralHash hr hnone _

/-! ### Display -/

omit hnone

omit hr in
theorem not_refers_formatFunction {decorations : List Decoration} {body : Body}
    (hd : ∀ d ∈ decorations, ¬ d.Refers r) (hb : ¬ body.Refers r) :
    ¬ (formatFunction decorations body).Refers r := by
  apply Function.not_refers rfl hd
  · simp [formatFunction, TypeExpr.refMut]
  · rintro t ⟨⟩
    simp
  · exact hb

theorem not_refers_writeText {t : Term} (ht : ¬ t.Refers r) : ¬ (writeText t).Refers r := by
  simp [writeText, hr.ne_variable, ht]

theorem not_refers_displayField (m : Member) {value : Term} (hvalue : ¬ value.Refers r) :
    ∀ s ∈ displayField m value, ¬ s.Refers r := by
  unfold displayField
  dsimp only
  split <;>
    simp [writeText, writeDisplayed, separateElements, Term.apply, hr.ne_variable, hvalue]

theorem not_refers_joiner : ¬ b.joiner.Refers r := by
  simp [joiner, not_isType_builder hr, hr.ne_constant]

theorem not_refers_leading (t : Target) (index : Nat) : ∀ s ∈ b.leading t index, ¬ s.Refers r := by
  unfold leading
  split
  · simpa using not_refers_writeText hr (hr.not_refers_var separatorVar)
  · split
    · simpa using not_refers_writeText hr (not_refers_joiner hr)
    · exact List.forall_mem_nil _

theorem not_refers_trailing (t : Target) : ∀ s ∈ b.trailing t, ¬ s.Refers r := by
  unfold trailing
  split
  · simp [hr.ne_variable, not_refers_joiner hr]
  · exact List.forall_mem_nil _

theorem not_refers_displayMember {m : Member} (hm : m ∈ b.members) (t : Target) (index : Nat) :
    ∀ s ∈ b.displayMember t index m, ¬ s.Refers r := by
  have hown : ¬ (Term.ownFieldRef m.name).Refers r := by
    simpa [Term.ownFieldRef] using not_refers_ownField hr hm
  have haround {value : Term} (hvalue : ¬ value.Refers r) :
      ∀ s ∈ b.leading t index ++ displayField m value ++ b.trailing t, ¬ s.Refers r := by
    intro s hs
    rcases List.mem_append.mp hs with hs | hs
    · rcases List.mem_append.mp hs with hs | hs
      · exact not_refers_leading hr t index s hs
      · exact not_refers_displayField hr m hvalue s hs
    · exact not_refers_trailing hr t s hs
  unfold displayMember
  dsimp only
  split
  · have hpresent := haround (hr.not_refers_var presentVar)
    simpa [hown, Statement.refersAny_iff] using hpresent
  · exact haround hown

theorem not_refers_displayMembers (t : Target) (index : Nat) {members : List Member}
    (hm : ∀ m ∈ members, m ∈ b.members) :
    ∀ s ∈ b.displayMembers t index members, ¬ s.Refers r := by
  induction members generalizing index with
  | nil => exact List.forall_mem_nil _
  | cons m rest ih =>
    intro s hs
    rcases List.mem_append.mp hs with hs | hs
    · exact not_refers_displayMember hr (hm m List.mem_cons_self) t index s hs
    · exact ih (index + 1) (fun m h => hm m (List.mem_cons_of_mem _ h)) s hs

theorem not_refers_structuralDisplay (t : Target) : ¬ (b.structuralDisplay t).Refers r := by
  apply not_refers_derivedImpl (by simp [displayTrait]) (not_isType_target hr t)
  rw [List.forall_mem_singleton]
  refine not_refers_formatFunction ?_ (Body.not_refers ?_ ?_)
  · split <;> simp
  · simp only [displayBody, displayStatements, List.forall_mem_cons, List.forall_mem_append]
    refine ⟨not_refers_writeText hr not_false, ?_, not_refers_displayMembers hr t 0 fun _ => id⟩
    split <;> simp
  · simp [displayBody, writeLast, hr.ne_variable]

theorem not_refers_displayItems (t : Target) : ∀ item ∈ b.displayItems t, ¬ item.Refers r := by
  unfold displayItems
  split
  · exact List.forall_mem_nil _
  · rw [List.forall_mem_singleton]
    apply not_refers_derivedImpl (by simp [displayTrait]) (not_isType_target hr .value)
    rw [List.forall_mem_singleton]
    refine not_refers_formatFunction (List.forall_mem_nil _) ?_
    simp [Term.self, hr.ne_variable, not_isType_typeName hr]
  · simpa using not_refers_structuralDisplay hr _

theorem not_refers_debugItems (t : Target) : ∀ item ∈ b.debugItems t, ¬ item.Refers r := by
  unfold debugItems
  split
  · exact List.forall_mem_nil _
  · rw [List.forall_mem_singleton]
    apply not_refers_derivedImpl (by simp) (not_isType_target hr t)
    rw [List.forall_mem_singleton]
    refine not_refers_formatFunction (List.forall_mem_nil _) ?_
    simp [Term.self, Term.apply, hr.ne_variable]

/-! ### Serialization -/

theorem not_refers_serializeItem : ¬ b.serializeItem.Refers r := by
  apply not_refers_derivedImpl (by simp) (not_isType_target hr .value)
  rw [List.forall_mem_singleton]
  have hbody : ¬ b.serializeBody.Refers r := by
    apply Body.not_refers
    · intro s hs
      simp only [serializeBody, List.mem_append, List.mem_cons, List.mem_map, List.not_mem_nil,
        or_false] at hs
      rcases hs with rfl | ⟨m, hm, rfl⟩
      · simp [Term.apply, hr.ne_variable]
      · simpa [serializeMember, Term.apply, Term.ownFieldRef, hr.ne_variable] using
          not_refers_ownField hr hm
    · simp [serializeBody, Term.apply, hr.ne_variable]
  rintro ⟨hown, ⟨_, ⟨⟩, _⟩ | h | ⟨p, hp, h⟩ | ⟨t, ht, h⟩ | h⟩
  · exact h
  · obtain rfl := List.mem_singleton.mp hp
    exact hown "S" rfl h.1
  · cases ht
    simp at h
  · exact hbody h

theorem not_refers_deserializeFunction (hnone : b.hasRequired = false) :
    ¬ b.deserializeFunction.Refers r := by
  have hbody : ¬ b.deserializeBody.Refers r := by
    apply Body.not_refers
    · intro s hs
      simp only [deserializeBody, List.mem_append, List.mem_cons, List.mem_map, List.not_mem_nil,
        or_false] at hs
      rcases hs with (rfl | rfl) | ⟨m, hm, rfl⟩
      · simp [hr.ne_variable]
      · exact not_refers_newBuilder hr
      · have hforeign := foreign_member hr hm
        refine Member.not_refers_setFromResult hforeign ?_ _
        simp [hr.ne_variable, (Member.free_of_foreign hforeign).name]
    · simp [deserializeBody, deserializeResult, hnone, Term.apply, hr.ne_variable]
  rintro ⟨hown, ⟨_, ⟨⟩, _⟩ | h | ⟨p, hp, h⟩ | ⟨t, ht, h⟩ | h⟩
  · exact h
  · obtain rfl := List.mem_singleton.mp hp
    exact hown "D" rfl h.1
  · cases ht
    simp [TypeExpr.self] at h
  · exact hbody h

theorem not_refers_deserializeItem (hnone : b.hasRequired = false) :
    ¬ b.deserializeItem.Refers r := by
  rintro (h | h)
  · have hfields : ∀ field ∈ b.shadowStructure.fields, ¬ field.2.Refers r := by
      intro field hfield
      obtain ⟨m, hm, rfl⟩ := List.mem_map.mp hfield
      exact Member.not_refers_serializedType (foreign_member hr hm)
    rcases h with ⟨d, hd, h⟩ | h | ⟨field, hfield, h⟩
    · simp only [shadowStructure, List.mem_cons, List.not_mem_nil, or_false] at hd
      rcases hd with rfl | rfl <;> exact h
    · exact Reference.not_within_nil h
    · exact hfields field hfield h
  · rcases h with ⟨d, hd, h⟩ | ⟨t, ht, h⟩ | h | ⟨item, hitem, h⟩
    · obtain rfl := List.mem_singleton.mp hd
      exact h
    · cases ht
      exact h
    · exact not_isType_target hr .value h
    · obtain rfl := List.mem_singleton.mp hitem
      exact not_refers_deserializeFunction hr hnone h

theorem not_refers_serializationItems (hnone : b.hasRequired = false) :
    ∀ item ∈ b.serializationItems, ¬ item.Refers r := by
  unfold serializationItems
  split
  · simp only [List.forall_mem_cons]
    exact ⟨not_refers_serializeItem hr, not_refers_deserializeItem hr hnone,
      List.forall_mem_nil _⟩
  · exact List.forall_mem_nil _

/-! ## All items -/

theorem not_refers_standardItems (hnone : b.hasRequired = false) (t : Target) :
    ∀ item ∈ b.standardItems t, ¬ item.Refers r := by
  simp only [standardItems, List.forall_mem_append]
  exact ⟨⟨⟨not_refers_equalityItems hr hnone t, not_refers_hashItems hr hnone t⟩,
    not_refers_displayItems hr t⟩, not_refers_debugItems hr t⟩

/-- Without required members no generated code refers to a type or a field whose name the user did
not write. -/
theorem not_refers_items (hnone : b.hasRequired = false) : ∀ item ∈ b.items, ¬ item.Refers r := by
  have htracking : b.trackingItems = [] := by simp [trackingItems, hnone]
  simp only [items, htracking, List.nil_append, List.forall_mem_append]
  exact ⟨⟨⟨⟨⟨not_refers_builderItems hr hnone, not_refers_valueItems hr hnone⟩,
    not_refers_partialItems hr hnone⟩, not_refers_standardItems hr hnone .value⟩,
    not_refers_standardItems hr hnone .partialType⟩, not_refers_serializationItems hr hnone⟩

end Standard

end Blueprint

end TraitBuilder
