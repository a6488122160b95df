import TraitBuilder.Proofs.Code.Entries
import TraitBuilder.Proofs.Code.Records

/-!
# The order of declaration

Whatever is generated for each member comes in the order in which the members are declared, once for
each.  What is generated for the required ones only comes in their order.  One more entry stands
last where unset properties are kept.

* `Blueprint.KeepsOrder`: all that is in the order of declaration.
* `Blueprint.keepsOrder`: everything generated is.
-/

namespace TraitBuilder

open Code

namespace Blueprint

variable {b : Blueprint}

/-! ## Structural implementations -/

/-- The fields of a type that are no members. -/
def unsetFields (b : Blueprint) : Target → List Ident
  | .value => []
  | .partialType => b.ifRequired [unsetField]

/-- An implementation of a standard trait that does not call the method of the user's trait goes
member by member. -/
theorem structural_of_not_calls {s : StandardTrait} {i : Implementation}
    (hi : i ∈ b.implementations) (htrait : i.trait? = some s.type)
    (hcalls : ¬ i.Calls (.ofTrait b.typeName s.methodName)) :
    ∃ t f, i.target = .name (t.name b) ∧ i.functions = [f] ∧ f.body = b.structuralBody s t := by
  obtain ⟨t, hi⟩ := mem_standardOf_of_trait hi htrait
  rcases of_mem_standardOf hi with ⟨f, hbody, rfl⟩ | ⟨-, ⟨f, hbody, rfl⟩ | ⟨-, hmixed⟩⟩
  · exact ⟨t, f, rfl, Implementation.functions_derived _ _ _, hbody⟩
  · exact absurd (calls_providedBody hbody _ _) hcalls
  · obtain rfl := List.mem_singleton.mp hmixed
    exact absurd (Option.some.inj htrait) mixedTrait_ne_type

theorem comparedFields_equalityTests (b : Blueprint) (t : Target) :
    (b.equalityTests t).map comparedFields =
      (b.names ++ b.unsetFields t).map fun x => ([x], [x]) := by
  have hunset : comparedFields
      (.compare .equal Member.ownUnset (.field (.var otherVar) unsetField)) =
        ([unsetField], [unsetField]) := by
    decide
  have hmembers : (b.members.map (memberTest t)).map comparedFields =
      b.names.map fun x => ([x], [x]) := by
    simp [names, Function.comp_def]
  rw [equalityTests, List.map_append, List.map_append, hmembers]
  cases t with
  | value => rfl
  | partialType =>
    rw [unsetFields, ifRequired_eq]
    cases b.hasRequired with
    | false => rfl
    | true => simp [hunset]

theorem hashedFields_hashStatements (b : Blueprint) (t : Target) :
    hashedFields (b.hashStatements t) = b.names ++ b.unsetFields t := by
  have hmembers : ∀ (members : List Member) (rest : List Statement),
      hashedFields (members.flatMap (hashMember t) ++ rest) =
        members.map Member.name ++ hashedFields rest := by
    intro members rest
    induction members with
    | nil => rfl
    | cons m members ih =>
      rw [List.flatMap_cons, List.append_assoc, Member.hashedFields_hashMember, ih]
      rfl
  rw [hashStatements, hmembers]
  cases t with
  | value => rfl
  | partialType =>
    rw [unsetFields, ifRequired_eq]
    cases b.hasRequired <;> rfl

theorem writtenFields_serializeBody (b : Blueprint) :
    b.serializeBody.subterms.filterMap writtenField? = b.names.map fun x => (x.name, [x]) := by
  have hmembers : ((b.members.map serializeMember).flatMap Statement.subterms).filterMap
      writtenField? = b.members.map fun m => (m.name.name, [m.name]) :=
    Statement.filterMap_subterms_map (fun m => rfl) _
  have houtcome : (Outcome.term (.apply .endStruct [.var writtenVar])).subterms.filterMap
      writtenField? = [] := rfl
  rw [serializeBody, Body.subterms, List.flatMap_append, List.filterMap_append,
    List.filterMap_append, hmembers, houtcome, List.append_nil, names, List.map_map]
  rfl

theorem announcedLength_serializeBody (b : Blueprint) :
    b.serializeBody.subterms.filterMap announcedLength? = [b.names.length] := by
  have hmembers : ((b.members.map serializeMember).flatMap Statement.subterms).filterMap
      announcedLength? = [] := by
    rw [List.flatMap_map, List.filterMap_flatMap, List.flatMap_eq_nil_iff]
    exact fun m _ => rfl
  have houtcome : (Outcome.term (.apply .endStruct [.var writtenVar])).subterms.filterMap
      announcedLength? = [] := rfl
  rw [serializeBody, Body.subterms, List.flatMap_append, List.filterMap_append,
    List.filterMap_append, hmembers, houtcome, names, List.length_map]
  rfl

theorem fieldsOf_deserializeBody (b : Blueprint) :
    fieldsOf fieldsVar b.deserializeBody.subterms = b.names := by
  have hmembers : fieldsOf fieldsVar
      ((b.members.map applyField).flatMap Statement.subterms) = b.names :=
    Statement.filterMap_subterms_map Member.fieldsOf_applyField _
  have hresult : fieldsOf fieldsVar b.deserializeResult.subterms = [] := by
    unfold deserializeResult
    dsimp only
    split <;> rfl
  rw [deserializeBody, Body.subterms, List.flatMap_append, fieldsOf_append, fieldsOf_append,
    hmembers, Outcome.subterms, hresult, List.append_nil]
  rfl

/-! ## Structures, enumerations and implementations -/

theorem map_builderFields (b : Blueprint) :
    b.builderFields.map (·.1) = b.names ++ b.unsetFields .partialType := by
  have hmembers : (b.members.map Member.builderField).map (·.1) = b.names := by
    simp [names, Member.builderField, Function.comp_def]
  rw [builderFields, List.map_append, hmembers, unsetFields, ifRequired_eq]
  split <;> rfl

theorem constantsOf_builderInitials (b : Blueprint) :
    constantsOf b.propertyEnum (b.builderInitials.flatMap (·.2.subterms)) =
      b.required.map fun m => variantName m.label := by
  have hmembers : constantsOf b.propertyEnum
      ((b.members.map fun m => (m.name, m.initial)).flatMap (·.2.subterms)) = [] := by
    rw [List.flatMap_map, constantsOf, List.filterMap_flatMap, List.flatMap_eq_nil_iff]
    exact fun m _ => Member.constantsOf_initial m
  have hvariants : constantsOf b.propertyEnum b.allUnset.subterms =
      b.required.map fun m => variantName m.label := by
    have hrequired : ∀ members : List Member,
        constantsOf b.propertyEnum (Term.subtermsOfAll (members.map b.variant)) =
          members.map fun m => variantName m.label := by
      intro members
      induction members with
      | nil => rfl
      | cons m members ih =>
        simp [variant, Property.variant, Term.constantOf?, Member.label, ih]
    simp [allUnset, Term.apply, Term.constantOf?, hrequired]
  rw [builderInitials, List.flatMap_append, constantsOf_append, hmembers, List.nil_append]
  split
  · simpa using hvariants
  · next h =>
    have hnone : b.required = [] := not_not.mp fun hne => h (b.hasRequired_iff.mpr hne)
    rw [hnone]
    rfl

theorem fields_builderInitials (b : Blueprint) :
    b.builderInitials.map (·.1) = b.names ++ b.unsetFields .partialType := by
  have hmembers : (b.members.map fun m => (m.name, m.initial)).map (·.1) = b.names := by
    simp [names, Function.comp_def]
  rw [builderInitials, List.map_append, hmembers, unsetFields, ifRequired_eq]
  split <;> rfl

theorem fieldsOf_valueInitials (b : Blueprint) :
    b.valueInitials.map (fun r => (r.1, fieldsOf builderVar r.2.subterms)) =
      (b.names ++ b.unsetFields .value).map fun x => (x, [x]) := by
  simp [valueInitials, names, unsetFields, Function.comp_def]

theorem fieldsOf_partialInitials (b : Blueprint) :
    b.partialInitials.map (fun r => (r.1, fieldsOf builderVar r.2.subterms)) =
      (b.names ++ b.unsetFields .partialType).map fun x => (x, [x]) := by
  have hmembers : (b.members.map fun m => (m.name, m.partialValue builderVar)).map
      (fun r => (r.1, fieldsOf builderVar r.2.subterms)) = b.names.map fun x => (x, [x]) := by
    simp [names, Function.comp_def]
  rw [partialInitials, List.map_append, hmembers, List.map_append, unsetFields, ifRequired_eq]
  split <;> rfl

theorem outline_structures (b : Blueprint) : b.structures.map Structure.outline =
    b.ifRequired [(b.buildError, [errorField])] ++
      [(b.builder, b.names ++ b.unsetFields .partialType),
        (b.value, b.names ++ b.unsetFields .value),
        (b.partialType, b.names ++ b.unsetFields .partialType)] ++
      if b.serde then [(plain "Fields", b.names)] else [] := by
  have hvalue : b.valueFields.map (·.1) = b.names := by
    simp [valueFields, names, Member.valueField, Function.comp_def]
  have hbuilder := b.map_builderFields
  have hpartial : b.partialFields.map (·.1) = b.names ++ b.unsetFields .partialType := hbuilder
  have hshadow : b.shadowStructure.fields.map (·.1) = b.names := b.fields_of_shadowStructure
  rw [structures_eq, ifRequired_eq, unsetFields, List.append_nil]
  cases b.hasRequired <;> cases b.serde <;>
    simp [Structure.outline, errorStructure, builderStructure, valueStructure, partialStructure,
      hvalue, hbuilder, hpartial, hshadow] <;> rfl

theorem outline_enumerations (b : Blueprint) : b.enumerations.map Enumeration.outline =
    b.ifRequired [(b.propertyEnum, b.required.map fun m => variantName m.label)] := by
  rw [enumerations_eq]
  unfold ifRequired
  split
  · rfl
  · simp [Enumeration.outline, propertyEnumeration, name_of_propertyVariants, Property.variant,
      Member.label]

theorem outline_getters (b : Blueprint) (outcome : Member → Outcome)
    (h : ∀ m, fieldsOf selfVar (outcome m).subterms = [m.name]) :
    (b.members.map fun m => traitGetter m (outcome m)).map
        (fun f => (f.name, fieldsOf selfVar f.body.subterms)) = b.names.map fun x => (x, [x]) := by
  rw [names, List.map_map, List.map_map]
  refine List.map_congr_left fun m _ => ?_
  simp [traitGetter, Body.subterms, h]

theorem outline_implementing_typeName (b : Blueprint) :
    (b.implementing (.name b.typeName)).map (fun i =>
        (i.target, i.functions.map fun f => (f.name, fieldsOf selfVar f.body.subterms))) =
      [(.name b.value, b.names.map fun x => (x, [x])),
        (.name b.partialType, b.names.map fun x => (x, [x]))] := by
  have hvalue := b.outline_getters Member.readStored Member.fieldsOf_readStored
  have hpartial := b.outline_getters
    (fun m => if m.isRequired then m.readRequired else m.readStored) fun m => by split <;> simp
  simp only [implementing_typeName, List.map_cons, List.map_nil, Implementation.functions_derived]
  rw [valueGetters, partialGetters, hvalue, hpartial]
  rfl

theorem written_implementing_serializeTrait (b : Blueprint) :
    (b.implementing serializeTrait).map (fun i => (i.target,
        i.subterms.filterMap announcedLength?, i.subterms.filterMap writtenField?)) =
      if b.serde then
        [(.name b.value, [b.names.length], b.names.map fun x => (x.name, [x]))] else [] := by
  rw [implementing_serializeTrait]
  split
  · have hwritten := b.writtenFields_serializeBody
    have hannounced := b.announcedLength_serializeBody
    simp only [List.map_cons, List.map_nil, Implementation.subterms_derived]
    rw [serializeFunction, hwritten, hannounced]
    rfl
  · rfl

theorem read_implementing_deserializeTrait (b : Blueprint) :
    (b.implementing deserializeTrait).map (fun i => (i.target, fieldsOf fieldsVar i.subterms)) =
      if b.serde then [(.name b.value, b.names)] else [] := by
  have hfunctions := congrArg (List.map fun i : TypeExpr × List Function =>
    (i.1, fieldsOf fieldsVar (i.2.flatMap (·.body.subterms)))) b.functions_deserializeTrait
  rw [List.map_map] at hfunctions
  refine hfunctions.trans ?_
  split
  · simp [deserializeFunction, fieldsOf_deserializeBody]
  · rfl

/-! ## All together -/

/-- What is generated for all members, or for the required ones, names them in the order of
declaration. -/
structure KeepsOrder (b : Blueprint) : Prop where
  structures : b.structures.map Structure.outline =
    b.ifRequired [(b.buildError, [errorField])] ++
      [(b.builder, b.names ++ b.unsetFields .partialType),
        (b.value, b.names ++ b.unsetFields .value),
        (b.partialType, b.names ++ b.unsetFields .partialType)] ++
      if b.serde then [(plain "Fields", b.names)] else []
  variants : b.enumerations.map Enumeration.outline =
    b.ifRequired [(b.propertyEnum, b.required.map fun m => variantName m.label)]
  arms : b.arms = b.ifRequired [b.required.map fun m => (variantName m.label, m.label)]
  records : b.records = b.ifRequired [(.name b.buildError, errorInitials)] ++
    [(.name b.builder, b.builderInitials), (.name b.value, b.valueInitials),
      (.name b.partialType, b.partialInitials)]
  builder_record : b.builderInitials.map (·.1) = b.names ++ b.unsetFields .partialType
  /-- Initially all that is required is unset. -/
  unset : constantsOf b.propertyEnum (b.builderInitials.flatMap (·.2.subterms)) =
    b.required.map fun m => variantName m.label
  value_record : b.valueInitials.map (fun r => (r.1, fieldsOf builderVar r.2.subterms)) =
    (b.names ++ b.unsetFields .value).map fun x => (x, [x])
  partial_record : b.partialInitials.map (fun r => (r.1, fieldsOf builderVar r.2.subterms)) =
    (b.names ++ b.unsetFields .partialType).map fun x => (x, [x])
  getters : (b.implementing (.name b.typeName)).map (fun i =>
      (i.target, i.functions.map fun f => (f.name, fieldsOf selfVar f.body.subterms))) =
    [(.name b.value, b.names.map fun x => (x, [x])),
      (.name b.partialType, b.names.map fun x => (x, [x]))]
  equality : ∀ i ∈ b.implementations, i.trait? = some equalityTrait →
    ¬ i.Calls (.ofTrait b.typeName "eq") → ∃ t f tests, i.target = .name (t.name b) ∧
      i.functions = [f] ∧ f.body = ⟨[], .all tests⟩ ∧
      tests.map comparedFields = (b.names ++ b.unsetFields t).map fun x => ([x], [x])
  hashing : ∀ i ∈ b.implementations, i.trait? = some hashTrait →
    ¬ i.Calls (.ofTrait b.typeName "hash") → ∃ t f statements, i.target = .name (t.name b) ∧
      i.functions = [f] ∧ f.body = ⟨statements, .nothing⟩ ∧
      hashedFields statements = b.names ++ b.unsetFields t
  display : ∀ i ∈ b.implementations, i.trait? = some displayTrait →
    ¬ i.Calls (.ofTrait b.typeName "fmt") → fieldsOf selfVar i.subterms = b.names ∧
      labelsIn i.subterms = b.names.map (·.name ++ "=")
  written : (b.implementing serializeTrait).map (fun i => (i.target,
      i.subterms.filterMap announcedLength?, i.subterms.filterMap writtenField?)) =
    if b.serde then
      [(.name b.value, [b.names.length], b.names.map fun x => (x.name, [x]))] else []
  read : (b.implementing deserializeTrait).map (fun i =>
      (i.target, fieldsOf fieldsVar i.subterms)) =
    if b.serde then [(.name b.value, b.names)] else []

/-- Whatever is generated for a blueprint keeps the order in which its members were declared. -/
theorem keepsOrder (b : Blueprint) : b.KeepsOrder where
  structures := b.outline_structures
  variants := b.outline_enumerations
  arms := b.arms_eq
  records := b.records_eq
  builder_record := b.fields_builderInitials
  unset := b.constantsOf_builderInitials
  value_record := b.fieldsOf_valueInitials
  partial_record := b.fieldsOf_partialInitials
  getters := b.outline_implementing_typeName
  equality := by
    intro i hi htrait hcalls
    obtain ⟨t, f, htarget, hfunctions, hbody⟩ :=
      structural_of_not_calls (s := .equality) hi htrait hcalls
    exact ⟨t, f, _, htarget, hfunctions, hbody, b.comparedFields_equalityTests t⟩
  hashing := by
    intro i hi htrait hcalls
    obtain ⟨t, f, htarget, hfunctions, hbody⟩ :=
      structural_of_not_calls (s := .hashing) hi htrait hcalls
    exact ⟨t, f, _, htarget, hfunctions, hbody, b.hashedFields_hashStatements t⟩
  display := by
    intro i hi htrait hcalls
    obtain ⟨t, f, -, hfunctions, hbody⟩ :=
      structural_of_not_calls (s := .display) hi htrait hcalls
    have hsubterms : i.subterms = (b.displayBody t).subterms := by
      rw [Implementation.subterms, hfunctions, List.flatMap_singleton, hbody, structuralBody]
    rw [hsubterms]
    refine ⟨fieldsOf_displayBody t, (labelsIn_displayBody t).trans ?_⟩
    rw [names, List.map_map]
    rfl
  written := b.written_implementing_serializeTrait
  read := b.read_implementing_deserializeTrait

end Blueprint

end TraitBuilder
