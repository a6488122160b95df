import TraitBuilder.Proofs.Renaming.Accessors

/-!
# The builder under a renaming

In all that is generated for the builder only the names of the three types change.

* `Blueprint.rename_builderFunctions`: the functions of the builder.
* `Blueprint.rename_builderItems`: everything about the builder.
-/

namespace TraitBuilder

open Code

namespace Blueprint

variable {r : Renaming} {b : Blueprint} (h : b.Kept r)

include h

/-! ## The structure -/

theorem keeps_builderFields : ∀ field ∈ b.builderFields, r field.1 = field.1 ∧
    Keeps r field.2.tokens := by
  have hr := h.words
  simp only [builderFields, List.mem_append, List.mem_map]
  rintro field (⟨m, hm, rfl⟩ | hunset)
  · exact ⟨(h.members m hm).name, (h.members m hm).storageType hr _⟩
  · obtain ⟨-, rfl⟩ : b.hasRequired = true ∧ field = (unsetField, b.unsetType) := by
      cases hreq : b.hasRequired <;> simp_all
    exact ⟨by simp [unsetField, hr], keeps_unsetType h⟩

theorem rename_builderStructure :
    Token.renameAll r b.builderStructure.tokens = (b.rename r).builderStructure.tokens := by
  have hr := h.words
  apply rename_structure hr ?_ h.visibility (keeps_builderFields h)
  simp [builderStructure, hr, hr.doc, hr.derive]

/-! ## Creating and building -/

theorem keeps_allUnset : Keeps r b.allUnset.tokens := by
  have hr := h.words
  have hvariants : Keeps r (Term.tokensOfAll (b.required.map b.variant)) := by
    apply keeps_terms _
    simp only [List.mem_map]
    rintro _ ⟨m, hm, rfl⟩
    simp [variant, Term.tokens, h.propertyEnum, keeps_variant h hm]
  simp [allUnset, Term.apply, Term.tokens, Term.tokensOfAll, Callee.tokens, hr.library, hvariants]

theorem keeps_builderInitials : Keeps r (Record.braced b.builderInitials) := by
  have hr := h.words
  apply keeps_record hr
  simp only [builderInitials, List.mem_append, List.mem_map]
  rintro field (⟨m, hm, rfl⟩ | hunset)
  · exact ⟨(h.members m hm).name, (h.members m hm).initialValue hr⟩
  · obtain ⟨-, rfl⟩ : b.hasRequired = true ∧ field = (unsetField, b.allUnset) := by
      cases hreq : b.hasRequired <;> simp_all
    exact ⟨by simp [unsetField, hr], keeps_allUnset h⟩

theorem keeps_builderNew : Keeps r b.builderNew.tokens := by
  have hr := h.words
  have hinitials := keeps_builderInitials h
  apply keeps_function hr
  · cases hfactory : b.builderFactory with
    | true => simp [builderNew, hfactory, hr.line]
    | false => simp [builderNew, hfactory, hr, hr.allow]
  · simp [builderNew, hr]
  · simp [builderNew, TypeParameter.tokens, TypeParameter.conditions]
  · simp [builderNew]
  · simp [builderNew, TypeExpr.self, hr]
  · simp [builderNew, Body.tokens, Statement.tokensOfAll, Outcome.tokens, hinitials]

theorem keeps_joinerItems : ∀ i ∈ b.joinerItems, Keeps r i.tokens := by
  have hr := h.words
  unfold joinerItems
  split
  · simp [AssociatedItem.tokens, commaJoiner, hr]
  · simp

omit h in
theorem rename_builtFrom (hr : KeepsWords r) (owner : Ident) :
    Token.renameAll r (Body.term (builtFrom owner)).tokens =
      (Body.term (builtFrom (r owner))).tokens := by
  have hself := (Member.keeps_self hr).eq
  have hnew : r (plain "new") = plain "new" := by simp [hr]
  simp [builtFrom, Body.term, Body.tokens, Statement.tokensOfAll, Outcome.tokens, Term.tokens,
    Term.tokensOfAll, Callee.tokens, hself, hnew]

/-- The test whether a required property is unset, which returns the error if so. -/
theorem keeps_unsetTest : Keeps r (Statement.tokensOfAll
    [.when (.not (.method Member.ownUnset (plain "is_empty") [])) [
      .leave (.apply .err [.call (.associated b.buildError (plain "new"))
        [.ownFieldRef unsetField] false])]]) := by
  have hr := h.words
  have hunset := Member.keeps_ownUnset hr
  have hfield : Keeps r (Term.ownFieldRef unsetField).tokens := by
    simpa [Term.ownFieldRef, Member.ownUnset, Term.tokens] using hunset
  simp [Statement.tokensOfAll, Statement.tokens, Statement.semicolon, Term.apply, Term.tokens,
    Term.tokensOfAll, Callee.tokens, hr, hr.library, hunset, hfield, h.buildError]

theorem rename_buildFunction :
    Token.renameAll r b.buildFunction.tokens = (b.rename r).buildFunction.tokens := by
  have hr := h.words
  have hbuilt := rename_builtFrom hr b.value
  unfold buildFunction
  rw [hasRequired_rename]
  split
  · apply rename_function hr
    · simp [hr.doc, hr.line]
    · simp [hr]
    · simp [TypeParameter.tokens, TypeParameter.conditions]
    · exact keeps_parameterTokens hr (by simp)
    · have hpath : Keeps r (pathTokens ["core", "result", "Result"]) := by simp [hr]
      simp [TypeExpr.tokens, TypeExpr.tokensBefore, rename, hpath.eq, h.buildError]
    · simp only [Body.term, Body.tokens, Statement.tokensOfAll, List.nil_append] at hbuilt
      rw [Body.tokens, Token.renameAll_append, (keeps_unsetTest h).eq, hbuilt]
      rfl
  · apply rename_function hr
    · simp [hr.doc, hr.mustUse]
    · simp [hr]
    · simp [TypeParameter.tokens, TypeParameter.conditions]
    · exact keeps_parameterTokens hr (by simp)
    · simp [rename]
    · exact hbuilt

theorem rename_buildPartialFunction :
    Token.renameAll r b.buildPartialFunction.tokens =
      (b.rename r).buildPartialFunction.tokens := by
  have hr := h.words
  apply rename_function hr
  · simp [buildPartialFunction, hr.doc, hr.line, hr.mustUse]
  · simp [buildPartialFunction, hr]
  · simp [buildPartialFunction, TypeParameter.tokens, TypeParameter.conditions]
  · exact keeps_parameterTokens hr (by simp [buildPartialFunction])
  · simp [buildPartialFunction, rename]
  · exact rename_builtFrom hr b.partialType

/-! ## Merging -/

theorem rename_mergeFromFunction :
    Token.renameAll r b.mergeFromFunction.tokens = (b.rename r).mergeFromFunction.tokens := by
  have hr := h.words
  have hvalue : r (plain "value") = plain "value" := by simp [hr]
  have hunused := keeps_markUnused hvalue (by simp [hr])
  have hstatements : Keeps r (Statement.tokensOfAll
      (b.members.map (·.mergeFromValue b.typeName (plain "value")))) := by
    rw [Statement.tokensOfAll_map, keeps_flatMap]
    intro m hm
    exact (h.members m hm).mergeFromValue hr h.typeName hvalue
  apply Member.rename_changer hr ?_ (by simp [hr]) ?_ hstatements
    (Member.keeps_self hr)
  · simp [hr.line]
  · apply keeps_parameterTokens hr
    simp [Member.changer, TypeExpr.ref, TypeExpr.tokens, TypeExpr.tokensBefore, hr, h.typeName,
      hunused]

theorem keeps_mergeMember {m : Member} (hm : m ∈ b.members) : Keeps r (b.mergeMember m).tokens := by
  have hr := h.words
  have htemplate : r templateVar = templateVar := by simp [templateVar, hr]
  have hunset : r unsetField = unsetField := by simp [unsetField, hr]
  have hmerge := (h.members m hm).mergeFromBuilder hr htemplate
  unfold mergeMember
  split
  · rename_i hrequired
    have hvariant := (h.members m hm).variant hrequired
    simp [Statement.tokens, Statement.tokensOfAll, templateUnset, variant, Term.tokens,
      Term.tokensOfAll, hr, htemplate, hunset, hvariant, h.propertyEnum, hmerge]
  · exact hmerge

theorem rename_mergeFromBuilderFunction :
    Token.renameAll r b.mergeFromBuilderFunction.tokens =
      (b.rename r).mergeFromBuilderFunction.tokens := by
  have hr := h.words
  have htemplate : r templateVar = templateVar := by simp [templateVar, hr]
  have hunused := keeps_markUnused htemplate (by simp [templateVar, hr])
  have hstatements : Keeps r (Statement.tokensOfAll (b.members.map b.mergeMember)) := by
    rw [Statement.tokensOfAll_map, keeps_flatMap]
    intro m hm
    exact keeps_mergeMember h hm
  apply Member.rename_changer hr ?_ (by simp [hr]) ?_ hstatements
    (Member.keeps_self hr)
  · simp [hr.line]
  · simp [Member.changer, Function.parameterTokens, commaJoined, Receiver.tokens, TypeExpr.ref,
      TypeExpr.tokens, TypeExpr.tokensBefore, builderType, rename, hr, hunused]

/-! ## Clearing -/

theorem rename_newBuilder :
    Token.renameAll r b.newBuilder.tokens = (b.rename r).newBuilder.tokens := by
  have hnew : r (plain "new") = plain "new" := by simp [h.words]
  simp [newBuilder, rename, Term.tokens, Term.tokensOfAll, Callee.tokens, hnew]

theorem rename_clearStatements :
    Token.renameAll r (Statement.tokensOfAll b.clearStatements) =
      Statement.tokensOfAll (b.rename r).clearStatements := by
  have hr := h.words
  have htemplate : r templateVar = templateVar := by simp [templateVar, hr]
  have hunset : r unsetField = unsetField := by simp [unsetField, hr]
  have hown := Member.keeps_ownUnset hr
  have hfresh : Token.renameAll r (Statement.tokensOfAll
        (if b.needsTemplate then [.bind false templateVar b.newBuilder] else [])) =
      Statement.tokensOfAll
        (if b.needsTemplate then [.bind false templateVar (b.rename r).newBuilder] else []) := by
    have hlet : (Token.word "let").rename r = Token.word "let" := by simp [hr]
    split <;> simp [Statement.tokensOfAll, Statement.tokens, Statement.semicolon, hlet, htemplate,
      rename_newBuilder h]
  have hmembers : Keeps r (Statement.tokensOfAll (b.members.flatMap fun m =>
      m.clear (if m.needsTemplate then some templateVar else none))) := by
    rw [Statement.tokensOfAll_flatMap, keeps_flatMap]
    intro m hm
    apply (h.members m hm).clear hr
    split <;> simp [htemplate]
  have htracked : Keeps r (Statement.tokensOfAll
      (if b.hasRequired then [.assign Member.ownUnset templateUnset] else [])) := by
    split <;> simp [Statement.tokensOfAll, Statement.tokens, Statement.semicolon, templateUnset,
      Term.tokens, hown, htemplate, hunset]
  unfold clearStatements
  simp only [Statement.tokensOfAll_append, Token.renameAll_append, hfresh, hmembers.eq, htracked.eq]
  rfl

theorem rename_clearFunction :
    Token.renameAll r b.clearFunction.tokens = (b.rename r).clearFunction.tokens := by
  have hr := h.words
  have hself := Member.keeps_self hr
  unfold clearFunction
  rw [builderFactory_rename]
  split
  · apply Member.rename_changer hr (by simp [hr.line]) (by simp [hr]) ?_
      (rename_clearStatements h) hself
    exact keeps_parameterTokens hr (by simp [Member.changer])
  · apply Member.rename_changer hr (by simp [hr.line]) (by simp [hr]) ?_ ?_ hself
    · exact keeps_parameterTokens hr (by simp [Member.changer])
    · rw [members_rename, Statement.tokensOfAll_flatMap, ← Keeps, keeps_flatMap]
      intro m hm
      exact (h.members m hm).partialClear hr hself

/-! ## All together -/

theorem rename_builderFunctions :
    Token.renameAll r (b.builderFunctions.flatMap Function.tokens) =
      (b.rename r).builderFunctions.flatMap Function.tokens := by
  have haccessors : Token.renameAll r (b.accessorFunctions.flatMap Function.tokens) =
      (b.rename r).accessorFunctions.flatMap Function.tokens := by
    simp only [accessorFunctions, List.flatMap_assoc, members_rename]
    apply Token.renameAll_flatMap
    intro m hm
    exact Member.rename_accessors h.words (h.members m hm) h
  simp only [builderFunctions, List.flatMap_append, List.flatMap_cons, List.flatMap_nil,
    Token.renameAll_append, Token.renameAll_nil, haccessors, (keeps_builderNew h).eq,
    rename_buildFunction h, rename_mergeFromFunction h, rename_mergeFromBuilderFunction h,
    rename_clearFunction h, rename_buildPartialFunction h]
  rfl

theorem rename_builderItems :
    Token.renameAll r (b.builderItems.flatMap Item.tokens) =
      (b.rename r).builderItems.flatMap Item.tokens := by
  have hr := h.words
  have himplementation : Token.renameAll r (Item.implementation b.builderImplementation).tokens =
      (Item.implementation (b.rename r).builderImplementation).tokens := by
    apply rename_ownImpl hr
    have hjoiner : Keeps r (b.joinerItems.flatMap AssociatedItem.tokens) :=
      keeps_flatMap.mpr (keeps_joinerItems h)
    simp only [List.flatMap_append, flatMap_function, Token.renameAll_append, hjoiner.eq,
      rename_builderFunctions h]
    rfl
  have hdefault : Token.renameAll r (b.builderDefault.flatMap Item.tokens) =
      (b.rename r).builderDefault.flatMap Item.tokens := by
    unfold builderDefault
    rw [builderFactory_rename]
    split
    · refine Token.renameAll_flatMap₂ (.cons ?_ .nil)
      apply rename_libraryImpl hr (by simp [hr])
      apply keeps_function hr (by simp) (by simp [hr])
      · simp [TypeParameter.tokens, TypeParameter.conditions]
      · simp
      · simp [TypeExpr.self, hr]
      · simp [Body.term, Body.tokens, Statement.tokensOfAll, Outcome.tokens, Term.tokens,
          Term.tokensOfAll, Callee.tokens, hr]
    · simp
  have hstructure : Token.renameAll r (Item.structure_ b.builderStructure).tokens =
      (Item.structure_ (b.rename r).builderStructure).tokens := rename_builderStructure h
  simp only [builderItems, List.flatMap_append, List.flatMap_cons, List.flatMap_nil,
    Token.renameAll_append, Token.renameAll_nil, hstructure, hdefault, himplementation]

end Blueprint

end TraitBuilder
