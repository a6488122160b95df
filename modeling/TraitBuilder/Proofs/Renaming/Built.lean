import TraitBuilder.Proofs.Renaming.Builder

/-!
# The value and the partial under a renaming

In all that is generated for the two built types only the names of the three types change, but for
the documentation of the value, which names the builder in its text.  Texts are not renamed.

* `Blueprint.valueDoc`: the documentation that names the builder.
* `Blueprint.rename_valueDeclaration`, `Blueprint.rename_valueImplementations`: the value, but for
  its documentation.
* `Blueprint.rename_partialItems`: the partial.
-/

namespace TraitBuilder

open Code

theorem rename_traitImplementation {r : Renaming} (hr : KeepsWords r) {traitName target : Ident}
    {getters : List Function} (htrait : r traitName = traitName)
    (hgetters : ∀ f ∈ getters, Keeps r f.tokens) :
    Token.renameAll r (traitImplementation traitName target getters).tokens =
      (traitImplementation traitName (r target) getters).tokens :=
  rename_derivedImpl hr (by simp [htrait]) (keeps_flatMap.mpr hgetters)

theorem keeps_traitGetter {r : Renaming} {m : Member} (hr : KeepsWords r) (h : m.Kept r)
    {outcome : Outcome} (houtcome : Keeps r outcome.tokens) :
    Keeps r (traitGetter m outcome).tokens := by
  apply keeps_function hr (by simp [traitGetter]) h.name
  · simp [traitGetter, TypeParameter.tokens, TypeParameter.conditions]
  · simp [traitGetter]
  · simpa [traitGetter] using h.returnType
  · simpa [traitGetter, Body.tokens, Statement.tokensOfAll] using houtcome

namespace Blueprint

/-- The documentation of the value, which names the trait and the builder. -/
def valueDoc (b : Blueprint) : Tokens :=
  (Decoration.doc ("Immutable " ++ b.traitLink ++ " built by [`" ++ b.builder.spelling ++
    "`].")).tokens

/-- The structure of the value without its documentation. -/
def valueDeclaration (b : Blueprint) : Structure :=
  { b.valueStructure with decorations := [.derive [["core", "clone", "Clone"]] false] }

theorem tokens_valueStructure (b : Blueprint) :
    b.valueStructure.tokens = b.valueDoc ++ b.valueDeclaration.tokens := by
  simp [Structure.tokens, Decoration.tokensOfAll, valueStructure, valueDeclaration, valueDoc]

variable {r : Renaming} {b : Blueprint} (h : b.Kept r)

include h

/-! ## The value -/

theorem rename_valueDeclaration :
    Token.renameAll r b.valueDeclaration.tokens = (b.rename r).valueDeclaration.tokens := by
  have hr := h.words
  apply rename_structure hr ?_ h.visibility
  · simp only [valueDeclaration, valueStructure, valueFields, List.mem_map]
    rintro _ ⟨m, hm, rfl⟩
    exact ⟨(h.members m hm).name, (h.members m hm).storageType hr _⟩
  · simp [valueDeclaration, hr, hr.derive]

theorem keeps_valueInitials : Keeps r (Record.braced b.valueInitials) := by
  have hr := h.words
  have hbuilder : r builderVar = builderVar := by simp [builderVar, hr]
  apply keeps_record hr
  simp only [valueInitials, List.mem_map]
  rintro _ ⟨m, hm, rfl⟩
  exact ⟨(h.members m hm).name, (h.members m hm).finalValue hr hbuilder⟩

theorem keeps_bindUnset : Keeps r b.bindUnset.tokens := by
  have hr := h.words
  have hunset : r Member.unsetVar = Member.unsetVar := by simp [Member.unsetVar, hr]
  have hbuilder : r builderVar = builderVar := by simp [builderVar, hr]
  have hfield : r unsetField = unsetField := by simp [unsetField, hr]
  simp [bindUnset, Statement.tokens, Statement.semicolon, Term.tokens, Term.tokensOfAll,
    Callee.tokens, hr, hunset, hbuilder, hfield, h.buildError]

theorem rename_valueNew :
    Token.renameAll r b.valueNew.tokens = (b.rename r).valueNew.tokens := by
  have hr := h.words
  have hbuilder : r builderVar = builderVar := by simp [builderVar, hr]
  have hunused := keeps_markUnused hbuilder (by simp [builderVar, hr])
  have hinitials := keeps_valueInitials h
  have hresult : ∀ t ∈ b.valueNew.result, Keeps r t.tokens := by
    cases hreq : b.hasRequired <;>
      simp [valueNew, hreq, TypeExpr.self, TypeExpr.tokens, TypeExpr.tokensBefore, hr, h.buildError]
  have hbody : Keeps r b.valueNew.body.tokens := by
    cases hreq : b.hasRequired <;>
      simp [valueNew, hreq, Body.tokens, Statement.tokensOfAll, Outcome.tokens, hinitials,
        keeps_bindUnset h, hr.library]
  apply rename_function hr (by simp [valueNew]) (by simp [valueNew, hr]) ?_ ?_
    (rename_result hresult) hbody
  · simp [valueNew, TypeParameter.tokens, TypeParameter.conditions]
  · simp [valueNew, Function.parameterTokens, commaJoined, Receiver.tokens, TypeExpr.ref,
      TypeExpr.tokens, TypeExpr.tokensBefore, builderType, rename, hunused]

theorem rename_valueBuilder :
    Token.renameAll r b.valueBuilder.tokens = (b.rename r).valueBuilder.tokens := by
  have hr := h.words
  apply rename_function hr (by simp [valueBuilder, hr.line])
  · simp [valueBuilder, hr]
  · simp [valueBuilder, TypeParameter.tokens, TypeParameter.conditions]
  · exact keeps_parameterTokens hr (by simp [valueBuilder])
  · simp [valueBuilder, builderType, rename]
  · simpa [valueBuilder, Body.term, Body.tokens, Statement.tokensOfAll, Outcome.tokens] using
      rename_newBuilder h

theorem rename_valueToBuilder :
    Token.renameAll r b.valueToBuilder.tokens = (b.rename r).valueToBuilder.tokens := by
  have hr := h.words
  have hself := Member.keeps_self hr
  have hbuilder : r builderVar = builderVar := by simp [builderVar, hr]
  have hclear : Keeps r
      (Statement.tokensOfAll (b.members.flatMap (·.partialClear (.var builderVar)))) := by
    rw [Statement.tokensOfAll_flatMap, keeps_flatMap]
    intro m hm
    exact (h.members m hm).partialClear hr (by simp [Term.tokens, hbuilder])
  have hmerge : r (plain "merge_from") = plain "merge_from" := by simp [hr]
  have hlet : (Token.word "let").rename r = Token.word "let" := by simp [hr]
  have hmut : (Token.word "mut").rename r = Token.word "mut" := by simp [hr]
  apply rename_function hr (by simp [valueToBuilder, hr.line])
  · simp [valueToBuilder, hr]
  · simp [valueToBuilder, TypeParameter.tokens, TypeParameter.conditions]
  · exact keeps_parameterTokens hr (by simp [valueToBuilder])
  · simp [valueToBuilder, builderType, rename]
  · simp [valueToBuilder, Body.tokens, Statement.tokensOfAll_append, Statement.tokensOfAll,
      Statement.tokens, Statement.semicolon, Outcome.tokens, Term.tokens, Term.tokensOfAll,
      hclear.eq, hself.eq, hbuilder, hmerge, hlet, hmut, rename_newBuilder h]

theorem rename_valueFunctions :
    Token.renameAll r (b.valueFunctions.flatMap Function.tokens) =
      (b.rename r).valueFunctions.flatMap Function.tokens := by
  unfold valueFunctions
  rw [builderFactory_rename]
  split
  · exact Token.renameAll_flatMap₂ (.cons (rename_valueNew h) (.cons (rename_valueBuilder h)
      (.cons (rename_valueToBuilder h) .nil)))
  · exact Token.renameAll_flatMap₂ (.cons (rename_valueNew h) .nil)

/-- What is generated for the value after its structure. -/
def valueImplementations (b : Blueprint) : List Item := [
  .implementation {
    trait? := none
    target := .name b.value
    items := b.valueFunctions.map .function },
  traitImplementation b.typeName b.value b.valueGetters]

theorem rename_valueImplementations :
    Token.renameAll r (b.valueImplementations.flatMap Item.tokens) =
      (b.rename r).valueImplementations.flatMap Item.tokens := by
  have hr := h.words
  refine Token.renameAll_flatMap₂ (.cons ?_ (.cons ?_ .nil))
  · apply rename_ownImpl hr
    rw [flatMap_function, flatMap_function]
    exact rename_valueFunctions h
  · apply rename_traitImplementation hr h.typeName
    simp only [valueGetters, List.mem_map]
    rintro _ ⟨m, hm, rfl⟩
    exact keeps_traitGetter hr (h.members m hm) ((h.members m hm).readStored hr)

/-! ## The partial -/

theorem rename_partialStructure :
    Token.renameAll r b.partialStructure.tokens = (b.rename r).partialStructure.tokens := by
  have hr := h.words
  apply rename_structure hr ?_ h.visibility (keeps_builderFields h)
  simp [partialStructure, hr, hr.doc, hr.derive]

theorem keeps_partialInitials : Keeps r (Record.braced b.partialInitials) := by
  have hr := h.words
  have hbuilder : r builderVar = builderVar := by simp [builderVar, hr]
  have hunset : r unsetField = unsetField := by simp [unsetField, hr]
  apply keeps_record hr
  simp only [partialInitials, List.mem_append, List.mem_map]
  rintro field (⟨m, hm, rfl⟩ | hfield)
  · exact ⟨(h.members m hm).name, (h.members m hm).copied hr hbuilder⟩
  · cases hreq : b.hasRequired with
    | false => simp [hreq] at hfield
    | true =>
      obtain rfl := by simpa [hreq] using hfield
      refine ⟨hunset, ?_⟩
      simp [Term.clone, Term.apply, Term.tokens, Term.tokensOfAll, Callee.tokens, hr.library,
        hbuilder, hunset]

theorem rename_partialNew :
    Token.renameAll r b.partialNew.tokens = (b.rename r).partialNew.tokens := by
  have hr := h.words
  have hbuilder : r builderVar = builderVar := by simp [builderVar, hr]
  have hunused := keeps_markUnused hbuilder (by simp [builderVar, hr])
  have hinitials := keeps_partialInitials h
  have hresult : ∀ t ∈ b.partialNew.result, Keeps r t.tokens := by
    simp [partialNew, TypeExpr.self, hr]
  have hbody : Keeps r b.partialNew.body.tokens := by
    simpa [partialNew, Body.tokens, Statement.tokensOfAll, Outcome.tokens] using hinitials
  apply rename_function hr (by simp [partialNew]) (by simp [partialNew, hr]) ?_ ?_
    (rename_result hresult) hbody
  · simp [partialNew, TypeParameter.tokens, TypeParameter.conditions]
  · simp [partialNew, Function.parameterTokens, commaJoined, Receiver.tokens, TypeExpr.ref,
      TypeExpr.tokens, TypeExpr.tokensBefore, builderType, rename, hunused]
    rfl

theorem rename_partialItems :
    Token.renameAll r (b.partialItems.flatMap Item.tokens) =
      (b.rename r).partialItems.flatMap Item.tokens := by
  have hr := h.words
  refine Token.renameAll_flatMap₂ (.cons ?_ (.cons ?_ (.cons ?_ .nil)))
  · exact rename_partialStructure h
  · apply rename_ownImpl hr
    exact Token.renameAll_flatMap₂ (.cons (rename_partialNew h) .nil)
  · apply rename_traitImplementation hr h.typeName
    simp only [partialGetters, List.mem_map]
    rintro _ ⟨m, hm, rfl⟩
    apply keeps_traitGetter hr (h.members m hm)
    split
    · exact (h.members m hm).readRequired hr
    · exact (h.members m hm).readStored hr

end Blueprint

end TraitBuilder
