import TraitBuilder.Proofs.Renaming.Standards

/-!
# All generated code under a renaming

Serialization mentions the value and the builder; the structure that serialized data is read into
keeps its name.  Put together, renaming all generated code gives the code for the blueprint with the
types renamed, but for the documentation of the value.

* `Blueprint.tokens_eq`: where in all generated code the documentation of the value stands.
* `Blueprint.rename_beforeValueDoc`, `Blueprint.rename_afterValueDoc`: what stands before it and
  after it.
-/

namespace TraitBuilder

open Code

namespace Blueprint

variable {r : Renaming} {b : Blueprint} (h : b.Kept r)

include h

/-! ## Serialization -/

theorem keeps_serializeBody : Keeps r b.serializeBody.tokens := by
  have hr := h.words
  have hbind : Keeps r (Statement.tokensOfAll
      [.bind (!b.members.isEmpty) writtenVar (.orReturn (.apply .serializeStruct
        [.var serializerVar, .text b.typeName.spelling, .size b.members.length]))]) := by
    cases b.members.isEmpty <;> simp [writtenVar, serializerVar, Statement.tokensOfAll,
      Statement.tokens, Statement.semicolon, Term.apply, Term.tokens, Term.tokensOfAll,
      Callee.tokens, numeral, hr, hr.library]
  have hmembers : Keeps r (Statement.tokensOfAll (b.members.map serializeMember)) := by
    rw [Statement.tokensOfAll_map, keeps_flatMap]
    intro m hm
    have hfield := (h.members m hm).ownFieldRef hr
    simp [serializeMember, writtenVar, Statement.tokens, Statement.semicolon, Term.apply,
      Term.tokens, Term.tokensOfAll, Callee.tokens, hr, hr.library, hfield]
  simp only [serializeBody, Body.tokens, Statement.tokensOfAll_append, keeps_append]
  refine ⟨⟨hbind, hmembers⟩, ?_⟩
  simp [Outcome.tokens, Term.apply, Term.tokens, Term.tokensOfAll, Callee.tokens, writtenVar, hr,
    hr.library]

theorem rename_serializeItem :
    Token.renameAll r b.serializeItem.tokens = (b.rename r).serializeItem.tokens := by
  have hr := h.words
  apply rename_libraryImpl hr (by simp [hr])
  apply keeps_function hr (by simp [serializeFunction])
  · simp [serializeFunction, hr]
  · simp [serializeFunction, TypeParameter.tokens, TypeParameter.conditions, TypeExpr.tokens,
      TypeExpr.tokensBefore, hr]
  · simp [serializeFunction, serializerVar, hr]
  · simp [serializeFunction, TypeExpr.tokens, TypeExpr.tokensBefore, hr]
  · exact keeps_serializeBody h

theorem keeps_shadowStructure : Keeps r b.shadowStructure.tokens := by
  have hr := h.words
  have hs := rename_structure hr (s := b.shadowStructure) ?_ keeps_nil ?_
  · have hname : r b.shadowStructure.name = b.shadowStructure.name := by simp [shadowStructure, hr]
    rwa [hname] at hs
  · simp [shadowStructure, hr, hr.derive, hr.fillMissing]
  · simp only [shadowStructure, List.mem_map]
    rintro _ ⟨m, hm, rfl⟩
    exact ⟨(h.members m hm).name, (h.members m hm).serializedType hr⟩

omit h in
theorem keeps_applyField {m : Member} (hm : m.Kept r) (hr : KeepsWords r) :
    Keeps r (applyField m).tokens := by
  have hbuilder : r builderVar = builderVar := by simp [builderVar, hr]
  have hfields : r fieldsVar = fieldsVar := by simp [fieldsVar, hr]
  exact hm.setFromResult hr hbuilder (by simp [Term.tokens, hfields, hm.name])

theorem rename_deserializeBody :
    Token.renameAll r b.deserializeBody.tokens = (b.rename r).deserializeBody.tokens := by
  have hr := h.words
  have hbuilder : r builderVar = builderVar := by simp [builderVar, hr]
  have hfieldsVar : r fieldsVar = fieldsVar := by simp [fieldsVar, hr]
  have hunused := keeps_markUnused hfieldsVar (by simp [fieldsVar, hr])
  have hread : Keeps r (Statement.bind false (markUnused fieldsVar b.members.isEmpty)
      (.orReturn (.call .readFields [.var deserializerVar] false))).tokens := by
    simp [deserializerVar, Statement.tokens, Statement.semicolon, Term.tokens, Term.tokensOfAll,
      Callee.tokens, TypeExpr.tokensBefore, lifetime, hr, hunused]
  have hbind : Token.renameAll r
        (Statement.bind (!b.members.isEmpty) builderVar b.newBuilder).tokens =
      (Statement.bind (!b.members.isEmpty) builderVar (b.rename r).newBuilder).tokens := by
    cases b.members.isEmpty <;> simp [Statement.tokens, Statement.semicolon, hr, hbuilder,
      rename_newBuilder h]
  have hfields : Keeps r (Statement.tokensOfAll (b.members.map applyField)) := by
    rw [Statement.tokensOfAll_map, keeps_flatMap]
    intro m hm
    exact keeps_applyField (h.members m hm) hr
  have hresult : Keeps r b.deserializeResult.tokens := by
    unfold deserializeResult
    simp only
    split <;> simp [Term.apply, Term.tokens, Term.tokensOfAll, Callee.tokens, hr, hr.library,
      hbuilder]
  simp only [deserializeBody, Body.tokens, Outcome.tokens, Statement.tokensOfAll,
    Statement.tokensOfAll_append, Token.renameAll_append, Token.renameAll_nil, hread.eq, hbind,
    hfields.eq, hresult.eq, members_rename]
  rfl

theorem rename_deserializeFunction :
    Token.renameAll r b.deserializeFunction.tokens = (b.rename r).deserializeFunction.tokens := by
  have hr := h.words
  have hresult : ∀ t ∈ b.deserializeFunction.result, Keeps r t.tokens := by
    simp [deserializeFunction, TypeExpr.self, TypeExpr.tokens, TypeExpr.tokensBefore, hr]
  apply rename_function hr (by simp [deserializeFunction]) ?_ ?_ ?_ (rename_result hresult)
    (rename_deserializeBody h)
  · simp [deserializeFunction, hr]
  · simp [deserializeFunction, TypeParameter.tokens, TypeParameter.conditions, TypeExpr.tokens,
      TypeExpr.tokensBefore, lifetime, hr]
  · exact keeps_parameterTokens hr (by simp [deserializeFunction, deserializerVar, hr])

theorem rename_deserializeItem :
    Token.renameAll r b.deserializeItem.tokens = (b.rename r).deserializeItem.tokens := by
  have hr := h.words
  have hderived := hr.automaticallyDerived
  have hshadow := keeps_shadowStructure h
  have hfunction := rename_deserializeFunction h
  have hpath : Keeps r (pathTokens ["serde", "Deserialize"]) := by simp [hr]
  simp [deserializeItem, Item.tokens, Implementation.tokens, Decoration.tokensOfAll,
    AssociatedItem.tokens, hderived.eq, hshadow.eq,
    hfunction, hr, TypeExpr.tokens, TypeExpr.tokensBefore, lifetime, hpath.eq]
  rfl

theorem rename_serializationItems :
    Token.renameAll r (b.serializationItems.flatMap Item.tokens) =
      (b.rename r).serializationItems.flatMap Item.tokens := by
  unfold serializationItems
  rw [serde_rename]
  split
  · exact Token.renameAll_flatMap₂
      (.cons (rename_serializeItem h) (.cons (rename_deserializeItem h) .nil))
  · exact keeps_nil

/-! ## All together -/

/-- All generated code before the documentation of the value. -/
def beforeValueDoc (b : Blueprint) : Tokens :=
  (b.trackingItems ++ b.builderItems).flatMap Item.tokens

/-- All generated code after the documentation of the value. -/
def afterValueDoc (b : Blueprint) : Tokens :=
  b.valueDeclaration.tokens ++
    (b.valueImplementations ++ b.partialItems ++ b.standardItems .value ++
      b.standardItems .partialType ++ b.serializationItems).flatMap Item.tokens

omit h in
theorem tokens_eq (b : Blueprint) :
    b.tokens = b.beforeValueDoc ++ b.valueDoc ++ b.afterValueDoc := by
  have hstructure : (Item.structure_ b.valueStructure).tokens =
      b.valueDoc ++ b.valueDeclaration.tokens := b.tokens_valueStructure
  simp [tokens, items, beforeValueDoc, afterValueDoc, valueItems, valueImplementations, hstructure]

theorem rename_beforeValueDoc :
    Token.renameAll r b.beforeValueDoc = (b.rename r).beforeValueDoc := by
  simp only [beforeValueDoc, List.flatMap_append, Token.renameAll_append,
    (keeps_trackingItems h).eq, rename_builderItems h]
  rfl

theorem rename_afterValueDoc :
    Token.renameAll r b.afterValueDoc = (b.rename r).afterValueDoc := by
  simp only [afterValueDoc, List.flatMap_append, Token.renameAll_append,
    rename_valueDeclaration h, rename_valueImplementations h, rename_partialItems h,
    rename_standardItems h, rename_serializationItems h]

end Blueprint

end TraitBuilder
