import TraitBuilder.Proofs.Renaming.Items

/-!
# Blueprints under a renaming

A user may name the builder, the value and the partial.  A renaming of these three keeps a blueprint
if it keeps the words of generated code and everything else that the blueprint has from the trait.
The enumeration of the required properties and the error then do not change at all.

* `Blueprint.Kept`: what a renaming must keep of a blueprint.
* `Blueprint.keeps_trackingItems`: the enumeration and the error are kept.
-/

namespace TraitBuilder

open Code

namespace Blueprint

/-- The blueprint with the generated types renamed that a user may name. -/
def rename (b : Blueprint) (r : Renaming) : Blueprint :=
  { b with builder := r b.builder, value := r b.value, partialType := r b.partialType }

@[simp] theorem members_rename (b : Blueprint) (r : Renaming) :
    (b.rename r).members = b.members := rfl

@[simp] theorem hasRequired_rename (b : Blueprint) (r : Renaming) :
    (b.rename r).hasRequired = b.hasRequired := rfl

@[simp] theorem builderFactory_rename (b : Blueprint) (r : Renaming) :
    (b.rename r).builderFactory = b.builderFactory := rfl

@[simp] theorem debugSupertrait_rename (b : Blueprint) (r : Renaming) :
    (b.rename r).debugSupertrait = b.debugSupertrait := rfl

@[simp] theorem serde_rename (b : Blueprint) (r : Renaming) :
    (b.rename r).serde = b.serde := rfl

@[simp] theorem standards_rename (b : Blueprint) (r : Renaming) :
    (b.rename r).standards = b.standards := rfl

/-- The renaming keeps everything in generated code but the names of the three types. -/
structure Kept (r : Renaming) (b : Blueprint) : Prop where
  words : KeepsWords r
  typeName : r b.typeName = b.typeName
  visibility : Keeps r b.visibility
  propertyEnum : r b.propertyEnum = b.propertyEnum
  buildError : r b.buildError = b.buildError
  members : ∀ m ∈ b.members, m.Kept r

end Blueprint

/-! ## Tracking -/

namespace Blueprint

variable {r : Renaming} {b : Blueprint} (h : b.Kept r)

include h

theorem keeps_variant {m : Member} (hm : m ∈ b.required) :
    r m.property.variant = m.property.variant := by
  obtain ⟨hmem, hrequired⟩ := List.mem_filter.mp hm
  exact (h.members m hmem).variant hrequired

theorem keeps_unsetType : Keeps r b.unsetType.tokens := by
  have hr := h.words
  simp [unsetType, TypeExpr.set, TypeExpr.tokens, TypeExpr.tokensBefore, hr, h.propertyEnum]

theorem keeps_propertyLabel : Keeps r b.propertyLabel.tokens := by
  have hr := h.words
  have harms : ∀ m ∈ b.required, r m.property.variant = m.property.variant :=
    fun m => keeps_variant h
  apply keeps_function hr
  · simp [propertyLabel, hr.line]
  · simp [propertyLabel, labelFunction, hr]
  · simp [propertyLabel, TypeParameter.tokens, TypeParameter.conditions]
  · simp [propertyLabel]
  · simp [propertyLabel, TypeExpr.tokens, TypeExpr.tokensBefore, lifetime, hr]
  · simpa [propertyLabel, Body.tokens, Statement.tokensOfAll, Outcome.tokens, Outcome.arrow,
      List.flatMap_map, hr] using harms

theorem keeps_propertyItems : Keeps r (b.propertyItems.flatMap Item.tokens) := by
  have hr := h.words
  have henumeration : Keeps r (Item.enumeration b.propertyEnumeration).tokens := by
    apply keeps_enumeration hr ?_ h.visibility h.propertyEnum
    · simp only [propertyEnumeration, propertyVariants, List.mem_map]
      rintro _ ⟨m, hm, rfl⟩
      exact keeps_variant h hm
    · simp [propertyEnumeration, derivedPath, hr, hr.doc, hr.derive]
  have hbody : Keeps r (writeLast (.ownMethod labelFunction [])).tokens := by
    apply keeps_writeLast hr
    simp [Term.ownMethod, Term.self, labelFunction, Term.tokens, Term.tokensOfAll, hr]
  have hformat : Keeps r (formatFunction [] ⟨[], writeLast (.ownMethod labelFunction [])⟩).tokens :=
    rename_formatFunction hr (by simp) (by simp [Body.tokens, Statement.tokensOfAll, hbody.eq])
  simp only [propertyItems, keeps_flatMap, List.forall_mem_cons]
  refine ⟨henumeration, keeps_ownImpl hr h.propertyEnum ?_,
    keeps_derivedImpl hr (keeps_library (by simp [hr])) h.propertyEnum ?_, by simp⟩
  · simpa [AssociatedItem.tokens] using keeps_propertyLabel h
  · simpa using hformat

theorem keeps_errorNew : Keeps r b.errorNew.tokens := by
  have hr := h.words
  have hset : Keeps r (b.unsetType.tokensBefore false) := keeps_unsetType h
  apply keeps_function hr
  · simp [errorNew]
  · simp [errorNew, hr]
  · simp [errorNew, TypeParameter.tokens, TypeParameter.conditions]
  · simp [errorNew, errorField, TypeExpr.ref, TypeExpr.tokens, TypeExpr.tokensBefore, hr, hset]
  · simp [errorNew, TypeExpr.self, hr]
  · simp [errorNew, errorField, Body.tokens, Statement.tokensOfAll, Outcome.tokens, Record.braced,
      Record.tokens, fieldValueTokens, Term.apply, Term.tokens, Term.tokensOfAll, Callee.tokens,
      hr, hr.library]

theorem keeps_errorProperties : Keeps r b.errorProperties.tokens := by
  have hr := h.words
  apply keeps_function hr
  · simp [errorProperties, hr.line]
  · simp [errorProperties, hr]
  · simp [errorProperties, TypeParameter.tokens, TypeParameter.conditions]
  · simp [errorProperties]
  · simp [errorProperties, TypeExpr.ref, TypeExpr.tokens, TypeExpr.tokensBefore, h.propertyEnum]
  · simp [errorProperties, errorField, Body.term, Body.tokens, Statement.tokensOfAll,
      Outcome.tokens, Term.ownFieldRef, Term.ownField, Term.self, Term.tokens, hr]

omit h in
theorem keeps_errorDisplayBody (hr : KeepsWords r) : Keeps r errorDisplayBody.tokens := by
  have hseparate := keeps_separateElements hr
  have hopening : Keeps r (writeText (.text "Not set: [")).tokens :=
    rename_writeText hr (by simp [Term.tokens])
  have hproperty : r propertyVar = propertyVar := by simp [propertyVar, hr]
  have hlabel : Keeps r (writeText (.method (.var propertyVar) labelFunction [])).tokens :=
    rename_writeText hr (by
      simp [propertyVar, labelFunction, Term.tokens, Term.tokensOfAll, hr])
  have hclosing : Keeps r (writeLast (.text "]")).tokens :=
    keeps_writeLast hr (by simp [Term.tokens])
  simp [errorDisplayBody, indexVar, hproperty, errorField, Body.tokens, Statement.tokensOfAll,
    Statement.tokens, Binder.tokens, Term.apply, Term.ownField, Term.self, Term.tokens,
    Term.tokensOfAll, Callee.tokens, hr, hr.library, hseparate, hopening, hlabel, hclosing]

theorem keeps_errorItems : Keeps r (b.errorItems.flatMap Item.tokens) := by
  have hr := h.words
  have hstructure : Keeps r (Item.structure_ b.errorStructure).tokens := by
    have hs := rename_structure hr (s := b.errorStructure)
      (by simp [errorStructure, derivedPath, hr, hr.doc, hr.derive]) h.visibility (by
        simp [errorStructure, errorField, TypeExpr.list, TypeExpr.tokens, TypeExpr.tokensBefore,
          hr, h.propertyEnum])
    rwa [show r b.errorStructure.name = b.errorStructure.name from h.buildError] at hs
  have hformat : Keeps r (formatFunction [] errorDisplayBody).tokens :=
    rename_formatFunction hr (by simp) (keeps_errorDisplayBody hr)
  simp only [errorItems, keeps_flatMap, List.forall_mem_cons]
  refine ⟨hstructure, ?_, ?_, ?_, by simp⟩
  · apply keeps_ownImpl hr h.buildError
    simp [AssociatedItem.tokens, keeps_errorNew h, keeps_errorProperties h]
  · apply keeps_derivedImpl hr (keeps_library (by simp [hr])) h.buildError
    simpa using hformat
  · apply keeps_derivedImpl hr (keeps_library (by simp [hr])) h.buildError
    simp

theorem keeps_trackingItems : Keeps r (b.trackingItems.flatMap Item.tokens) := by
  unfold trackingItems
  split
  · rw [List.flatMap_append, keeps_append]
    exact ⟨keeps_propertyItems h, keeps_errorItems h⟩
  · exact keeps_nil

end Blueprint

end TraitBuilder
