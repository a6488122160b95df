import TraitBuilder.Proofs.Renaming.Tracking

/-!
# Accessors under a renaming

The methods of the builder for a member hand back the builder, whose name is all that changes in
them.

* `Member.rename_changer`: a method that hands back the builder.
* `Member.rename_accessors`: the methods of the builder for a member.
-/

namespace TraitBuilder

open Code

namespace Member

variable {r : Renaming} {b : Blueprint} {m : Member}

theorem rename_changer (hr : KeepsWords r) {decorations : List Decoration} {name : Ident}
    {parameters parameters' : List (Ident × TypeExpr)} {trailingComma : Bool}
    {statements statements' : List Statement} {result : Term}
    (hdecorations : ∀ d ∈ decorations, Keeps r d.tokens) (hname : r name = name)
    (hparameters : Token.renameAll r
        (changer b decorations name parameters trailingComma statements result).parameterTokens =
      (changer b decorations name parameters' trailingComma statements result).parameterTokens)
    (hstatements : Token.renameAll r (Statement.tokensOfAll statements) =
      Statement.tokensOfAll statements')
    (hresult : Keeps r result.tokens) :
    Token.renameAll r
        (changer b decorations name parameters trailingComma statements result).tokens =
      (changer (b.rename r) decorations name parameters' trailingComma statements'
        result).tokens := by
  apply rename_function hr hdecorations hname
  · simp [changer, TypeParameter.tokens, TypeParameter.conditions]
  · exact hparameters
  · simp [changer, TypeExpr.refMut, TypeExpr.tokens, TypeExpr.tokensBefore, Blueprint.builderType,
      Blueprint.rename, hr]
  · simp [changer, Body.tokens, Outcome.tokens, hstatements, hresult.eq]

variable (hr : KeepsWords r) (h : m.Kept r)

include hr

theorem keeps_self : Keeps r Term.self.tokens := by
  simp [Term.self, Term.tokens, hr]

theorem keeps_ownUnset : Keeps r ownUnset.tokens := by
  have hself := keeps_self hr
  have hunset : r unsetField = unsetField := by simp [unsetField, hr]
  simp [ownUnset, Term.ownField, Term.tokens, hself, hunset]

include h

theorem keeps_userDoc : ∀ d ∈ m.userDoc, Keeps r d.tokens := by
  simp only [userDoc, List.mem_cons, List.mem_map]
  rintro d (rfl | ⟨a, ha, rfl⟩)
  · exact hr.line ""
  · exact h.doc a ha

theorem keeps_builderGetter {decorations : List Decoration} {outcome : Outcome}
    (hdecorations : ∀ d ∈ decorations, Keeps r d.tokens) (houtcome : Keeps r outcome.tokens) :
    Keeps r (m.builderGetter decorations outcome).tokens := by
  apply keeps_function hr hdecorations h.name
  · simp [builderGetter, TypeParameter.tokens, TypeParameter.conditions]
  · simp [builderGetter]
  · simpa [builderGetter] using h.returnType
  · simpa [builderGetter, Body.tokens, Statement.tokensOfAll] using houtcome

theorem keeps_setterStatements (hb : b.Kept r) :
    Keeps r (Statement.tokensOfAll (m.setterStatements b)) := by
  have hfield := h.ownField hr
  have hvalue := keeps_setterConversion hr (t := .var m.name) (by simp [Term.tokens, h.name])
    m.property.ty
  have hunset := keeps_ownUnset hr
  unfold setterStatements
  cases hrole : m.role with
  | single default =>
    cases default with
    | none =>
      have hvariant := h.variant (by simp [isRequired, need, hrole])
      simp [Statement.tokensOfAll, Statement.tokens, Statement.semicolon, Term.some, Term.apply,
        Term.tokens, Term.tokensOfAll, Callee.tokens, Blueprint.variant, hr, hr.library, hunset,
        hfield, hvalue, hvariant, hb.propertyEnum]
    | some e =>
      simp [Statement.tokensOfAll, Statement.tokens, Statement.semicolon, hfield, hvalue]
  | optional default | list element default =>
    simp [Statement.tokensOfAll, Statement.tokens, Statement.semicolon, Term.some, Term.apply,
      Term.tokens, Term.tokensOfAll, Callee.tokens, hr.library, hfield, hvalue]

theorem rename_setterMethod (hb : b.Kept r) :
    Token.renameAll r (m.setterMethod b).tokens = (m.setterMethod (b.rename r)).tokens := by
  have hparameter := keeps_setterParameter hr h.ty
  apply rename_changer hr ?_ h.setter ?_ (keeps_setterStatements hr h hb) (keeps_self hr)
  · exact List.forall_mem_cons.mpr ⟨hr.doc _, keeps_userDoc hr h⟩
  · apply keeps_parameterTokens hr
    simp [changer, h.name, hparameter]

theorem rename_singleAccessors (hb : b.Kept r) :
    Token.renameAll r ((m.singleAccessors b).flatMap Function.tokens) =
      (m.singleAccessors (b.rename r)).flatMap Function.tokens := by
  refine Token.renameAll_flatMap₂ (.cons (rename_setterMethod hr h hb) (.cons ?_ .nil))
  cases m.isRequired with
  | true =>
    apply keeps_builderGetter hr h ?_ (h.readRequired hr)
    simp [getterDoc, panicDoc, hr.doc, hr.line]
  | false =>
    apply keeps_builderGetter hr h ?_ (h.readStored hr)
    simp [getterDoc, hr.doc]

theorem rename_optionalAccessors (hb : b.Kept r) {default : Option Expr}
    (hrole : m.role = .optional default) :
    Token.renameAll r ((m.optionalAccessors b).flatMap Function.tokens) =
      (m.optionalAccessors (b.rename r)).flatMap Function.tokens := by
  have hmethods := h.methods
  simp only [builderMethods, hrole, List.forall_mem_cons] at hmethods
  obtain ⟨-, -, hnullable, hclear, -⟩ := hmethods
  have hfield := h.ownField hr
  have hself := keeps_self hr
  have hty : Keeps r (TypeExpr.option (.given m.property.ty)).tokens := by
    simp [TypeExpr.option, TypeExpr.tokens, TypeExpr.tokensBefore, hr, h.ty]
  have hset : Keeps r (Statement.tokensOfAll [.assign (.ownField m.name) (.var m.name)]) := by
    simp [Statement.tokensOfAll, Statement.tokens, Statement.semicolon, Term.tokens, hfield, h.name]
  have hunset : Keeps r (Statement.tokensOfAll [.assign (.ownField m.name) .none]) := by
    simp [Statement.tokensOfAll, Statement.tokens, Statement.semicolon, Term.none, Term.tokens,
      hr.library, hfield]
  refine Token.renameAll_flatMap₂
    (.cons (rename_setterMethod hr h hb) (.cons ?_ (.cons ?_ (.cons ?_ .nil))))
  · apply rename_changer hr (by simp [hr.doc]) hnullable ?_ hset hself
    exact keeps_parameterTokens hr (by simp [changer, h.name, hty])
  · apply rename_changer hr (by simp [hr.doc]) hclear ?_ hunset hself
    exact keeps_parameterTokens hr (by simp [changer])
  · exact keeps_builderGetter hr h (by simp [getterDoc, hr.doc]) (h.readStored hr)

theorem rename_listAccessors {element : Ty} {default : Option Expr}
    (hrole : m.role = .list element default) :
    Token.renameAll r ((m.listAccessors b element).flatMap Function.tokens) =
      (m.listAccessors (b.rename r) element).flatMap Function.tokens := by
  have hmethods := h.methods
  simp only [builderMethods, hrole, List.forall_mem_cons] at hmethods
  obtain ⟨-, hadder, hbulk, hsetter, hclear, -⟩ := hmethods
  have hfield := h.ownField hr
  have hself := keeps_self hr
  have helement := h.element element default hrole
  have hone : r elementVar = elementVar := by simp [elementVar, hr]
  have hall : r elementsVar = elementsVar := by simp [elementsVar, hr]
  have hparameter := keeps_setterParameter hr helement
  have hconverted := keeps_setterConversion hr (t := .var elementVar) (by simp [Term.tokens, hone])
    element
  have hmany : Keeps r (TypeExpr.anyIterable (.given element)).tokens := by
    simp [TypeExpr.tokens, TypeExpr.tokensBefore, hr, helement]
  have hemptied := keeps_emptied hr hfield
  refine Token.renameAll_flatMap₂
    (.cons ?_ (.cons ?_ (.cons ?_ (.cons ?_ (.cons ?_ .nil)))))
  · apply rename_changer hr ?_ hadder ?_ ?_ hself
    · exact List.forall_mem_cons.mpr ⟨hr.doc _, keeps_userDoc hr h⟩
    · exact keeps_parameterTokens hr (by simp [changer, hone, hparameter])
    · simp [Statement.tokensOfAll, Statement.tokens, Statement.semicolon, Term.tokens,
        Term.tokensOfAll, hr, hfield.eq, hconverted.eq]
  · apply rename_changer hr (by simp [hr.doc]) hbulk ?_ ?_ hself
    · exact keeps_parameterTokens hr (by simp [changer, hall, hmany])
    · simp [Statement.tokensOfAll, Statement.tokens, Statement.semicolon, Term.apply, Term.tokens,
        Term.tokensOfAll, Callee.tokens, hr, (hr.library _).eq, hfield.eq, hall]
  · apply rename_changer hr (by simp [hr.doc]) hsetter ?_ ?_ ?_
    · exact keeps_parameterTokens hr (by simp [changer, hall, hmany])
    · simp [Statement.tokensOfAll, hemptied.eq]
    · simp [Term.ownMethod, Term.tokens, Term.tokensOfAll, hself, hbulk, hall]
  · apply rename_changer hr (by simp [hr.doc]) hclear ?_ ?_ hself
    · exact keeps_parameterTokens hr (by simp [changer])
    · simp [Statement.tokensOfAll, hemptied.eq]
  · exact keeps_builderGetter hr h (by simp [hr.doc]) (h.ownFieldRef hr)

theorem rename_accessors (hb : b.Kept r) :
    Token.renameAll r ((m.accessors b).flatMap Function.tokens) =
      (m.accessors (b.rename r)).flatMap Function.tokens := by
  unfold accessors
  cases hrole : m.role with
  | single default => exact rename_singleAccessors hr h hb
  | optional default => exact rename_optionalAccessors hr h hb hrole
  | list element default => exact rename_listAccessors hr h hrole

end Member

end TraitBuilder
