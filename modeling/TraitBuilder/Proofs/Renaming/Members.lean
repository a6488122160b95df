import TraitBuilder.Proofs.Naming.Collision
import TraitBuilder.Proofs.Renaming.Tokens

/-!
# Members under a renaming

What is generated for a member is kept by a renaming that keeps the words of generated code and what
the user wrote for the member, apart from the methods of the builder, which hand back the builder's
type.

* `Member.Kept`: what a renaming must keep of a member.
* `Member.Kept.initialValue`, `Member.Kept.mergeFromBuilder`, …: the parts that are generated.
-/

namespace TraitBuilder

open Code

/-- The renaming keeps all that generated code takes from a member. -/
structure Member.Kept (r : Renaming) (m : Member) : Prop where
  methods : ∀ x ∈ m.builderMethods, r x = x
  variant : m.isRequired → r m.property.variant = m.property.variant
  ty : Keeps r m.property.ty.tokens
  returnType : Keeps r m.property.returnType.tokens
  element : ∀ element default, m.role = .list element default → Keeps r element.tokens
  initial : ∀ e, m.role.default = some e → Keeps r e.tokens
  doc : ∀ a ∈ docAttributes m.property.doc, Keeps r a.tokens

section

variable {r : Renaming} (hr : KeepsWords r)

include hr

/-! ## Conversions -/

theorem keeps_setterParameter {ty : Ty} (hty : Keeps r ty.tokens) :
    Keeps r (setterParameter ty).tokens := by
  unfold setterParameter
  split
  · simpa using hty
  · simp [TypeExpr.convertible, TypeExpr.tokens, TypeExpr.tokensBefore, hr, hty]

variable {t : Term} (ht : Keeps r t.tokens)

include ht

theorem keeps_setterConversion (ty : Ty) : Keeps r (setterConversion ty t).tokens := by
  unfold setterConversion
  split
  · exact ht
  · simp [Term.apply, Term.tokens, Term.tokensOfAll, Callee.tokens, hr.library, ht]

theorem keeps_read (p : Property) : Keeps r (p.read t).tokens := by
  unfold Property.read
  repeat' split
  all_goals simp [Term.apply, Term.clone, Term.tokens, Term.tokensOfAll, Callee.tokens, hr.library,
    ht]

theorem keeps_toOwned (p : Property) : Keeps r (p.toOwned t).tokens := by
  unfold Property.toOwned
  split <;> simp [Term.apply, Term.tokens, Term.tokensOfAll, Callee.tokens, hr.library, ht]

theorem keeps_clonedElements : Keeps r (Member.clonedElements t).tokens := by
  simp [Member.clonedElements, Term.apply, Term.tokens, Term.tokensOfAll, Callee.tokens,
    hr.library, hr, ht]

theorem keeps_callOwn {method : Ident} (hm : r method = method) :
    Keeps r (Member.callOwn method t).tokens := by
  simp [Member.callOwn, Term.ownMethod, Term.self, Statement.tokens, Statement.semicolon,
    Term.tokens, Term.tokensOfAll, hr, hm, ht]

theorem keeps_emptied : Keeps r (Member.emptied t).tokens := by
  simp [Member.emptied, Statement.tokens, Statement.semicolon, Term.tokens, Term.tokensOfAll, hr,
    ht]

end

namespace Member

namespace Kept

variable {r : Renaming} {m : Member} (h : m.Kept r)

include h

theorem name : r m.name = m.name := h.methods _ m.name_mem_builderMethods

theorem propertyName : r m.property.name = m.property.name := h.name

theorem setter : r m.property.setter = m.property.setter := h.methods _ m.setter_mem_builderMethods

variable (hr : KeepsWords r)

include hr

theorem ownField : Keeps r (Term.ownField m.name).tokens := by
  simp [Term.ownField, Term.self, Term.tokens, hr, h.name]

theorem ownFieldRef : Keeps r (Term.ownFieldRef m.name).tokens := by
  have hfield := h.ownField hr
  simp [Term.ownFieldRef, Term.tokens, hfield]

/-! ## Layout and values of the fields -/

theorem storageType (layout : Layout) : Keeps r (m.storageType layout).tokens := by
  unfold Member.storageType
  split
  · rename_i element default hrole
    simp [TypeExpr.list, TypeExpr.tokens, TypeExpr.tokensBefore, hr,
      h.element element default hrole]
  · simp [TypeExpr.option, TypeExpr.tokens, TypeExpr.tokensBefore, hr, h.ty]
  · simpa using h.ty

theorem serializedType : Keeps r m.serializedType.tokens := by
  unfold Member.serializedType
  split
  · rename_i element default hrole
    simp [TypeExpr.list, TypeExpr.option, TypeExpr.tokens, TypeExpr.tokensBefore, hr,
      h.element element default hrole]
  · simp [TypeExpr.option, TypeExpr.tokens, TypeExpr.tokensBefore, hr, h.ty]

theorem initialValue : Keeps r m.initial.tokens := by
  have hgiven : ∀ e, m.role.default = some e → Keeps r (Term.given e.tokens).tokens := by
    intro e he
    simpa using h.initial e he
  unfold Member.initial
  cases hrole : m.role with
  | single default =>
    cases default with
    | none => simp [Term.none, Term.tokens, hr.library]
    | some e => exact keeps_setterConversion hr (hgiven e (by simp [hrole, Role.default])) _
  | optional default =>
    cases default with
    | none => simp [Term.none, Term.tokens, hr.library]
    | some e =>
      have hconverted := keeps_setterConversion hr (hgiven e (by simp [hrole, Role.default]))
        m.property.ty
      simp [Term.some, Term.apply, Term.tokens, Term.tokensOfAll, Callee.tokens, hr.library,
        hconverted]
  | list element default =>
    have helement := h.element element default hrole
    cases default with
    | none => simp [Term.apply, Term.tokens, Term.tokensOfAll, Callee.tokens, hr.library]
    | some e =>
      have he := h.initial e (by simp [hrole, Role.default])
      simp [Term.tokens, Term.tokensOfAll, Callee.tokens, TypeExpr.list, TypeExpr.tokens,
        TypeExpr.tokensBefore, hr, helement, he]

theorem copied {builder : Ident} (hb : r builder = builder) :
    Keeps r (m.copied builder).tokens := by
  simp [Member.copied, Term.clone, Term.apply, Term.tokens, Term.tokensOfAll, Callee.tokens,
    hr.library, hb, h.name]

theorem finalValue {builder : Ident} (hb : r builder = builder) :
    Keeps r (m.finalValue builder).tokens := by
  have hcopied := h.copied hr hb
  unfold Member.finalValue
  split
  · simp [Term.tokens, Term.tokensOfAll, Callee.tokens, hr.library, unsetVar, hr, hcopied]
  · exact hcopied

/-! ## Copying and clearing -/

theorem mergeFromValue {typeName value : Ident} (ht : r typeName = typeName)
    (hv : r value = value) : Keeps r (m.mergeFromValue typeName value).tokens := by
  have hreturned :
      Keeps r (Term.call (.associated typeName m.property.name) [.var value] false).tokens := by
    simp [Term.tokens, Term.tokensOfAll, Callee.tokens, ht, hv, h.propertyName]
  have howned := keeps_toOwned hr hreturned m.property
  unfold Member.mergeFromValue
  cases hrole : m.role with
  | single default => exact keeps_callOwn hr howned h.setter
  | optional default =>
    exact keeps_callOwn hr howned (h.methods _ (by simp [builderMethods, hrole]))
  | list element default =>
    have hcloned := keeps_clonedElements hr hreturned
    exact keeps_callOwn hr hcloned (h.methods _ (by simp [builderMethods, hrole]))

theorem mergeFromBuilder {builder : Ident} (hb : r builder = builder) :
    Keeps r (m.mergeFromBuilder builder).tokens := by
  have hreturned : Keeps r (Term.method (.var builder) m.property.name []).tokens := by
    simp [Term.tokens, Term.tokensOfAll, hb, h.propertyName]
  have hfield : Keeps r (Term.field (.var builder) m.property.name).tokens := by
    simp [Term.tokens, hb, h.propertyName]
  have howned := keeps_toOwned hr hreturned m.property
  unfold Member.mergeFromBuilder
  cases hrole : m.role with
  | single default => exact keeps_callOwn hr howned h.setter
  | optional default =>
    exact keeps_callOwn hr howned (h.methods _ (by simp [builderMethods, hrole]))
  | list element default =>
    have hcloned := keeps_clonedElements hr hfield
    exact keeps_callOwn hr hcloned (h.methods _ (by simp [builderMethods, hrole]))

theorem setFromResult {builder : Ident} (hb : r builder = builder) {result : Term}
    (hresult : Keeps r result.tokens) : Keeps r (m.setFromResult builder result).tokens := by
  have hsome := hr.library .some
  unfold Member.setFromResult
  cases hrole : m.role with
  | single default =>
    simp [Statement.tokens, Statement.tokensOfAll, Statement.semicolon, Term.tokens,
      Term.tokensOfAll, hr, hsome, hb, hresult, h.setter]
  | optional default =>
    have hnullable := h.methods m.property.nullableSetter (by simp [builderMethods, hrole])
    simp [Statement.tokens, Statement.semicolon, Term.tokens, Term.tokensOfAll, hb, hresult,
      hnullable]
  | list element default =>
    simp [Statement.tokens, Statement.tokensOfAll, Statement.semicolon, Term.tokens,
      Term.tokensOfAll, hr, hsome, hb, hresult, h.setter]

theorem clear {template : Option Ident} (ht : ∀ x ∈ template, r x = x) :
    Keeps r (Statement.tokensOfAll (m.clear template)) := by
  have hfield := h.ownField hr
  have hemptied := keeps_emptied hr hfield
  unfold Member.clear
  split <;> simp_all [Statement.tokensOfAll, Statement.tokens, Statement.semicolon, Term.tokens,
    Term.none, hr.library, h.name]

theorem partialClear {receiver : Term} (hreceiver : Keeps r receiver.tokens) :
    Keeps r (Statement.tokensOfAll (m.partialClear receiver)) := by
  have hfield : Keeps r (Term.field receiver m.name).tokens := by
    simp [Term.tokens, hreceiver, h.name]
  have hemptied := keeps_emptied hr hfield
  unfold Member.partialClear
  split <;> simp [Statement.tokensOfAll, hemptied]

/-! ## Getters -/

theorem readStored : Keeps r m.readStored.tokens := keeps_read hr (h.ownFieldRef hr) _

theorem readRequired : Keeps r m.readRequired.tokens := by
  have hfield := h.ownFieldRef hr
  have hfound := keeps_read hr (t := .var m.name) (by simp [Term.tokens, h.name]) m.property
  simp [Member.readRequired, Outcome.tokens, Outcome.arrow, panicTokens, hr, hr.library, hfield,
    hfound, h.name]

end Kept

end Member

end TraitBuilder
