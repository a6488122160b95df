import TraitBuilder.Proofs.Builder.Copying
import TraitBuilder.Proofs.Naming.FieldNames
import TraitBuilder.Proofs.Naming.Formats
import TraitBuilder.Proofs.Naming.Untracked

/-!
# Conditional declarations

Some names are declared only where they are needed: the enumeration, the error and the field that
track required members, the text that separates displayed members, and variables in three bodies.
Each has a condition of its own, and what refers to it is written elsewhere, under other conditions.

* `Blueprint.declaredTypes_eq`: which types are declared.
* `Blueprint.template_declared_iff`, `Blueprint.unset_declared_iff`: the variables of the builder
  and of the value.
* `Blueprint.declaredAsUsed`: every conditional name is declared exactly if it is used.
-/

namespace TraitBuilder

open Code

namespace Blueprint

variable {b : Blueprint}

/-! ## What tracks required members -/

/-- The references to what tracks required members. -/
def trackingReferences (b : Blueprint) : List Reference :=
  [.type b.propertyEnum.name, .type b.buildError.name, .field unsetField.name]

/-- The names of the types that the generated code declares. -/
def declaredTypes (b : Blueprint) : List String := b.items.flatMap Item.declaredTypes

theorem declaredTypes_eq (b : Blueprint) :
    b.declaredTypes = (if b.hasRequired then [b.propertyEnum.name, b.buildError.name] else []) ++
      [b.builder.name, b.value.name, b.partialType.name] := by
  have htracking : b.trackingItems.flatMap Item.declaredTypes =
      if b.hasRequired then [b.propertyEnum.name, b.buildError.name] else [] := by
    unfold trackingItems
    split <;> rfl
  have hbuilder : b.builderItems.flatMap Item.declaredTypes = [b.builder.name] := by
    unfold builderItems builderDefault
    split <;> rfl
  have hvalue : b.valueItems.flatMap Item.declaredTypes = [b.value.name] := rfl
  have hpartial : b.partialItems.flatMap Item.declaredTypes = [b.partialType.name] := rfl
  have hstandard (t : Target) : (b.standardItems t).flatMap Item.declaredTypes = [] := by
    rw [List.flatMap_eq_nil_iff]
    intro item hitem
    obtain ⟨_, _, _, rfl⟩ := derivedImpl_of_mem_standardItems hitem
    rfl
  have hserialization : b.serializationItems.flatMap Item.declaredTypes = [] := by
    unfold serializationItems
    split <;> rfl
  simp only [declaredTypes, items, List.flatMap_append, htracking, hbuilder, hvalue, hpartial,
    hstandard, hserialization, List.append_assoc, List.cons_append, List.nil_append]

theorem mem_declaredTypes_iff {name : String}
    (hname : name ∈ [b.propertyEnum.name, b.buildError.name])
    (huser : ¬ (Reference.type name).Within b.userTokens) :
    name ∈ b.declaredTypes ↔ b.hasRequired = true := by
  have hnot : name ∉ [b.builder.name, b.value.name, b.partialType.name] := by
    intro hmem
    simp only [List.mem_cons, List.not_mem_nil, or_false] at hmem
    rcases hmem with h | h | h <;>
      exact huser (within_of_mem_userTypes (by simp [userTypes]) h)
  rw [declaredTypes_eq]
  cases b.hasRequired with
  | false => simpa using hnot
  | true => exact iff_of_true (List.mem_append_left _ hname) rfl

/-- The additional field is there if some member is required, and only then, since no member has
its name. -/
theorem unsetField_mem_fieldNames_iff
    (huser : ¬ (Reference.field unsetField.name).Within b.userTokens) {s : Structure}
    (hs : s ∈ b.trackingStructures) :
    unsetField.name ∈ s.fieldNames ↔ b.hasRequired = true := by
  have hnot : unsetField.name ∉ b.members.map Member.label := by
    intro hmem
    obtain ⟨m, hm, hlabel⟩ := List.mem_map.mp hmem
    apply huser
    simp only [userTokens, Reference.within_append, Reference.within_flatMap]
    refine Or.inr ⟨m, hm, ?_⟩
    rw [Member.userTokens, List.cons_append, List.cons_append, List.cons_append,
      Reference.within_ident]
    exact Or.inl hlabel.symm
  rw [fieldNames_of_tracking hs]
  cases b.hasRequired with
  | false => simpa using hnot
  | true => simp

theorem foreign_of_mem_trackingReferences {r : Reference} (h : r ∈ b.trackingReferences)
    (huser : ¬ r.Within b.userTokens) : r.Foreign b.userTokens := by
  refine ⟨?_, huser⟩
  simp only [trackingReferences, List.mem_cons, List.not_mem_nil, or_false] at h
  rcases h with rfl | rfl | rfl
  · exact Or.inl ⟨_, rfl⟩
  · exact Or.inl ⟨_, rfl⟩
  · exact Or.inr ⟨_, rfl⟩

/-- What tracks required members is used by the builder. -/
theorem refers_of_hasRequired (hrequired : b.hasRequired = true) {r : Reference}
    (hr : r ∈ b.trackingReferences) (hknown : r.name ∉ Reference.knownTypes) :
    ∃ item ∈ b.builderItems, item.Refers r := by
  have himplementation : Item.implementation b.builderImplementation ∈ b.builderItems := by
    simp [builderItems]
  have hfunction {f : Function} (hf : f ∈ b.builderFunctions) (h : f.Refers r) :
      ∃ item ∈ b.builderItems, item.Refers r := by
    refine ⟨_, himplementation, Or.inr (Or.inr (Or.inr ⟨.function f, ?_, h⟩))⟩
    exact List.mem_append_right _ (List.mem_map_of_mem hf)
  simp only [trackingReferences, List.mem_cons, List.not_mem_nil, or_false] at hr
  rcases hr with rfl | rfl | rfl
  -- the type of the field names the enumeration, the result of a build the error, and a new builder
  -- the field itself
  · refine ⟨.structure_ b.builderStructure, by simp [builderItems], Or.inr (Or.inr ?_)⟩
    refine ⟨(TraitBuilder.unsetField, b.unsetType), ?_, rfl, hknown⟩
    simp [builderStructure, builderFields, hrequired]
  · refine hfunction (f := b.buildFunction) (by simp [builderFunctions]) ?_
    rw [buildFunction, if_pos hrequired]
    refine ⟨by simp [TypeParameter.name?], Or.inr (Or.inr (Or.inr (Or.inl ⟨_, rfl, ?_⟩)))⟩
    exact Or.inr ⟨rfl, hknown⟩
  · refine hfunction (f := b.builderNew) (by simp [builderFunctions]) ?_
    refine ⟨by simp, Or.inr (Or.inr (Or.inr (Or.inr (Or.inr ?_))))⟩
    refine ⟨(TraitBuilder.unsetField, b.allUnset), ?_, Or.inl rfl⟩
    simp [builderInitials, hrequired]

/-! ## Variables of the builder and of the value -/

/-- A member refers to the fresh builder if it takes its value from there. -/
theorem clear_refers_template_iff (m : Member) :
    (∃ s ∈ m.clear (if m.needsTemplate then some templateVar else none),
      s.Refers (.variable templateVar.name)) ↔ m.needsTemplate = true := by
  have hself : templateVar.name ≠ (plain "self").name := by decide
  by_cases hneeds : m.needsTemplate = true
  · simp [clear_of_needsTemplate hneeds, hneeds]
  · rw [if_neg hneeds]
    unfold Member.clear
    split <;>
      simp_all [Member.needsTemplate, Member.emptied, Term.ownField, Term.self, Term.none]

theorem not_binds_clear (name : String) (m : Member) (template : Option Ident) :
    ∀ s ∈ m.clear template, ¬ s.Binds name := by
  unfold Member.clear
  split <;> simp [Member.emptied, Statement.Binds]

theorem clearStatements_refers_template_iff :
    (∃ s ∈ b.clearStatements, s.Refers (.variable templateVar.name)) ↔
      b.needsTemplate = true := by
  constructor
  · rintro ⟨s, hs, h⟩
    simp only [clearStatements, List.mem_append, List.mem_flatMap] at hs
    rcases hs with (hs | ⟨m, hm, hs⟩) | hs
    · split at hs
      · assumption
      · cases hs
    · exact List.any_eq_true.mpr ⟨m, hm, (clear_refers_template_iff m).mp ⟨s, hs, h⟩⟩
    · split at hs
      · next hrequired => exact needsTemplate_of_hasRequired hrequired
      · cases hs
  · intro h
    obtain ⟨m, hm, hneeds⟩ := List.any_eq_true.mp h
    obtain ⟨s, hs, hrefers⟩ := (clear_refers_template_iff m).mpr hneeds
    refine ⟨s, ?_, hrefers⟩
    simp only [clearStatements, List.mem_append, List.mem_flatMap]
    exact Or.inl (Or.inr ⟨m, hm, hs⟩)

theorem clearStatements_binds_template_iff :
    (∃ s ∈ b.clearStatements, s.Binds templateVar.name) ↔ b.needsTemplate = true := by
  constructor
  · rintro ⟨s, hs, h⟩
    simp only [clearStatements, List.mem_append, List.mem_flatMap] at hs
    rcases hs with (hs | ⟨m, hm, hs⟩) | hs
    · split at hs
      · assumption
      · cases hs
    · exact absurd h (not_binds_clear _ m _ s hs)
    · split at hs
      · obtain rfl := List.mem_singleton.mp hs
        cases h
      · cases hs
  · intro h
    exact ⟨.bind false templateVar b.newBuilder, by simp [clearStatements, h], rfl⟩

/-- Clearing declares a fresh builder where it takes something from it. -/
theorem template_declared_iff : b.clearFunction.body.Binds templateVar.name ↔
    b.clearFunction.body.Refers (.variable templateVar.name) := by
  have hself : ¬ Term.self.Refers (.variable templateVar.name) := by
    simp [Term.self, templateVar, plain]
  unfold clearFunction
  dsimp only
  -- a builder that cannot be created from outside is cleared only in part, without a fresh one
  split
  · simp only [Body.Binds, Body.Refers, Member.changer, Outcome.Refers, hself, or_false]
    rw [clearStatements_binds_template_iff, clearStatements_refers_template_iff]
  · have hpartial : ∀ s ∈ b.members.flatMap (·.partialClear .self),
        ¬ s.Binds templateVar.name ∧ ¬ s.Refers (.variable templateVar.name) := by
      intro s hs
      obtain ⟨m, hm, hs⟩ := List.mem_flatMap.mp hs
      unfold Member.partialClear at hs
      split at hs
      · obtain rfl := List.mem_singleton.mp hs
        exact ⟨not_false, by simp [Member.emptied, hself]⟩
      · cases hs
    refine iff_of_false ?_ (Body.not_refers (fun s hs => (hpartial s hs).2) hself)
    rintro ⟨s, hs, h⟩
    exact (hpartial s hs).1 h

/-- The value's constructor declares the error of unset members where it may hand it back. -/
theorem unset_declared_iff : b.valueNew.body.Binds Member.unsetVar.name ↔
    b.valueNew.body.outcome.Refers (.variable Member.unsetVar.name) := by
  have hbuilder : Member.unsetVar.name ≠ builderVar.name := by decide
  have hvalue (m : Member) : (m.finalValue builderVar).Refers (.variable Member.unsetVar.name) ↔
      m.isRequired = true := by
    unfold Member.finalValue
    split <;> simp [*, Member.copied, Term.clone, Term.apply]
  have hinitials : (∃ field ∈ b.valueInitials, .variable Member.unsetVar.name =
      Reference.field field.1.name ∨ field.2.Refers (.variable Member.unsetVar.name)) ↔
        b.hasRequired = true := by
    simp [valueInitials, hvalue, hasRequired]
  unfold valueNew
  dsimp only
  split
  · next h =>
    refine iff_of_true ⟨_, List.mem_singleton_self _, rfl⟩ ?_
    exact hinitials.mpr h
  · next h =>
    refine iff_of_false ?_ fun hrefers => h (hinitials.mp hrefers)
    simp [Body.Binds]

/-! ## All conditional declarations -/

/-- Every name that is declared under a condition is declared exactly if it is used. -/
structure DeclaredAsUsed (b : Blueprint) : Prop where
  propertyEnum : b.propertyEnum.name ∈ b.declaredTypes ↔ b.hasRequired = true
  buildError : b.buildError.name ∈ b.declaredTypes ↔ b.hasRequired = true
  unsetField : ∀ s ∈ [b.builderStructure, b.partialStructure],
    unsetField.name ∈ s.fieldNames ↔ b.hasRequired = true
  untracked : b.hasRequired = false → ∀ r ∈ b.trackingReferences, ∀ item ∈ b.items, ¬ item.Refers r
  tracked : b.hasRequired = true → ∀ r ∈ b.trackingReferences, r.name ∉ Reference.knownTypes →
    ∃ item ∈ b.builderItems, item.Refers r
  joiner : (∃ value, .text commaJoiner value ∈ b.builderImplementation.items) ↔
    ∃ i ∈ b.formats, i.trait? = some displayTrait ∧ i.Refers (.constant commaJoiner.name)
  template : b.clearFunction.body.Binds templateVar.name ↔
    b.clearFunction.body.Refers (.variable templateVar.name)
  unset : b.valueNew.body.Binds Member.unsetVar.name ↔
    b.valueNew.body.outcome.Refers (.variable Member.unsetVar.name)
  separator : ∀ i ∈ b.formats, ∀ f ∈ i.functions,
    f.body.Binds separatorVar.name ↔ f.body.Refers (.variable separatorVar.name)

/-- Where the user wrote none of the names that track required members, every conditional name is
declared exactly if it is used. -/
theorem declaredAsUsed (h : ∀ r ∈ b.trackingReferences, ¬ r.Within b.userTokens) :
    b.DeclaredAsUsed where
  propertyEnum := mem_declaredTypes_iff List.mem_cons_self (h _ (by simp [trackingReferences]))
  buildError := mem_declaredTypes_iff (by simp) (h _ (by simp [trackingReferences]))
  unsetField _ hs := unsetField_mem_fieldNames_iff (h _ (by simp [trackingReferences])) hs
  untracked hnone r hr :=
    not_refers_items (foreign_of_mem_trackingReferences hr (h r hr)) hnone
  tracked hrequired _ hr hknown := refers_of_hasRequired hrequired hr hknown
  joiner := joiner_declared_iff
  template := template_declared_iff
  unset := unset_declared_iff
  separator _ hi _ hf := separator_declared_iff hi hf

end Blueprint

/-! ## A book with its required member and without it -/

/-- The blueprint of a book without the required member. -/
def looseBook : Blueprint :=
  { bookBlueprint with members := bookBlueprint.members.filter fun m => !m.isRequired }

theorem books_declaredAsUsed :
    (∀ r ∈ bookBlueprint.trackingReferences, ¬ r.Within bookBlueprint.userTokens) ∧
    bookBlueprint.DeclaredAsUsed ∧
    (∀ r ∈ looseBook.trackingReferences, ¬ r.Within looseBook.userTokens) ∧
    looseBook.DeclaredAsUsed := by
  have hbook : ∀ r ∈ bookBlueprint.trackingReferences, ¬ r.Within bookBlueprint.userTokens := by
    decide
  have hloose : ∀ r ∈ looseBook.trackingReferences, ¬ r.Within looseBook.userTokens := by
    decide
  exact ⟨hbook, Blueprint.declaredAsUsed hbook, hloose, Blueprint.declaredAsUsed hloose⟩

end TraitBuilder
