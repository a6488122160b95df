import TraitBuilder.Proofs.Naming.Accepted

/-!
# Names of fields

The generated structures have a field for each member, named by its getter; the builder and the
partial have one more if some member is required, where unset properties are kept.  The checks of a
trait see to it that labels differ, so the fields of different members differ too, raw marks aside.
But these checks judge methods only: they know nothing of the additional field.

* `Blueprint.structures_eq`: which structures are generated.
* `fieldNames_of_plain`, `fieldNames_of_tracking`: the names of their fields.
* `fieldNames_nodup_iff`: the fields of every structure of an accepted trait have different names
  exactly if no getter is named like the additional field where there is one.
-/

namespace TraitBuilder

open Code

namespace Code

/-- The names of the fields of a structure, raw marks aside. -/
def Structure.fieldNames (s : Structure) : List String := s.fields.map (·.1.name)

/-- The structures that an item declares. -/
def Item.structures : Item → List Structure
  | .structure_ s | .hidden s _ => [s]
  | .enumeration _ | .implementation _ => []

end Code

namespace Blueprint

variable {b : Blueprint}

/-! ## The structures -/

/-- The structures that are declared in the generated code. -/
def structures (b : Blueprint) : List Structure := b.items.flatMap Item.structures

/-- The structures with a field for each member and perhaps one more. -/
def trackingStructures (b : Blueprint) : List Structure := [b.builderStructure, b.partialStructure]

/-- The structures with a field for each member and no other. -/
def plainStructures (b : Blueprint) : List Structure :=
  b.valueStructure :: if b.serde then [b.shadowStructure] else []

theorem structures_of_trackingItems (b : Blueprint) :
    b.trackingItems.flatMap Item.structures = if b.hasRequired then [b.errorStructure] else [] := by
  unfold trackingItems
  split <;> rfl

theorem structures_of_builderItems (b : Blueprint) :
    b.builderItems.flatMap Item.structures = [b.builderStructure] := by
  unfold builderItems builderDefault
  split <;> rfl

/-- The standard traits come as implementations, which declare nothing. -/
theorem derivedImpl_of_mem_standardItems {t : Target} {item : Item} (h : item ∈ b.standardItems t) :
    ∃ trait_ target functions, item = derivedImpl trait_ target functions := by
  simp only [standardItems, List.mem_append] at h
  rcases h with ((h | h) | h) | h
  · unfold equalityItems at h
    split at h
    · cases h
    · simp only [providedEquality, List.mem_cons, List.not_mem_nil, or_false] at h
      rcases h with rfl | rfl <;> exact ⟨_, _, _, rfl⟩
    · exact ⟨_, _, _, List.mem_singleton.mp h⟩
  · unfold hashItems at h
    split at h
    · cases h
    · exact ⟨_, _, _, List.mem_singleton.mp h⟩
    · exact ⟨_, _, _, List.mem_singleton.mp h⟩
  · unfold displayItems at h
    split at h
    · cases h
    · exact ⟨_, _, _, List.mem_singleton.mp h⟩
    · exact ⟨_, _, _, List.mem_singleton.mp h⟩
  · unfold debugItems at h
    split at h
    · cases h
    · exact ⟨_, _, _, List.mem_singleton.mp h⟩

theorem structures_of_standardItems (b : Blueprint) (t : Target) :
    (b.standardItems t).flatMap Item.structures = [] := by
  rw [List.flatMap_eq_nil_iff]
  intro item hitem
  obtain ⟨_, _, _, rfl⟩ := derivedImpl_of_mem_standardItems hitem
  rfl

theorem structures_of_serializationItems (b : Blueprint) :
    b.serializationItems.flatMap Item.structures = if b.serde then [b.shadowStructure] else [] := by
  unfold serializationItems
  split <;> rfl

/-- The error, the builder, the value, the partial, and what serialized data is read into. -/
theorem structures_eq (b : Blueprint) :
    b.structures = (if b.hasRequired then [b.errorStructure] else []) ++
      ([b.builderStructure, b.valueStructure, b.partialStructure] ++
        if b.serde then [b.shadowStructure] else []) := by
  have hvalue : b.valueItems.flatMap Item.structures = [b.valueStructure] := rfl
  have hpartial : b.partialItems.flatMap Item.structures = [b.partialStructure] := rfl
  simp only [structures, items, List.flatMap_append, structures_of_trackingItems,
    structures_of_builderItems, hvalue, hpartial, structures_of_standardItems,
    structures_of_serializationItems, List.append_assoc, List.cons_append, List.nil_append]

theorem mem_structures {s : Structure} :
    s ∈ b.structures ↔ (b.hasRequired = true ∧ s = b.errorStructure) ∨
      s ∈ b.trackingStructures ∨ s ∈ b.plainStructures := by
  rw [structures_eq, trackingStructures, plainStructures]
  cases b.hasRequired <;> cases b.serde <;>
    simp only [Bool.false_eq_true, if_false, if_true, List.mem_append, List.mem_cons,
      List.not_mem_nil, or_false, false_or, true_and, false_and] <;> tauto

/-! ## Their fields -/

theorem fieldNames_of_plain {s : Structure} (h : s ∈ b.plainStructures) :
    s.fieldNames = b.members.map Member.label := by
  have hvalue : b.valueStructure.fieldNames = b.members.map Member.label := by
    simp [Structure.fieldNames, valueStructure, valueFields, Member.valueField, Member.label,
      Property.label, Member.name, Function.comp_def]
  have hshadow : b.shadowStructure.fieldNames = b.members.map Member.label := by
    simp [Structure.fieldNames, shadowStructure, Member.label, Property.label, Member.name,
      Function.comp_def]
  rcases List.mem_cons.mp h with rfl | h
  · exact hvalue
  · split at h
    · obtain rfl := List.mem_singleton.mp h
      exact hshadow
    · cases h

theorem fieldNames_of_tracking {s : Structure} (h : s ∈ b.trackingStructures) :
    s.fieldNames = b.members.map Member.label ++
      if b.hasRequired then [unsetField.name] else [] := by
  have hfields : b.builderFields.map (·.1.name) = b.members.map Member.label ++
      if b.hasRequired then [unsetField.name] else [] := by
    have hmembers : b.members.map ((·.1.name) ∘ Member.builderField) =
        b.members.map Member.label := rfl
    rw [builderFields, List.map_append, List.map_map, hmembers]
    split <;> rfl
  simp only [trackingStructures, List.mem_cons, List.not_mem_nil, or_false] at h
  rcases h with rfl | rfl
  · exact hfields
  · exact hfields

end Blueprint

/-! ## Accepted traits -/

section Accepted

variable {t : TraitDecl} {arguments : Tokens} {o : Options}

theorem TraitDecl.Accepted.tracking_nodup_iff (h : t.Accepted arguments o) {s : Structure}
    (hs : s ∈ (t.blueprint o).trackingStructures) :
    s.fieldNames.Nodup ↔
      ((t.blueprint o).hasRequired = true →
        ∀ m ∈ (t.blueprint o).members, m.label ≠ unsetField.name) := by
  have hlabels : ((t.blueprint o).members.map Member.label).Nodup := h.label_nodup
  rw [Blueprint.fieldNames_of_tracking hs]
  cases (t.blueprint o).hasRequired with
  | false => simpa using hlabels
  | true =>
    have hdisjoint : unsetField.name ∉ (t.blueprint o).members.map Member.label ↔
        ∀ m ∈ (t.blueprint o).members, m.label ≠ unsetField.name := by
      simp
    rw [if_pos rfl, ← List.concat_eq_append, List.nodup_concat, hdisjoint]
    constructor
    · intro hboth _
      exact hboth.1
    · intro hfree
      exact ⟨hfree rfl, hlabels⟩

/-- The fields of every structure that is generated for an accepted trait have pairwise different
names, raw marks aside, exactly if no getter is named like the field of the unset properties where
there is such a field. -/
theorem fieldNames_nodup_iff (h : t.Accepted arguments o) :
    (∀ s ∈ (t.blueprint o).structures, s.fieldNames.Nodup) ↔
      ((t.blueprint o).hasRequired = true →
        ∀ m ∈ (t.blueprint o).members, m.label ≠ unsetField.name) := by
  constructor
  · intro hall
    have hbuilder : (t.blueprint o).builderStructure ∈ (t.blueprint o).trackingStructures :=
      List.mem_cons_self
    exact (h.tracking_nodup_iff hbuilder).mp
      (hall _ (Blueprint.mem_structures.mpr (Or.inr (Or.inl hbuilder))))
  · intro hfree s hs
    rcases Blueprint.mem_structures.mp hs with ⟨-, rfl⟩ | hs | hs
    · exact List.nodup_singleton _
    · exact (h.tracking_nodup_iff hs).mpr hfree
    · rw [Blueprint.fieldNames_of_plain hs]
      exact h.label_nodup

end Accepted

/-! ## A getter named like the additional field -/

/-- The optional getter `_unset_properties`. -/
def spareTrait : TraitDecl :=
  .ofGetters (plain "T") [(unsetField, .applied (.ofIdent (plain "Option")) [.punct '<' false]
    .number [.punct '>' false])]

theorem spareTrait_fieldNames : spareTrait.Accepted [] {} ∧
    ∀ s ∈ (spareTrait.blueprint {}).structures, s.fieldNames.Nodup := by
  have h : spareTrait.Accepted [] {} := TraitDecl.accepted_ofGetters (by decide)
  -- nothing is required, so there is no additional field
  exact ⟨h, (fieldNames_nodup_iff h).mpr (by decide)⟩

/-- The required getter `_unset_properties`. -/
def takenTrait : TraitDecl := .ofGetters (plain "T") [(unsetField, .number)]

/-- The required getter `_unset_properties` is accepted, and the builder has two fields of this
name. -/
theorem takenTrait_fieldNames_not_nodup : takenTrait.Accepted [] {} ∧
    expand [] takenTrait = .ok (takenTrait.strip.tokens ++ (takenTrait.blueprint {}).tokens) ∧
    (takenTrait.blueprint {}).builderStructure ∈ (takenTrait.blueprint {}).structures ∧
    ¬ (takenTrait.blueprint {}).builderStructure.fieldNames.Nodup := by
  have h : takenTrait.Accepted [] {} := TraitDecl.accepted_ofGetters (by decide)
  refine ⟨h, TraitDecl.expand_of_valid h (by decide), ?_, by decide⟩
  exact Blueprint.mem_structures.mpr (Or.inr (Or.inl List.mem_cons_self))

end TraitBuilder
