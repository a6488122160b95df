import TraitBuilder.Proofs.Naming.Accepted
import TraitBuilder.Proofs.Text.Words

/-!
# Variants of the required properties

The enumeration of the required properties has one variant for each, named by the label in camel
case.  The checks of a trait see to it that labels differ, but different labels may have the same
name in camel case, and one keyword is such a name.

* `isName_variantName_iff`: `Self` is the only keyword among the names in camel case.
* `variants_distinct_iff`: the variants of an accepted trait are different and no keyword exactly if
  camel case keeps the required labels apart and no label reads `self`.
-/

namespace TraitBuilder

open Code Text Text.CamelCase

/-! ## Keywords -/

/-- The keywords other than `Self` begin with a lowercase letter or an underscore. -/
theorem keywords_head : ∀ k ∈ Syntax.keywords, k = "Self" ∨
    k.toList.head?.any (fun c => c.isLower || c == '_') = true := by
  decide

theorem head_upperCamelCase_not_lower {label : String} {d : Char}
    (h : (upperCamelCase label).toList.head? = some d) : d.isLower = false ∧ d ≠ '_' := by
  rw [upperCamelCase_head?] at h
  obtain ⟨c, hc, hd⟩ := Option.bind_eq_some_iff.mp h
  exact head_upper_not_lower hd (List.of_mem_filter (List.mem_of_head? hc))

/-- A label reads `self` if it consists of this one word, in some spelling. -/
def ReadsSelf (label : String) : Prop := ∃ w ∈ selfWords, words label.toList = [w]

theorem isName_variantName_iff (label : String) :
    Syntax.isName (variantName label) = true ↔ ¬ ReadsSelf label := by
  unfold ReadsSelf
  rw [← upperCamelCase_eq_self_iff]
  constructor
  · intro hname hself
    rw [variantName, hself] at hname
    exact absurd hname (by decide)
  · intro hself
    simp only [Syntax.isName, variantName, Bool.false_or, Bool.not_eq_true', ← Bool.not_eq_true,
      List.contains_iff_mem]
    intro hmem
    rcases keywords_head _ hmem with heq | hhead
    · exact hself heq
    · cases hd : (upperCamelCase label).toList.head? with
      | none => simp [hd] at hhead
      | some d =>
        obtain ⟨hlower, hunderscore⟩ := head_upperCamelCase_not_lower hd
        simp [hd, hlower, hunderscore] at hhead

/-! ## Distinct variants -/

namespace TraitDecl.Accepted

variable {t : TraitDecl} {arguments : Tokens} {o : Options}

theorem required_label_nodup (h : t.Accepted arguments o) :
    ((t.blueprint o).required.map Member.label).Nodup :=
  (List.filter_sublist.map Member.label).nodup h.label_nodup

theorem variants_nodup_iff (h : t.Accepted arguments o) :
    ((t.blueprint o).required.map (·.property.variant)).Nodup ↔
      ∀ m ∈ (t.blueprint o).required, ∀ m' ∈ (t.blueprint o).required,
        upperCamelCase m.label = upperCamelCase m'.label → m.label = m'.label := by
  have hmap : (t.blueprint o).required.map (·.property.variant) =
      ((t.blueprint o).required.map Member.label).map variantName := by
    simp [Property.variant, Member.label]
  rw [hmap, List.nodup_map_iff_inj_on h.required_label_nodup]
  simp only [List.forall_mem_map, variantName, Ident.mk.injEq, and_true]

end TraitDecl.Accepted

/-- The variants of an accepted trait are pairwise different and no keywords exactly if camel case
gives different required labels different names and no required label reads `self`. -/
theorem variants_distinct_iff {t : TraitDecl} {arguments : Tokens} {o : Options}
    (h : t.Accepted arguments o) :
    (((t.blueprint o).propertyVariants.map (·.2)).Nodup ∧
        ∀ x ∈ (t.blueprint o).propertyVariants.map (·.2), Syntax.isName x = true) ↔
      (∀ m ∈ (t.blueprint o).required, ∀ m' ∈ (t.blueprint o).required,
        upperCamelCase m.label = upperCamelCase m'.label → m.label = m'.label) ∧
        ∀ m ∈ (t.blueprint o).required, ¬ ReadsSelf m.label := by
  rw [Blueprint.name_of_propertyVariants, h.variants_nodup_iff]
  have hkeyword : (∀ x ∈ (t.blueprint o).required.map (·.property.variant),
      Syntax.isName x = true) ↔ ∀ m ∈ (t.blueprint o).required, ¬ ReadsSelf m.label := by
    rw [List.forall_mem_map]
    exact forall₂_congr fun m _ => isName_variantName_iff m.label
  rw [hkeyword]

/-- Getters of the names `a_b` and `aB`. -/
def camelTrait : TraitDecl :=
  .ofGetters (plain "T") [(plain "a_b", .number), (plain "aB", .number)]

theorem camelTrait_accepted : camelTrait.Accepted [] {} :=
  TraitDecl.accepted_ofGetters (by decide)

theorem camelTrait_variants_distinct_iff : camelTrait.Accepted [] {} ∧
    ((((camelTrait.blueprint {}).propertyVariants.map (·.2)).Nodup ∧
        ∀ x ∈ (camelTrait.blueprint {}).propertyVariants.map (·.2), Syntax.isName x = true) ↔
      (∀ m ∈ (camelTrait.blueprint {}).required, ∀ m' ∈ (camelTrait.blueprint {}).required,
        upperCamelCase m.label = upperCamelCase m'.label → m.label = m'.label) ∧
        ∀ m ∈ (camelTrait.blueprint {}).required, ¬ ReadsSelf m.label) :=
  ⟨camelTrait_accepted, variants_distinct_iff camelTrait_accepted⟩

/-- The getters `a_b` and `aB` are accepted, and both have the variant `AB`. -/
theorem camelTrait_variants_not_nodup : expand [] camelTrait =
      .ok (camelTrait.strip.tokens ++ (camelTrait.blueprint {}).tokens) ∧
    ¬ ((camelTrait.blueprint {}).propertyVariants.map (·.2)).Nodup := by
  refine ⟨TraitDecl.expand_of_valid camelTrait_accepted ?_, ?_⟩ <;> decide

end TraitBuilder
