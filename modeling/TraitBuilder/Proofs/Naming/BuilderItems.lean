import Mathlib.Data.List.Perm.Basic
import Mathlib.Tactic.Tauto
import TraitBuilder.Proofs.Naming.Accepted

/-!
# Names of the builder's items

The implementation of the builder declares the constructor, the methods of the members, the methods
that every builder has, and perhaps a constant.  A raw identifier and a plain one of the same name
are one name to a compiler, but not to the checks of a trait, which compare identifiers as they are
written; nor do these checks know of the constant.

* `Blueprint.builderItemNames_perm`: which items are declared.
* `Blueprint.Separate`: no getter escapes the checks.
* `builderItemNames_nodup_iff_separate`: the items of an accepted trait have different names exactly
  if no getter escapes.
-/

namespace TraitBuilder

open Code

/-! ## The items -/

namespace Blueprint

/-- The names of the items that the implementation of the builder declares. -/
def builderItemNames (b : Blueprint) : List Ident :=
  b.builderImplementation.items.map AssociatedItem.name

theorem name_of_accessorFunctions (b : Blueprint) :
    (b.accessorFunctions.map (·.name)).Perm (methodNames b.members) := by
  unfold accessorFunctions methodNames
  rw [List.map_flatMap]
  exact List.Perm.flatMap_left _ fun m _ => m.name_of_accessors b

theorem name_of_builderFunctions (b : Blueprint) :
    (b.builderFunctions.map (·.name)).Perm
      (reservedNames.map plain ++ methodNames b.members) := by
  have hnames : b.builderFunctions.map (·.name) =
      plain "new" :: (b.accessorFunctions.map (·.name) ++
        ["build", "merge_from", "merge_from_builder", "clear", "build_partial"].map plain) := by
    simp only [builderFunctions, List.map_append, List.map_cons, List.map_nil,
      b.header_buildFunction.1, b.header_clearFunction.1]
    rfl
  have hreserved : (reservedNames.map plain).Perm (plain "new" ::
      ["build", "merge_from", "merge_from_builder", "clear", "build_partial"].map plain) := by
    decide
  rw [hnames]
  refine List.Perm.trans ?_ (hreserved.append_right _).symm
  refine List.Perm.cons _ (List.perm_append_comm.trans ?_)
  exact b.name_of_accessorFunctions.append_left _

/-- The implementation declares the constant, if it is needed, the methods of every builder, and the
methods of the members. -/
theorem builderItemNames_perm (b : Blueprint) :
    b.builderItemNames.Perm ((if b.needsJoiner then [commaJoiner] else []) ++
      (reservedNames.map plain ++ methodNames b.members)) := by
  have hitems : b.builderItemNames =
      b.joinerItems.map AssociatedItem.name ++ b.builderFunctions.map (·.name) := by
    simp [builderItemNames, builderImplementation, Function.comp_def, AssociatedItem.name]
  have hjoiner : b.joinerItems.map AssociatedItem.name =
      if b.needsJoiner then [commaJoiner] else [] := by
    unfold joinerItems
    split <;> rfl
  rw [hitems, hjoiner]
  exact b.name_of_builderFunctions.append_left _

end Blueprint

/-! ## Names made from labels -/

/-- What precedes a label in the names made from it. -/
def leads : List String := ["set_", "set_nullable_", "clear_", "add_", "add_all_"]

theorem mem_methodNames {members : List Member} {x : Ident} (h : x ∈ methodNames members) :
    (∃ m ∈ members, x = m.name) ∨
      ∃ m ∈ members, ∃ lead ∈ leads, x = m.property.derived lead := by
  obtain ⟨m, hm, hx⟩ := List.mem_flatMap.mp h
  have hcases : x = m.name ∨ ∃ lead ∈ leads, x = m.property.derived lead := by
    unfold Member.builderMethods at hx
    cases hrole : m.role <;> simp only [hrole, List.mem_cons, List.not_mem_nil, or_false] at hx <;>
      simp only [leads, List.exists_mem_cons_iff] <;> tauto
  rcases hcases with hname | hlead
  · exact Or.inl ⟨m, hm, hname⟩
  · exact Or.inr ⟨m, hm, hlead⟩

theorem derived_name_ne {p : Property} {lead name : String} (h : lead ∈ leads)
    (hname : ∀ lead ∈ leads, ¬ lead.toList <+: name.toList) :
    (p.derived lead).name ≠ name := by
  intro heq
  refine hname lead h ⟨p.label.toList, ?_⟩
  rw [← heq, Property.derived, String.toList_append]

theorem derived_not_reserved {p : Property} {lead : String} (h : lead ∈ leads) :
    (p.derived lead).name ∉ reservedNames := by
  intro hmem
  have hnone : ∀ name ∈ reservedNames, ∀ lead ∈ leads, ¬ lead.toList <+: name.toList := by
    decide
  exact derived_name_ne h (hnone _ hmem) rfl

theorem derived_ne_commaJoiner {p : Property} {lead : String} (h : lead ∈ leads) :
    (p.derived lead).name ≠ commaJoiner.name :=
  derived_name_ne h (by decide)

theorem eq_name_of_raw {members : List Member} {x : Ident} (h : x ∈ methodNames members)
    (hraw : x.raw = true) : ∃ m ∈ members, x = m.name := by
  rcases mem_methodNames h with hname | ⟨m, -, lead, -, rfl⟩
  · exact hname
  · cases hraw

/-! ## Getters that escape the checks -/

/-- No getter escapes the checks: none is a raw identifier for the name of a method that every
builder has or that is made for some getter, and none is named like the constant where the constant
is declared. -/
structure Blueprint.Separate (b : Blueprint) : Prop where
  reserved : ∀ m ∈ b.members, m.name.raw = true → m.label ∉ reservedNames
  methods : ∀ m ∈ b.members, m.name.raw = true → plain m.label ∉ methodNames b.members
  joiner : b.needsJoiner = true → ∀ m ∈ b.members, m.label ≠ commaJoiner.name

/-- Different identifiers have different names if no raw one has the name of a plain one. -/
theorem nodup_map_name_iff {xs : List Ident} (h : xs.Nodup) :
    (xs.map (·.name)).Nodup ↔ ∀ x ∈ xs, x.raw = true → plain x.name ∉ xs := by
  rw [List.nodup_map_iff_inj_on h]
  constructor
  · intro hinj x hx hraw hplain
    have heq := hinj x hx _ hplain rfl
    rw [heq] at hraw
    cases hraw
  · intro hfree x hx y hy hname
    obtain ⟨x, xraw⟩ := x
    obtain ⟨y, yraw⟩ := y
    obtain rfl : x = y := hname
    cases xraw <;> cases yraw
    · rfl
    · exact absurd hx (hfree _ hy rfl)
    · exact absurd hy (hfree _ hx rfl)
    · rfl

namespace TraitDecl

/-- A getter has the name of a method of every builder only as a raw identifier. -/
theorem raw_of_label_mem_reserved {t : TraitDecl} {m : Member} (h : m ∈ t.members)
    (hlabel : m.label ∈ reservedNames) : m.name.raw = true := by
  have hno := name_not_reserved h
  rw [List.any_eq_false] at hno
  have := hno _ hlabel
  simpa [Ident.is, Member.label, Property.label, Member.name] using this

end TraitDecl

theorem methodNames_nodup_iff {members : List Member} (h : (methodNames members).Nodup) :
    ((methodNames members).map (·.name)).Nodup ↔
      ∀ m ∈ members, m.name.raw = true → plain m.label ∉ methodNames members := by
  rw [nodup_map_name_iff h]
  constructor
  · intro hfree m hm hraw
    exact hfree m.name (List.mem_flatMap.mpr ⟨m, hm, m.name_mem_builderMethods⟩) hraw
  · intro hfree x hx hraw
    obtain ⟨m, hm, rfl⟩ := eq_name_of_raw hx hraw
    exact hfree m hm hraw

theorem reserved_disjoint_iff {t : TraitDecl} :
    List.Disjoint reservedNames ((methodNames t.members).map (·.name)) ↔
      ∀ m ∈ t.members, m.name.raw = true → m.label ∉ reservedNames := by
  constructor
  · intro hdisj m hm _ hmem
    exact hdisj hmem (List.mem_map.mpr
      ⟨m.name, List.mem_flatMap.mpr ⟨m, hm, m.name_mem_builderMethods⟩, rfl⟩)
  · intro hfree name hname hmem
    obtain ⟨x, hx, rfl⟩ := List.mem_map.mp hmem
    rcases mem_methodNames hx with ⟨m, hm, rfl⟩ | ⟨m, -, lead, hlead, rfl⟩
    · exact hfree m hm (TraitDecl.raw_of_label_mem_reserved hm hname) hname
    · exact derived_not_reserved hlead hname

theorem commaJoiner_not_mem_iff {members : List Member} :
    commaJoiner.name ∉ (methodNames members).map (·.name) ↔
      ∀ m ∈ members, m.label ≠ commaJoiner.name := by
  constructor
  · intro hfree m hm heq
    exact hfree (List.mem_map.mpr
      ⟨m.name, List.mem_flatMap.mpr ⟨m, hm, m.name_mem_builderMethods⟩, heq⟩)
  · intro hfree hmem
    obtain ⟨x, hx, hname⟩ := List.mem_map.mp hmem
    rcases mem_methodNames hx with ⟨m, hm, rfl⟩ | ⟨m, -, lead, hlead, rfl⟩
    · exact hfree m hm hname
    · exact derived_ne_commaJoiner hlead hname

/-- The items of the builder of an accepted trait have pairwise different names, raw marks aside,
exactly if no getter escapes the checks. -/
theorem builderItemNames_nodup_iff_separate {t : TraitDecl} {arguments : Tokens} {o : Options}
    (h : t.Accepted arguments o) :
    (((t.blueprint o).builderItemNames).map (·.name)).Nodup ↔ (t.blueprint o).Separate := by
  have hmembers : (t.blueprint o).members = t.members := rfl
  have hperm := (t.blueprint o).builderItemNames_perm.map (·.name)
  have hreserved : (reservedNames.map plain).map (·.name) = reservedNames := rfl
  rw [hperm.nodup_iff, List.map_append, List.map_append, hreserved, hmembers]
  have hcore : (reservedNames ++ (methodNames t.members).map (·.name)).Nodup ↔
      (∀ m ∈ t.members, m.name.raw = true → m.label ∉ reservedNames) ∧
        ∀ m ∈ t.members, m.name.raw = true → plain m.label ∉ methodNames t.members := by
    rw [List.nodup_append', methodNames_nodup_iff h.methodNames_nodup, reserved_disjoint_iff]
    have hnodup : reservedNames.Nodup := by decide
    tauto
  cases hjoiner : (t.blueprint o).needsJoiner with
  | false =>
    simp only [Bool.false_eq_true, if_false, List.map_nil, List.nil_append, hcore]
    constructor
    · rintro ⟨hres, hmeth⟩
      exact ⟨hres, hmeth, fun hneed => absurd (hjoiner ▸ hneed) (by decide)⟩
    · intro hsep
      exact ⟨hsep.reserved, hsep.methods⟩
  | true =>
    have hfresh : commaJoiner.name ∉ reservedNames := by decide
    simp only [if_true, List.map_cons, List.map_nil, List.singleton_append, List.nodup_cons,
      List.mem_append, hfresh, false_or, commaJoiner_not_mem_iff, hcore]
    constructor
    · rintro ⟨hjoin, hres, hmeth⟩
      exact ⟨hres, hmeth, fun _ => hjoin⟩
    · intro hsep
      exact ⟨hsep.joiner hjoiner, hsep.reserved, hsep.methods⟩

/-- Getters of the names `x`, which has the setter `set_x`, and `r#set_x`. -/
def rawSetterTrait : TraitDecl :=
  .ofGetters (plain "T") [(plain "x", .number), (⟨"set_x", true⟩, .number)]

theorem rawSetterTrait_builderItemNames : rawSetterTrait.Accepted [] {} ∧
    ((((rawSetterTrait.blueprint {}).builderItemNames).map (·.name)).Nodup ↔
      (rawSetterTrait.blueprint {}).Separate) :=
  have h : rawSetterTrait.Accepted [] {} := TraitDecl.accepted_ofGetters (by decide)
  ⟨h, builderItemNames_nodup_iff_separate h⟩

/-- A getter of the name `r#new`. -/
def rawNewTrait : TraitDecl := .ofGetters (plain "T") [(⟨"new", true⟩, .number)]

/-- The getter `r#new` is accepted, and the builder has two methods `new`. -/
theorem rawNewTrait_builderItemNames_not_nodup : rawNewTrait.Accepted [] {} ∧
    expand [] rawNewTrait =
      .ok (rawNewTrait.strip.tokens ++ (rawNewTrait.blueprint {}).tokens) ∧
    ¬ (((rawNewTrait.blueprint {}).builderItemNames).map (·.name)).Nodup := by
  have h : rawNewTrait.Accepted [] {} := TraitDecl.accepted_ofGetters (by decide)
  refine ⟨h, TraitDecl.expand_of_valid h ?_, ?_⟩ <;> decide

end TraitBuilder
