import TraitBuilder.Proofs.Naming.Collision

/-!
# Accepted traits

A trait is accepted if its arguments can be read, it is not generic, and nothing is wrong with its
items.  Its expansion is then the generated code after the trait itself, unless a label cannot be
tracked.

* `TraitDecl.expand_of_accepted`: what the expansion of an accepted trait is.
* `TraitDecl.mem_members_iff`: the members are the getters that were judged to be properties.
* `TraitDecl.Accepted.label_nodup`: the members of an accepted trait have different labels.
* `TraitDecl.ofGetters`: traits of nothing but plain getters, as examples are made of.
-/

namespace TraitBuilder

/-- Nothing is wrong with the trait or with the arguments, which give the options. -/
structure TraitDecl.Accepted (t : TraitDecl) (arguments : Tokens) (o : Options) : Prop where
  options : Options.ofTokens? arguments = .ok o
  plain : t.generics.isPlain = true
  faultless : t.problems = []

namespace TraitDecl

theorem expand_of_accepted {t : TraitDecl} {arguments : Tokens} {o : Options}
    (h : t.Accepted arguments o) :
    expand arguments t =
      match (t.blueprint o).tokens? with
      | .error invalid => .error (.untrackable invalid)
      | .ok code => .ok (t.strip.tokens ++ code) := by
  have hexpand := expand_of_options h.options h.plain
  rw [continuation_of_faultless h.faultless] at hexpand
  exact hexpand

theorem accepted_of_untrackable {t : TraitDecl} {arguments : Tokens} {invalid : Ident.Invalid}
    (h : expand arguments t = .error (.untrackable invalid)) :
    ∃ o, t.Accepted arguments o ∧ (t.blueprint o).tokens? = .error invalid := by
  unfold expand at h
  split at h
  · cases h
  · rename_i o ho
    split at h
    · cases h
    · rename_i hplain
      split at h
      · rename_i e he
        cases h
        unfold continuation at he
        split at he
        · rename_i hp
          exact ⟨o, ⟨ho, by simpa using hplain, List.isEmpty_iff.mp hp⟩, he⟩
        · cases he
      · cases h

/-! ## Members and getters -/

end TraitDecl

namespace Inventory

theorem mem_properties_ofGetter {attributes : List Attribute} {s : Signature} {p : Property} :
    p ∈ (ofGetter attributes s).properties ↔
      Property.ofGetter? s (keptAttributes attributes) = .ok p := by
  cases h : Property.ofGetter? s (keptAttributes attributes) with
  | error fault => simp [ofGetter, h]
  | ok q => simp [ofGetter, h, eq_comm]

theorem mem_properties_ofItem {item : TraitItem} {p : Property} :
    p ∈ (ofItem item).properties ↔
      ∃ attributes s, item = .method attributes s none ∧
        Property.ofGetter? s (keptAttributes attributes) = .ok p := by
  unfold ofItem
  split
  · simp [mem_properties_ofGetter]
  all_goals simp_all

theorem mem_properties_ofItems {items : List TraitItem} {p : Property} :
    p ∈ (ofItems items).properties ↔
      ∃ attributes s, .method attributes s none ∈ items ∧
        Property.ofGetter? s (keptAttributes attributes) = .ok p := by
  induction items with
  | nil => simp [ofItems]
  | cons item rest ih =>
    simp only [ofItems, append_def, List.mem_append, mem_properties_ofItem, ih, List.mem_cons]
    constructor
    · rintro (⟨attributes, s, rfl, hp⟩ | ⟨attributes, s, hmem, hp⟩)
      · exact ⟨attributes, s, Or.inl rfl, hp⟩
      · exact ⟨attributes, s, Or.inr hmem, hp⟩
    · rintro ⟨attributes, s, hitem | hmem, hp⟩
      · exact Or.inl ⟨attributes, s, hitem.symm, hp⟩
      · exact Or.inr ⟨attributes, s, hmem, hp⟩

end Inventory

theorem Property.isReserved_of_ofGetter? {s : Signature} {attributes : List Attribute}
    {p : Property} (h : Property.ofGetter? s attributes = .ok p) :
    reservedNames.any p.name.is = false := by
  rw [Property.name_of_ofGetter? h]
  unfold Property.ofGetter? Signature.isReserved at h
  grind

namespace TraitDecl

/-- A member is a getter that is a property, in the part that its type and the default values of the
trait give it. -/
theorem mem_members_iff {t : TraitDecl} {m : Member} :
    m ∈ t.members ↔
      ∃ attributes s p, .method attributes s none ∈ t.items ∧
        Property.ofGetter? s (keptAttributes attributes) = .ok p ∧
        m = classify t.inventory.invocations p := by
  simp only [members, List.mem_map, inventory, Inventory.mem_properties_ofItems]
  constructor
  · rintro ⟨p, ⟨attributes, s, hmem, hp⟩, rfl⟩
    exact ⟨attributes, s, p, hmem, hp, rfl⟩
  · rintro ⟨attributes, s, p, hmem, hp, rfl⟩
    exact ⟨p, ⟨attributes, s, hmem, hp⟩, rfl⟩

theorem name_not_reserved {t : TraitDecl} {m : Member} (h : m ∈ t.members) :
    reservedNames.any m.name.is = false := by
  obtain ⟨attributes, s, p, -, hp, rfl⟩ := mem_members_iff.mp h
  simpa [Member.name] using Property.isReserved_of_ofGetter? hp

namespace Accepted

variable {t : TraitDecl} {arguments : Tokens} {o : Options}

theorem collisions_eq_nil (h : t.Accepted arguments o) : collisions t.members = [] :=
  (List.append_eq_nil_iff.mp h.faultless).2

theorem methodNames_nodup (h : t.Accepted arguments o) : (methodNames t.members).Nodup :=
  (collisions_eq_nil_iff _).mp h.collisions_eq_nil

theorem label_nodup (h : t.Accepted arguments o) : (t.members.map Member.label).Nodup :=
  label_nodup_of_collisions_eq_nil h.collisions_eq_nil

end Accepted

end TraitDecl

/-! ## Traits of plain getters -/

/-- The getter `fn name(&self) -> ty`. -/
def Signature.getter (name : Ident) (ty : Ty) : Signature where
  isConst := false
  isAsync := false
  isUnsafe := false
  convention := none
  name := name
  generics := ⟨[], none⟩
  parameters := [.receiver [] true none false none]
  trailingComma := false
  variadic := none
  output := some ty

/-- The trait of the given name and getters. -/
def TraitDecl.ofGetters (name : Ident) (getters : List (Ident × Ty)) : TraitDecl where
  attributes := []
  visibility := []
  isUnsafe := false
  isAuto := false
  name := name
  generics := ⟨[], none⟩
  supertraits := []
  trailingPlus := false
  items := getters.map fun (getter, ty) => .method [] (.getter getter ty) none

/-- The type `u32`. -/
def Ty.number : Ty := .path (.ofIdent ⟨"u32", false⟩) []

/-- A trait of plain getters, without arguments, is accepted if no getter is at fault. -/
theorem TraitDecl.accepted_ofGetters {name : Ident} {getters : List (Ident × Ty)}
    (h : (TraitDecl.ofGetters name getters).problems = []) :
    (TraitDecl.ofGetters name getters).Accepted [] {} :=
  ⟨rfl, rfl, h⟩

theorem TraitDecl.expand_of_valid {t : TraitDecl} {arguments : Tokens} {o : Options}
    (h : t.Accepted arguments o) (hvalid : (t.blueprint o).invalidVariant? = none) :
    expand arguments t = .ok (t.strip.tokens ++ (t.blueprint o).tokens) := by
  rw [expand_of_accepted h, Blueprint.tokens?, hvalid]

end TraitBuilder
