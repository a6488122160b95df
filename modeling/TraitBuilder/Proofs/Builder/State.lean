import Mathlib.Data.List.Nodup
import TraitBuilder.Proofs.Meaning.Calls

/-!
# States of a builder

A builder has a field for each member, which looks as the member is stored, and perhaps the set of
the unset properties.  The set is right if it holds the variants of exactly those required members
whose field has no value, in the order of their declaration.

* `Blueprint.Sound`: the fields look as they should, and the set is right.
* `Sound.set_value`, `Sound.set_required`: fields that change so that the set stays right.
* `Sound.set_list`, `Sound.set_optional`, `Sound.set_default`: the same by the part of the member.
* `Updates.set_field`, `Updates.set_unset`: what happens to a single member.
-/

namespace TraitBuilder

open Code Meaning

variable {D : Type}

/-- The value looks as the builder stores the member, as far as the generated code depends on it. -/
def Member.Holds (m : Member) (v : Value D) : Prop :=
  match m.role with
  | .single none => v.IsOption
  | .list _ _ => v.IsList
  | _ => True

theorem Member.isRequired_iff {m : Member} : m.isRequired = true ↔ m.role = .single none := by
  unfold isRequired need
  split <;> simp_all

theorem Member.isRequired_eq_false {m : Member} (h : m.role ≠ .single none) :
    m.isRequired = false := by
  rw [← Bool.not_eq_true, Member.isRequired_iff]
  exact h

theorem Member.holds_list {m : Member} {element : Ty} {e : Option Expr}
    (hrole : m.role = .list element e) (vs : List (Value D)) : m.Holds (.list vs) := by
  rw [Holds, hrole]
  exact ⟨vs, rfl⟩

theorem Member.holds_optional {m : Member} {e : Option Expr} (hrole : m.role = .optional e)
    (v : Value D) : m.Holds v := by
  simp [Holds, hrole]

theorem Member.holds_default {m : Member} {e : Expr} (hrole : m.role = .single (some e))
    (v : Value D) : m.Holds v := by
  simp [Holds, hrole]

namespace Blueprint

/-- The fields are those of the builder, and each looks as its member is stored. -/
structure Laid (b : Blueprint) (fs : Fields D) : Prop where
  names : fs.map (·.1) = b.builderFields.map (·.1)
  members : ∀ m ∈ b.members, ∃ v, fs.get? m.name = some v ∧ m.Holds v

/-- Whether the member has no value. -/
def lacks (fs : Fields D) (m : Member) : Bool :=
  match fs.get? m.name with
  | some .absent => true
  | _ => false

/-- The variants of the required members without a value. -/
def unsetIn (b : Blueprint) (fs : Fields D) : List Ident :=
  (b.required.filter (lacks fs)).map (·.property.variant)

/-- The set of the unset properties is right. -/
def Tracked (b : Blueprint) (fs : Fields D) : Prop :=
  b.hasRequired = true → fs.get? unsetField = some (.set (b.unsetIn fs))

/-- The state of a builder is as it should be. -/
structure Sound (b : Blueprint) (fs : Fields D) : Prop extends b.Laid fs where
  tracked : b.Tracked fs

/-! ## Names -/

theorem lacks_iff {fs : Fields D} {m : Member} :
    lacks fs m = true ↔ fs.get? m.name = some .absent := by
  unfold lacks
  split <;> simp_all

theorem mem_required {b : Blueprint} {m : Member} :
    m ∈ b.required ↔ m ∈ b.members ∧ m.isRequired = true := by
  simp [required]

theorem hasRequired_of_mem {b : Blueprint} {m : Member} (h : m ∈ b.required) :
    b.hasRequired = true := by
  rw [hasRequired_iff]
  exact List.ne_nil_of_mem h

/-- The names of the builder's fields differ, raw marks aside. -/
def DistinctFields (b : Blueprint) : Prop := (b.builderFields.map (·.1.name)).Nodup

namespace DistinctFields

variable {b : Blueprint}

theorem members_nodup (h : b.DistinctFields) : (b.members.map (·.name.name)).Nodup := by
  rw [DistinctFields, builderFields, List.map_append, List.map_map] at h
  exact (List.nodup_append'.mp h).1

theorem eq_of_name (h : b.DistinctFields) {m m' : Member} (hm : m ∈ b.members)
    (hm' : m' ∈ b.members) (hname : m.name.name = m'.name.name) : m = m' :=
  List.inj_on_of_nodup_map h.members_nodup hm hm' hname

theorem name_ne_unsetField (h : b.DistinctFields) (hreq : b.hasRequired = true) {m : Member}
    (hm : m ∈ b.members) : m.name.name ≠ unsetField.name := by
  rw [DistinctFields, builderFields, hreq, if_pos rfl, List.map_append, List.map_map] at h
  intro heq
  refine (List.nodup_append'.mp h).2.2 (List.mem_map.mpr ⟨m, hm, rfl⟩) ?_
  simp only [List.map_cons, List.map_nil, List.mem_singleton]
  exact heq

end DistinctFields

namespace WellNamed

variable {b : Blueprint}

theorem distinctFields (h : b.WellNamed) : b.DistinctFields := h.fields

theorem eq_of_variant (h : b.WellNamed) {m m' : Member} (hm : m ∈ b.required)
    (hm' : m' ∈ b.required) (hname : m.property.variant = m'.property.variant) : m = m' :=
  List.inj_on_of_nodup_map h.variants hm hm' (congrArg Ident.name hname)

end WellNamed

/-! ## Setting fields -/

section Setting

variable {b : Blueprint} {fs : Fields D} {m : Member}

theorem Laid.get?_ne_none (h : b.Laid fs) (hm : m ∈ b.members) : fs.get? m.name ≠ none := by
  obtain ⟨v, hv, -⟩ := h.members m hm
  simp [hv]

theorem Laid.unset_ne_none (h : b.Laid fs) (hreq : b.hasRequired = true) :
    fs.get? unsetField ≠ none := by
  intro hnone
  refine Fields.get?_eq_none_iff.mp hnone ?_
  have hmem : unsetField ∈ fs.map (·.1) := by simp [h.names, builderFields, hreq]
  obtain ⟨f, hf, hname⟩ := List.mem_map.mp hmem
  exact List.mem_map.mpr ⟨f, hf, by rw [hname]⟩

theorem lacks_set_of_ne {x : Ident} {v : Value D} (h : m.name.name ≠ x.name) :
    lacks (fs.set x v) m = lacks fs m := by
  unfold lacks
  rw [Fields.get?_set_of_ne h]

theorem Laid.set_member (hn : b.DistinctFields) (h : b.Laid fs) (hm : m ∈ b.members) {v : Value D}
    (hv : m.Holds v) : b.Laid (fs.set m.name v) where
  names := by rw [Fields.map_fst_set, h.names]
  members := by
    intro m' hm'
    by_cases hname : m'.name.name = m.name.name
    · obtain rfl := hn.eq_of_name hm' hm hname
      exact ⟨v, Fields.get?_set_self (h.get?_ne_none hm) v, hv⟩
    · obtain ⟨w, hw, hholds⟩ := h.members m' hm'
      exact ⟨w, by rw [Fields.get?_set_of_ne hname, hw], hholds⟩

theorem Laid.set_unset (hn : b.DistinctFields) (hreq : b.hasRequired = true) (h : b.Laid fs)
    (v : Value D) : b.Laid (fs.set unsetField v) where
  names := by rw [Fields.map_fst_set, h.names]
  members := by
    intro m' hm'
    obtain ⟨w, hw, hholds⟩ := h.members m' hm'
    exact ⟨w, by rw [Fields.get?_set_of_ne (hn.name_ne_unsetField hreq hm'), hw], hholds⟩

theorem unsetIn_congr {gs : Fields D} (h : ∀ m ∈ b.required, lacks gs m = lacks fs m) :
    b.unsetIn gs = b.unsetIn fs := by
  unfold unsetIn
  rw [List.filter_congr h]

/-- A member that is not required does not touch the set. -/
theorem Sound.set_value (hn : b.WellNamed) (h : b.Sound fs) (hm : m ∈ b.members)
    (hopt : m.isRequired = false) {v : Value D} (hv : m.Holds v) : b.Sound (fs.set m.name v) where
  toLaid := h.toLaid.set_member hn.distinctFields hm hv
  tracked := by
    intro hreq
    have hsame : b.unsetIn (fs.set m.name v) = b.unsetIn fs := by
      refine unsetIn_congr fun m' hm' => lacks_set_of_ne fun hname => ?_
      obtain ⟨hmem, hreq'⟩ := mem_required.mp hm'
      rw [hn.distinctFields.eq_of_name hmem hm hname, hopt] at hreq'
      cases hreq'
    rw [Fields.get?_set_of_ne (hn.distinctFields.name_ne_unsetField hreq hm).symm, hsame,
      h.tracked hreq]

theorem Sound.set_list (hn : b.WellNamed) (h : b.Sound fs) (hm : m ∈ b.members) {element : Ty}
    {e : Option Expr} (hrole : m.role = .list element e) (vs : List (Value D)) :
    b.Sound (fs.set m.name (.list vs)) :=
  h.set_value hn hm (Member.isRequired_eq_false (by simp [hrole])) (Member.holds_list hrole vs)

theorem Sound.set_optional (hn : b.WellNamed) (h : b.Sound fs) (hm : m ∈ b.members)
    {e : Option Expr} (hrole : m.role = .optional e) (v : Value D) :
    b.Sound (fs.set m.name v) :=
  h.set_value hn hm (Member.isRequired_eq_false (by simp [hrole])) (Member.holds_optional hrole v)

theorem Sound.set_default (hn : b.WellNamed) (h : b.Sound fs) (hm : m ∈ b.members) {e : Expr}
    (hrole : m.role = .single (some e)) (v : Value D) : b.Sound (fs.set m.name v) :=
  h.set_value hn hm (Member.isRequired_eq_false (by simp [hrole])) (Member.holds_default hrole v)

/-- Setting a required member takes its variant out of what is unset. -/
theorem unsetIn_set_required (hn : b.WellNamed) (h : b.Laid fs) (hm : m ∈ b.required)
    (v : Value D) : b.unsetIn (fs.set m.name (.present v)) =
      (b.unsetIn fs).filter (· ≠ m.property.variant) := by
  have hmem := (mem_required.mp hm).1
  unfold unsetIn
  rw [List.filter_map, List.filter_filter]
  refine congrArg _ (List.filter_congr fun m' hm' => ?_)
  by_cases hname : m'.name.name = m.name.name
  · obtain rfl := hn.distinctFields.eq_of_name (mem_required.mp hm').1 hmem hname
    have hset : lacks (fs.set m'.name (.present v)) m' = false := by
      unfold lacks
      rw [Fields.get?_set_self (h.get?_ne_none hmem)]
    simp [hset]
  · have hvariant : m'.property.variant ≠ m.property.variant := by
      intro heq
      exact hname (by rw [hn.eq_of_variant hm' hm heq])
    simp [lacks_set_of_ne hname, hvariant]

/-- A required member is set, and its variant is taken out of the set. -/
theorem Sound.set_required (hn : b.WellNamed) (h : b.Sound fs) (hm : m ∈ b.required)
    (v : Value D) :
    b.Sound ((fs.set m.name (.present v)).set unsetField
      (.set ((b.unsetIn fs).filter (· ≠ m.property.variant)))) := by
  have hreq := hasRequired_of_mem hm
  have hmem := (mem_required.mp hm).1
  have hholds : m.Holds (.present v : Value D) := by
    rw [Member.Holds, Member.isRequired_iff.mp (mem_required.mp hm).2]
    exact Or.inr ⟨v, rfl⟩
  have hlaid := h.toLaid.set_member hn.distinctFields hmem hholds
  refine ⟨hlaid.set_unset hn.distinctFields hreq _, fun _ => ?_⟩
  have hthere : (fs.set m.name (.present v)).get? unsetField ≠ none := by
    rw [Fields.get?_set_of_ne (hn.distinctFields.name_ne_unsetField hreq hmem).symm,
      h.tracked hreq]
    simp
  rw [Fields.get?_set_self hthere, ← unsetIn_set_required hn h.toLaid hm v]
  refine congrArg _ (congrArg _ (unsetIn_congr fun m' hm' => ?_).symm)
  exact lacks_set_of_ne (hn.distinctFields.name_ne_unsetField hreq (mem_required.mp hm').1)

/-- The member holds the value, and no other member has changed. -/
structure Updates (b : Blueprint) (m : Member) (v : Value D) (fs gs : Fields D) : Prop where
  own : gs.get? m.name = some v
  others : ∀ m' ∈ b.members, m'.name.name ≠ m.name.name → gs.get? m'.name = fs.get? m'.name

theorem Updates.set_field (h : b.Laid fs) (hm : m ∈ b.members) (v : Value D) :
    b.Updates m v fs (fs.set m.name v) where
  own := Fields.get?_set_self (h.get?_ne_none hm) v
  others _ _ hname := Fields.get?_set_of_ne hname fs v

theorem Updates.refl {v : Value D} (h : fs.get? m.name = some v) : b.Updates m v fs fs where
  own := h
  others _ _ _ := rfl

theorem Updates.trans {v w : Value D} {gs hs : Fields D} (h : b.Updates m v fs gs)
    (h' : b.Updates m w gs hs) : b.Updates m w fs hs where
  own := h'.own
  others m' hm' hname := (h'.others m' hm' hname).trans (h.others m' hm' hname)

/-- The set of the unset properties belongs to no member. -/
theorem Updates.set_unset {v : Value D} {gs : Fields D} (hn : b.DistinctFields)
    (hreq : b.hasRequired = true) (hm : m ∈ b.members) (h : b.Updates m v fs gs) (w : Value D) :
    b.Updates m v fs (gs.set unsetField w) where
  own := by rw [Fields.get?_set_of_ne (hn.name_ne_unsetField hreq hm), h.own]
  others m' hm' hname := by
    rw [Fields.get?_set_of_ne (hn.name_ne_unsetField hreq hm'), h.others m' hm' hname]

end Setting

end Blueprint

end TraitBuilder
