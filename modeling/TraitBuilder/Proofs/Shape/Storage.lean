import TraitBuilder.Proofs.Shape.Wrappers

/-!
# Stored types

The generated types have no lifetimes, and so a field of theirs can only be of a type that is owned
and sized: no reference but a shared one with the lifetime `'static`, neither text nor a slice.  A
stored type is of this kind unless it comes from one of four kinds of types that are handed out.

* `Ty.Storable`: the type can be that of a field.
* `Ty.Escapes`: a type that is handed out and stored although it, or what it refers to, cannot be.
* `Shape.storable_iff_of_ofReturnType?`: these are all exceptions.
-/

namespace TraitBuilder

namespace Ty

/-! ## Types of fields -/

/-- A type without lifetimes can have a field of this type. -/
structure Storable (ty : Ty) : Prop where
  /-- Behind its wrappers the type is no reference, except a shared static one. -/
  owned : ∀ lifetime isMut referent, ty.unwrapped = .reference lifetime isMut referent →
    isMut = false ∧ ∃ x, lifetime = some x ∧ x.is "static" = true
  /-- It is not `str`, however the name is written. -/
  notText : ∀ x, ty.unwrapped = .ofIdent x → x.name ≠ "str"
  notSlice : ∀ element, ty.unwrapped ≠ .slice element

/-- Whether the type is `str` behind its wrappers, its name raw or not. -/
def isText (ty : Ty) : Bool := ty.bareName?.any (·.name == "str")

theorem isBorrow_eq_false_iff {ty : Ty} :
    ty.isBorrow = false ↔ ∀ lifetime isMut referent,
      ty.unwrapped = .reference lifetime isMut referent →
        isMut = false ∧ ∃ x, lifetime = some x ∧ x.is "static" = true := by
  unfold isBorrow
  split
  · rename_i lifetime isMut referent hty
    cases lifetime <;> simp [hty]
  · rename_i hty
    exact ⟨fun _ lifetime isMut referent h => absurd h (hty lifetime isMut referent), fun _ => rfl⟩

theorem isText_eq_false_iff {ty : Ty} :
    ty.isText = false ↔ ∀ x, ty.unwrapped = .ofIdent x → x.name ≠ "str" := by
  simp only [← bareName?_eq_some_iff, isText]
  cases ty.bareName? <;> simp

theorem isSlice_eq_false_iff {ty : Ty} :
    ty.isSlice = false ↔ ∀ element, ty.unwrapped ≠ .slice element := by
  unfold isSlice
  split
  · rename_i element hty
    simp [hty]
  · rename_i hty
    exact ⟨fun _ => hty, fun _ => rfl⟩

theorem storable_iff {ty : Ty} :
    ty.Storable ↔ ty.isBorrow = false ∧ ty.isText = false ∧ ty.isSlice = false := by
  rw [isBorrow_eq_false_iff, isText_eq_false_iff, isSlice_eq_false_iff]
  exact ⟨fun h => ⟨h.owned, h.notText, h.notSlice⟩, fun h => ⟨h.1, h.2.1, h.2.2⟩⟩

theorem storable_ownedText : ownedText.Storable := storable_iff.mpr ⟨rfl, rfl, rfl⟩

theorem storable_ownedList (element : Ty) : (ownedList element).Storable :=
  storable_iff.mpr ⟨rfl, rfl, rfl⟩

/-! ## Exceptions -/

/-- A type that is handed out and stored although it, or what it refers to, cannot be a field's. -/
inductive Escapes : Ty → Prop
  /-- Wrappers hide a reference, or a slice behind a reference. -/
  | hidden {ty : Ty} (h : ty.hidden ≠ .nothing) : Escapes ty
  /-- Text or a slice that is handed out by value. -/
  | unsized {ty : Ty} (h : ty.isText = true ∨ ty.isSlice = true) : Escapes ty
  /-- A reference to a reference that would not be stored as it is. -/
  | nested {referent : Ty} (h : referent.isBorrow = true) :
      Escapes (.reference none false referent)
  /-- A reference to text whose name is written raw. -/
  | rawText {referent : Ty} (h : referent.bareName? = some ⟨"str", true⟩) :
      Escapes (.reference none false referent)

theorem escapes_reference_iff {referent : Ty} :
    (Ty.reference none false referent).Escapes ↔
      (referent.isWrapped = true ∧ referent.isSlice = true) ∨ referent.isBorrow = true ∨
        referent.bareName? = some ⟨"str", true⟩ := by
  constructor
  · intro h
    cases h with
    | hidden h =>
      left
      by_contra hseen
      exact h (by simpa [Ty.hidden] using hseen)
    | unsized h => simp [isText, bareName?, isSlice, unwrapped] at h
    | nested h => exact Or.inr (Or.inl h)
    | rawText h => exact Or.inr (Or.inr h)
  · rintro (⟨hwrapped, hslice⟩ | hborrow | hraw)
    · exact .hidden (by simp [Ty.hidden, hwrapped, hslice])
    · exact .nested hborrow
    · exact .rawText hraw

/-- A type other than an elided shared reference escapes if it is no type of a field, unless it is a
reference that is seen. -/
theorem escapes_iff_of_not_elided {ty : Ty} (h : ∀ referent, ty ≠ .reference none false referent) :
    ty.Escapes ↔ (ty.isWrapped = true ∧ ty.isBorrow = true) ∨ ty.isText = true ∨
      ty.isSlice = true := by
  have hhidden : ty.hidden ≠ .nothing ↔ ty.isWrapped = true ∧ ty.isBorrow = true := by
    unfold Ty.hidden
    split
    · exact absurd rfl (h _)
    · simp
  rw [← hhidden]
  constructor
  · intro hescapes
    cases hescapes with
    | hidden hescapes => exact Or.inl hescapes
    | unsized hescapes => exact Or.inr hescapes
    | nested | rawText => exact absurd rfl (h _)
  · rintro (hescapes | hescapes)
    · exact .hidden hescapes
    · exact .unsized hescapes

end Ty

/-! ## Stored types -/

/-- What stores a referent is storable unless the referent is one that is stored unchanged and
cannot be. -/
theorem storable_referentStorage {referent : Ty} :
    (referentStorage referent).1.Storable ↔ ¬ (Ty.reference none false referent).Escapes := by
  rw [Ty.escapes_reference_iff]
  cases hname : referent.bareName? with
  | some x =>
    have hborrow : referent.isBorrow = false := by
      simp [Ty.isBorrow, Ty.bareName?_eq_some_iff.mp hname, Ty.ofIdent]
    have hslice : referent.isSlice = false := by
      simp [Ty.isSlice, Ty.bareName?_eq_some_iff.mp hname, Ty.ofIdent]
    rw [referentStorage_of_bareName hname]
    cases hstr : x.is "str" with
    | true =>
      have hx : x ≠ ⟨"str", true⟩ := by rintro rfl; cases hstr
      simp [Ty.storable_ownedText, hborrow, hslice, hx]
    | false =>
      have hx : x.name = "str" ↔ x = ⟨"str", true⟩ := by
        obtain ⟨name, raw⟩ := x
        cases raw <;> simp_all [Ident.is]
      simp [Ty.storable_iff, Ty.isText, hname, hborrow, hslice, hx]
  | none =>
    by_cases hslice : ∃ element, referent = .slice element
    · obtain ⟨element, rfl⟩ := hslice
      simp [referentStorage_slice, Ty.storable_ownedList, Ty.isWrapped, Ty.isBorrow, Ty.unwrapped]
    · have hwrapped : referent.isSlice = true → referent.isWrapped = true := by
        cases referent <;> simp_all [Ty.isSlice, Ty.isWrapped, Ty.unwrapped]
      have htext : referent.isText = false := by simp [Ty.isText, hname]
      rw [referentStorage_other hname fun element heq => hslice ⟨element, heq⟩, Ty.storable_iff]
      grind

namespace Shape

variable {shape : Shape} {ty : Ty}

theorem storable_iff_of_ofHandedOut? {asIs : Shape} {borrowed : Bool → Shape} {handed : Ty}
    (h : ofHandedOut? asIs borrowed handed = .ok (shape, ty)) :
    ty.Storable ↔ ¬ handed.Escapes := by
  by_cases helided : ∃ referent, handed = .reference none false referent
  · obtain ⟨referent, rfl⟩ := helided
    cases h
    exact storable_referentStorage
  · rw [Ty.escapes_iff_of_not_elided fun referent heq => helided ⟨referent, heq⟩]
    cases hborrow : handed.isBorrow with
    | false =>
      rw [ofHandedOut?_of_not_isBorrow hborrow] at h
      cases h
      simp [Ty.storable_iff, hborrow]
    | true =>
      cases hwrapped : handed.isWrapped with
      | true =>
        rw [ofHandedOut?_of_isWrapped hwrapped] at h
        cases h
        simp [Ty.storable_iff, hborrow]
      -- a reference that is seen and not stored as it is has no shape
      | false =>
        obtain ⟨lifetime, isMut, referent, rfl⟩ := Ty.reference_of_isBorrow hborrow hwrapped
        have hmarked : ¬ (lifetime = none ∧ isMut = false) := by
          rintro ⟨rfl, rfl⟩
          exact helided ⟨referent, rfl⟩
        have hnone := outline_of_marked hborrow asIs borrowed hmarked
        rw [h] at hnone
        cases hnone

/-- What is stored of a return type that has a shape can be the type of a field, unless what is
handed out is one of the exceptions. -/
theorem storable_iff_of_ofReturnType? {r : Ty} (h : ofReturnType? r = .ok (shape, ty)) :
    ty.Storable ↔ ¬ r.handedOut.Escapes := by
  cases hoption : r.isOption with
  | false =>
    rw [ofReturnType?_of_not_isOption hoption] at h
    rw [Ty.handedOut_of_not_isOption hoption]
    exact storable_iff_of_ofHandedOut? h
  | true =>
    cases hargument : r.firstArgument? with
    | none =>
      rw [ofReturnType?_of_no_argument hoption hargument] at h
      cases h
    | some argument =>
      rw [ofReturnType?_of_argument hoption hargument] at h
      rw [Ty.handedOut_of_argument hoption hargument]
      exact storable_iff_of_ofHandedOut? h

end Shape

/-! ## Types that are stored -/

/-- The type `str`. -/
def Ty.text : Ty := .ofIdent (Code.plain "str")

/-- Text behind a reference is stored as owned text.  Of a reference to a reference the latter is
stored. -/
theorem text_storable :
    Shape.ofReturnType? (.referenceTo .text) = .ok (.ref, .ownedText) ∧ Ty.ownedText.Storable ∧
    Shape.ofReturnType? (.referenceTo (.referenceTo .text)) = .ok (.ref, .referenceTo .text) ∧
      ¬ (Ty.referenceTo .text).Storable := by
  have htext : Shape.ofReturnType? (.referenceTo .text) = .ok (.ref, .ownedText) := rfl
  have hnested : Shape.ofReturnType? (.referenceTo (.referenceTo .text)) =
      .ok (.ref, .referenceTo .text) := rfl
  refine ⟨htext, ?_, hnested, fun h => ?_⟩
  · refine (Shape.storable_iff_of_ofReturnType? htext).mpr fun hescapes => ?_
    exact absurd (Ty.escapes_reference_iff.mp hescapes) (by decide)
  · exact (Shape.storable_iff_of_ofReturnType? hnested).mp h (.nested rfl)

/-- A slice in parentheses, a reference behind a reference and a mutable reference in parentheses
are stored as they are, and none of them can be the type of a field. -/
theorem wrappedSlice_not_storable :
    (Shape.ofReturnType? (.referenceTo (.paren (.slice .number))) =
        .ok (.ref, .paren (.slice .number)) ∧ ¬ (Ty.paren (.slice .number)).Storable) ∧
    (Shape.ofReturnType? (.referenceTo (.referenceTo .number)) = .ok (.ref, .referenceTo .number) ∧
      ¬ (Ty.referenceTo .number).Storable) ∧
    Shape.ofReturnType? (.paren (.reference none true .number)) =
        .ok (.owned, .paren (.reference none true .number)) ∧
      ¬ (Ty.paren (.reference none true .number)).Storable := by
  refine ⟨⟨rfl, fun h => h.notSlice _ rfl⟩, ⟨rfl, fun h => ?_⟩, rfl, fun h => ?_⟩
  · obtain ⟨-, x, hlifetime, -⟩ := h.owned _ _ _ rfl
    cases hlifetime
  · cases (h.owned _ _ _ rfl).1

end TraitBuilder
