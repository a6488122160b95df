import TraitBuilder.Proofs.Comparison.Slices

/-!
# Wrapped types

A type may stand in parentheses or in an invisible group, and so may the argument of an option and
what a reference refers to.  Names and arguments are looked for behind such wrappers, but a
reference and a slice are only seen where no wrapper stands around them.  So wrappers matter exactly
where they hide one of these: a reference that would not be stored as it is, or a slice behind a
reference.

* `Ty.hidden`: what wrappers hide of a type that is handed out.
* `Shape.outline_ofHandedOut?`: the shape and the stored type, up to wrappers, depend on the type
  without wrappers and on what they hide.
* `Ty.seenAlike_iff`: two types that differ in wrappers are seen alike exactly if the wrappers hide
  the same of both.
-/

namespace TraitBuilder

namespace Ty

/-! ## Without wrappers -/

/-- The type without the parentheses and invisible groups in it. -/
def exposed : Ty → Ty
  | .applied head opening first more => .applied head opening first.exposed more
  | .reference lifetime isMut referent => .reference lifetime isMut referent.exposed
  | .slice element => .slice element.exposed
  | .paren inner => inner.exposed
  | .group inner => inner.exposed
  | ty => ty

/-- Whether the type stands in parentheses or in an invisible group. -/
def isWrapped : Ty → Bool
  | .paren _ | .group _ => true
  | _ => false

/-- Whether the type is, behind its wrappers, a reference that is not stored as it is: only a shared
one with the lifetime `'static` is. -/
def isBorrow (ty : Ty) : Bool :=
  match ty.unwrapped with
  | .reference lifetime isMut _ => isMut || !lifetime.any (·.is "static")
  | _ => false

/-- Whether the type is a slice behind its wrappers. -/
def isSlice (ty : Ty) : Bool :=
  match ty.unwrapped with
  | .slice _ => true
  | _ => false

@[simp] theorem exposed_exposed (ty : Ty) : ty.exposed.exposed = ty.exposed := by
  induction ty with
  | paren inner ih | group inner ih => exact ih
  | applied head opening first more ih => simp [exposed, ih]
  | reference lifetime isMut referent ih => simp [exposed, ih]
  | slice element ih => simp [exposed, ih]
  | path head arguments | soleBound enclosed bound | other tokens => rfl

theorem exposed_unwrapped (ty : Ty) : ty.unwrapped.exposed = ty.exposed := by
  induction ty with
  | paren inner ih | group inner ih => exact ih
  | path | applied | reference | slice | soleBound | other => rfl

@[simp] theorem isWrapped_exposed (ty : Ty) : ty.exposed.isWrapped = false := by
  induction ty with
  | paren inner ih | group inner ih => exact ih
  | path | applied | reference | slice | soleBound | other => rfl

/-! ## What is seen behind wrappers -/

@[simp] theorem lastName?_exposed (ty : Ty) : ty.exposed.lastName? = ty.lastName? := by
  induction ty with
  | paren inner ih | group inner ih => exact ih
  | path | applied | reference | slice | soleBound | other => rfl

@[simp] theorem bareName?_exposed (ty : Ty) : ty.exposed.bareName? = ty.bareName? := by
  induction ty with
  | paren inner ih | group inner ih => exact ih
  | path | applied | reference | slice | soleBound | other => rfl

@[simp] theorem firstArgument?_exposed (ty : Ty) :
    ty.exposed.firstArgument? = ty.firstArgument?.map exposed := by
  induction ty with
  | paren inner ih | group inner ih => exact ih
  | path | applied | reference | slice | soleBound | other => rfl

@[simp] theorem isOption_exposed (ty : Ty) : ty.exposed.isOption = ty.isOption := by
  rw [isOption, lastName?_exposed, isOption]

@[simp] theorem isBorrow_exposed (ty : Ty) : ty.exposed.isBorrow = ty.isBorrow := by
  induction ty with
  | paren inner ih | group inner ih => exact ih
  | path | applied | reference | slice | soleBound | other => rfl

@[simp] theorem isSlice_exposed (ty : Ty) : ty.exposed.isSlice = ty.isSlice := by
  induction ty with
  | paren inner ih | group inner ih => exact ih
  | path | applied | reference | slice | soleBound | other => rfl

/-! ## What is hidden -/

/-- What wrappers keep from being seen. -/
inductive Hidden where
  | nothing
  /-- A reference that is not stored as it is. -/
  | borrow
  /-- A slice that a reference refers to. -/
  | slice
  deriving DecidableEq, Repr

/-- What wrappers hide of a type that is handed out. -/
def hidden (ty : Ty) : Hidden :=
  match ty with
  | .reference none false referent =>
    if referent.isWrapped && referent.isSlice then .slice else .nothing
  | ty => if ty.isWrapped && ty.isBorrow then .borrow else .nothing

/-- What a getter hands out if it hands out anything: the argument of an option, or the type
itself. -/
def handedOut (ty : Ty) : Ty := if ty.isOption then ty.firstArgument?.getD ty else ty

theorem handedOut_of_not_isOption {ty : Ty} (h : ty.isOption = false) : ty.handedOut = ty := by
  simp [handedOut, h]

theorem handedOut_of_argument {ty argument : Ty} (h : ty.isOption = true)
    (hargument : ty.firstArgument? = some argument) : ty.handedOut = argument := by
  simp [handedOut, h, hargument]

theorem isBorrow_of_isOption {ty : Ty} (h : ty.isOption = true) : ty.isBorrow = false := by
  unfold isOption lastName? at h
  unfold isBorrow
  split at h
  · rename_i x hname
    split at hname <;> simp_all
  · cases h

theorem hidden_of_isOption {ty : Ty} (h : ty.isOption = true) : ty.hidden = .nothing := by
  unfold hidden
  split
  · cases h
  · simp [isBorrow_of_isOption h]

/-- An option without an argument has nothing to hide. -/
theorem hidden_of_no_argument {ty : Ty} (h : ty.isOption = true)
    (hargument : ty.firstArgument? = none) : ty.handedOut.hidden = .nothing := by
  have hself : ty.handedOut = ty := by simp [handedOut, hargument]
  rw [hself, hidden_of_isOption h]

theorem reference_of_isBorrow {ty : Ty} (h : ty.isBorrow = true) (hwrapped : ty.isWrapped = false) :
    ∃ lifetime isMut referent, ty = .reference lifetime isMut referent := by
  cases ty with
  | reference lifetime isMut referent => exact ⟨lifetime, isMut, referent, rfl⟩
  | paren | group => cases hwrapped
  | path | applied | slice | soleBound | other => cases h

/-- A type behind whose wrappers a slice is. -/
theorem exposed_of_isSlice {ty : Ty} (h : ty.isSlice = true) :
    ∃ element, ty.exposed = .slice element := by
  unfold isSlice at h
  split at h
  · rename_i element hty
    exact ⟨element.exposed, by rw [← exposed_unwrapped, hty]; rfl⟩
  · cases h

/-- What can be hidden of a type without wrappers. -/
def Hides (ty : Ty) : Hidden → Prop
  | .nothing => True
  | .borrow => ty.isBorrow = true
  | .slice => ∃ element, ty = .reference none false (.slice element)

theorem hides_hidden (ty : Ty) : ty.exposed.Hides ty.hidden := by
  unfold hidden
  split
  · rename_i referent
    split
    · rename_i hslice
      obtain ⟨element, helement⟩ := exposed_of_isSlice (Bool.and_eq_true_iff.mp hslice).2
      exact ⟨element, by rw [exposed, helement]⟩
    · trivial
  · split
    · rename_i hborrow
      exact (isBorrow_exposed ty).trans (Bool.and_eq_true_iff.mp hborrow).2
    · trivial

end Ty

/-! ## Stored types -/

theorem referentStorage_of_bareName {ty : Ty} {x : Ident} (h : ty.bareName? = some x) :
    referentStorage ty = if x.is "str" then (.ownedText, true) else (ty, false) := by
  unfold referentStorage
  rw [h]

theorem referentStorage_slice (element : Ty) :
    referentStorage (.slice element) = (.ownedList element, true) := rfl

/-- What has no bare name and is no slice by itself is stored as it is. -/
theorem referentStorage_other {ty : Ty} (hname : ty.bareName? = none)
    (hslice : ∀ element, ty ≠ .slice element) : referentStorage ty = (ty, false) := by
  unfold referentStorage
  split
  · simp_all
  · exact absurd rfl (hslice _)
  · rfl

theorem Ty.bareName?_of_isSlice {ty : Ty} (h : ty.isSlice = true) : ty.bareName? = none := by
  unfold isSlice at h
  unfold bareName?
  split at h
  · rename_i element hty
    rw [hty]
  · cases h

/-- A slice that a wrapper hides is stored with its wrapper. -/
theorem referentStorage_of_hidden {ty : Ty} (hwrapped : ty.isWrapped = true)
    (hslice : ty.isSlice = true) : referentStorage ty = (ty, false) := by
  refine referentStorage_other (Ty.bareName?_of_isSlice hslice) ?_
  rintro element rfl
  cases hwrapped

/-- Where no slice is hidden, wrappers do not change what is stored, up to wrappers. -/
theorem referentStorage_exposed {ty : Ty} (h : (ty.isWrapped && ty.isSlice) = false) :
    (referentStorage ty).1.exposed = (referentStorage ty.exposed).1.exposed ∧
      (referentStorage ty).2 = (referentStorage ty.exposed).2 := by
  cases hname : ty.bareName? with
  | some x =>
    rw [referentStorage_of_bareName hname,
      referentStorage_of_bareName ((Ty.bareName?_exposed ty).trans hname)]
    split <;> simp
  | none =>
    by_cases hslice : ∃ element, ty = .slice element
    · obtain ⟨element, rfl⟩ := hslice
      simp [Ty.exposed, referentStorage_slice, Ty.ownedList]
    · have hplain : ty.isSlice = false := by
        cases ty <;> simp_all [Ty.isWrapped, Ty.isSlice, Ty.unwrapped]
      have hexposed : ∀ element, ty.exposed ≠ .slice element := by
        intro element heq
        have hlost : ty.exposed.isSlice = true := by rw [heq]; rfl
        rw [Ty.isSlice_exposed, hplain] at hlost
        cases hlost
      rw [referentStorage_other hname fun element heq => hslice ⟨element, heq⟩,
        referentStorage_other ((Ty.bareName?_exposed ty).trans hname) hexposed]
      simp

/-! ## Shapes -/

namespace Shape

/-- The shape of a type that is handed out: of one that is stored as it is, and of a reference to
what is stored. -/
def ofHandedOut? (asIs : Shape) (borrowed : Bool → Shape) (ty : Ty) :
    Except ShapeFault (Shape × Ty) :=
  match ty with
  | .reference lifetime isMut referent =>
    ofReference? lifetime isMut (asIs, ty)
      (borrowed (referentStorage referent).2, (referentStorage referent).1)
  | ty => .ok (asIs, ty)

theorem ofReturnType?_of_not_isOption {ty : Ty} (h : ty.isOption = false) :
    ofReturnType? ty = ofHandedOut? .owned (fun _ => .ref) ty := by
  cases ty <;> simp [ofReturnType?, ofHandedOut?, h]

theorem ofOptionArgument?_eq (ty : Ty) :
    ofOptionArgument? ty = ofHandedOut? .optionOwned .optionRef ty := by
  cases ty <;> rfl

section Options

variable {ty : Ty} (h : ty.isOption = true)

include h

theorem ofReturnType?_of_argument {argument : Ty} (hargument : ty.firstArgument? = some argument) :
    ofReturnType? ty = ofHandedOut? .optionOwned .optionRef argument := by
  cases ty with
  | reference => cases h
  | path | applied | slice | paren | group | soleBound | other =>
    simp [ofReturnType?, h, hargument, ofOptionArgument?_eq]

theorem ofReturnType?_of_no_argument (hargument : ty.firstArgument? = none) :
    ofReturnType? ty = .error .optionWithoutType := by
  cases ty with
  | reference => cases h
  | path | applied | slice | paren | group | soleBound | other =>
    simp [ofReturnType?, h, hargument]

end Options

/-- The shape and the stored type without wrappers, if there are any. -/
def outline (found : Except ShapeFault (Shape × Ty)) : Option (Shape × Ty) :=
  found.toOption.map fun (shape, ty) => (shape, ty.exposed)

@[simp] theorem outline_ok (shape : Shape) (ty : Ty) :
    outline (.ok (shape, ty)) = some (shape, ty.exposed) := rfl

@[simp] theorem outline_error (fault : ShapeFault) : outline (.error fault) = none := rfl

section HandedOut

variable {asIs : Shape} {borrowed : Bool → Shape}

theorem ofHandedOut?_elided (referent : Ty) :
    ofHandedOut? asIs borrowed (.reference none false referent) =
      .ok (borrowed (referentStorage referent).2, (referentStorage referent).1) := rfl

theorem ofHandedOut?_of_not_isBorrow {ty : Ty} (h : ty.isBorrow = false) :
    ofHandedOut? asIs borrowed ty = .ok (asIs, ty) := by
  cases ty with
  | reference lifetime isMut referent =>
    cases lifetime <;> cases isMut <;> simp_all [Ty.isBorrow, Ty.unwrapped, ofHandedOut?,
      ofReference?]
  | path | applied | slice | paren | group | soleBound | other => rfl

theorem ofHandedOut?_of_isWrapped {ty : Ty} (h : ty.isWrapped = true) :
    ofHandedOut? asIs borrowed ty = .ok (asIs, ty) := by
  cases ty with
  | paren | group => rfl
  | path | applied | reference | slice | soleBound | other => cases h

section Borrows

variable {lifetime : Option Ident} {isMut : Bool} {referent : Ty}
  (h : (Ty.reference lifetime isMut referent).isBorrow = true)

include h

theorem outline_of_marked (asIs : Shape) (borrowed : Bool → Shape)
    (hmarked : ¬ (lifetime = none ∧ isMut = false)) :
    outline (ofHandedOut? asIs borrowed (.reference lifetime isMut referent)) = none := by
  cases isMut with
  | true => rfl
  | false =>
    cases lifetime with
    | none => exact absurd ⟨rfl, rfl⟩ hmarked
    | some x =>
      have hother : x.is "static" = false := by simpa [Ty.isBorrow, Ty.unwrapped] using h
      simp [ofHandedOut?, ofReference?, hother]

/-- A reference that is not stored as it is has no shape, or the shape of one to what is stored. -/
theorem outline_of_isBorrow (asIs : Shape) (borrowed : Bool → Shape) :
    outline (ofHandedOut? asIs borrowed (.reference lifetime isMut referent)) = none ∨
      ∃ deref stored, outline (ofHandedOut? asIs borrowed (.reference lifetime isMut referent)) =
        some (borrowed deref, stored) := by
  by_cases hmarked : lifetime = none ∧ isMut = false
  · obtain ⟨rfl, rfl⟩ := hmarked
    exact Or.inr ⟨_, _, rfl⟩
  · exact Or.inl (outline_of_marked h asIs borrowed hmarked)

end Borrows

/-- The shape and the stored type, up to wrappers, of a type whose wrappers hide something. -/
def seen? (asIs : Shape) (borrowed : Bool → Shape) (ty : Ty) : Ty.Hidden → Option (Shape × Ty)
  | .nothing => outline (ofHandedOut? asIs borrowed ty)
  | .borrow => some (asIs, ty)
  | .slice =>
    match ty with
    | .reference _ _ referent => some (borrowed false, referent)
    | _ => none

theorem outline_ofHandedOut? (ty : Ty) :
    outline (ofHandedOut? asIs borrowed ty) = seen? asIs borrowed ty.exposed ty.hidden := by
  unfold Ty.hidden
  split
  · rename_i referent
    split
    · rename_i hhidden
      obtain ⟨hwrapped, hslice⟩ := Bool.and_eq_true_iff.mp hhidden
      simp [ofHandedOut?_elided, seen?, Ty.exposed, referentStorage_of_hidden hwrapped hslice]
    · rename_i hhidden
      obtain ⟨hstored, hderef⟩ := referentStorage_exposed (by simpa using hhidden)
      simp [ofHandedOut?_elided, seen?, Ty.exposed, hstored, hderef]
  · rename_i hplain
    by_cases hborrow : ty.isBorrow = true
    · by_cases hwrapped : ty.isWrapped = true
      · simp [ofHandedOut?_of_isWrapped hwrapped, hwrapped, hborrow, seen?]
      -- it is a reference that is mutable or has a lifetime, and so it is without wrappers
      · obtain ⟨lifetime, isMut, referent, rfl⟩ := Ty.reference_of_isBorrow hborrow
          (by simpa using hwrapped)
        have hmarked : ¬ (lifetime = none ∧ isMut = false) := by
          rintro ⟨rfl, rfl⟩
          exact hplain referent rfl
        have hborrow' : (Ty.reference lifetime isMut referent.exposed).isBorrow = true := hborrow
        have hexposed := outline_of_marked hborrow' asIs borrowed hmarked
        rw [outline_of_marked hborrow asIs borrowed hmarked]
        exact hexposed.symm
    · have hborrow' : ty.isBorrow = false := by simpa using hborrow
      have hexposed : ty.exposed.isBorrow = false := (Ty.isBorrow_exposed ty).trans hborrow'
      simp [hborrow', seen?, ofHandedOut?_of_not_isBorrow hborrow',
        ofHandedOut?_of_not_isBorrow hexposed]

theorem seen?_nothing_ne_borrow (hne : ∀ deref, asIs ≠ borrowed deref) {ty : Ty}
    (hborrow : ty.Hides .borrow) (hwrapped : ty.isWrapped = false) :
    seen? asIs borrowed ty .nothing ≠ seen? asIs borrowed ty .borrow := by
  obtain ⟨lifetime, isMut, referent, rfl⟩ := Ty.reference_of_isBorrow hborrow hwrapped
  rcases outline_of_isBorrow hborrow asIs borrowed with hnone | ⟨deref, stored, hsome⟩
  · simp [seen?, hnone]
  · simp [seen?, hsome, (hne deref).symm]

theorem seen?_nothing_ne_slice {ty : Ty} (hslice : ty.Hides .slice) :
    seen? asIs borrowed ty .nothing ≠ seen? asIs borrowed ty .slice := by
  obtain ⟨element, rfl⟩ := hslice
  simp [seen?, ofHandedOut?_elided, referentStorage_slice, Ty.ownedList, Ty.exposed]

theorem seen?_borrow_ne_slice (hne : ∀ deref, asIs ≠ borrowed deref) {ty : Ty}
    (hslice : ty.Hides .slice) :
    seen? asIs borrowed ty .borrow ≠ seen? asIs borrowed ty .slice := by
  obtain ⟨element, rfl⟩ := hslice
  simp [seen?, hne false]

/-- Different things that may be hidden of a type are told by its shape or by what stores it. -/
theorem seen?_injective (hne : ∀ deref, asIs ≠ borrowed deref) {ty : Ty} {h h' : Ty.Hidden}
    (hh : ty.Hides h) (hh' : ty.Hides h') (hwrapped : ty.isWrapped = false)
    (heq : seen? asIs borrowed ty h = seen? asIs borrowed ty h') : h = h' := by
  cases h with
  | nothing =>
    cases h' with
    | nothing => rfl
    | borrow => exact absurd heq (seen?_nothing_ne_borrow hne hh' hwrapped)
    | slice => exact absurd heq (seen?_nothing_ne_slice hh')
  | borrow =>
    cases h' with
    | nothing => exact absurd heq.symm (seen?_nothing_ne_borrow hne hh hwrapped)
    | borrow => rfl
    | slice => exact absurd heq (seen?_borrow_ne_slice hne hh')
  | slice =>
    cases h' with
    | nothing => exact absurd heq.symm (seen?_nothing_ne_slice hh)
    | borrow => exact absurd heq.symm (seen?_borrow_ne_slice hne hh)
    | slice => rfl

/-- The shapes and stored types of types that differ in wrappers agree, up to wrappers, exactly if
the wrappers hide the same. -/
theorem outline_ofHandedOut?_eq_iff (hne : ∀ deref, asIs ≠ borrowed deref) {ty ty' : Ty}
    (h : ty.exposed = ty'.exposed) :
    outline (ofHandedOut? asIs borrowed ty) = outline (ofHandedOut? asIs borrowed ty') ↔
      ty.hidden = ty'.hidden := by
  have hhides : ty.exposed.Hides ty'.hidden := h ▸ Ty.hides_hidden ty'
  rw [outline_ofHandedOut?, outline_ofHandedOut?, ← h]
  exact ⟨seen?_injective hne (Ty.hides_hidden ty) hhides (Ty.isWrapped_exposed ty), congrArg _⟩

end HandedOut

theorem outline_ofReturnType?_eq_iff {r r' : Ty} (h : r.exposed = r'.exposed) :
    outline (ofReturnType? r) = outline (ofReturnType? r') ↔
      r.handedOut.hidden = r'.handedOut.hidden := by
  have hoptions : r'.isOption = r.isOption := by
    rw [← Ty.isOption_exposed, ← h, Ty.isOption_exposed]
  have harguments : r'.firstArgument?.map Ty.exposed = r.firstArgument?.map Ty.exposed := by
    rw [← Ty.firstArgument?_exposed, ← h, Ty.firstArgument?_exposed]
  cases hoption : r.isOption with
  | false =>
    have hoption' := hoptions.trans hoption
    rw [ofReturnType?_of_not_isOption hoption, ofReturnType?_of_not_isOption hoption',
      Ty.handedOut_of_not_isOption hoption, Ty.handedOut_of_not_isOption hoption']
    exact outline_ofHandedOut?_eq_iff (by simp) h
  | true =>
    have hoption' := hoptions.trans hoption
    cases hargument : r.firstArgument? with
    | none =>
      rw [hargument, Option.map_none, Option.map_eq_none_iff] at harguments
      simp [ofReturnType?_of_no_argument hoption hargument,
        ofReturnType?_of_no_argument hoption' harguments,
        Ty.hidden_of_no_argument hoption hargument, Ty.hidden_of_no_argument hoption' harguments]
    | some argument =>
      rw [hargument, Option.map_some, Option.map_eq_some_iff] at harguments
      obtain ⟨argument', hargument', hexposed⟩ := harguments
      rw [ofReturnType?_of_argument hoption hargument,
        ofReturnType?_of_argument hoption' hargument',
        Ty.handedOut_of_argument hoption hargument, Ty.handedOut_of_argument hoption' hargument']
      exact outline_ofHandedOut?_eq_iff (by simp) hexposed.symm

/-- Shapes and stored types agree up to wrappers if there are none in both cases, or in both cases
the same. -/
theorem outline_eq_iff {found found' : Except ShapeFault (Shape × Ty)} :
    outline found = outline found' ↔
      ((∃ fault, found = .error fault) ↔ ∃ fault, found' = .error fault) ∧
        ∀ shape shape' ty ty', found = .ok (shape, ty) → found' = .ok (shape', ty') →
          shape = shape' ∧ ty.exposed = ty'.exposed := by
  rcases found with fault | ⟨shape, ty⟩ <;> rcases found' with fault' | ⟨shape', ty'⟩
  case ok.ok =>
    constructor
    · intro h
      obtain ⟨hshape, hty⟩ : shape = shape' ∧ ty.exposed = ty'.exposed := by
        simpa using h
      refine ⟨by simp, ?_⟩
      rintro _ _ _ _ ⟨⟩ ⟨⟩
      exact ⟨hshape, hty⟩
    · intro h
      obtain ⟨hshape, hty⟩ := h.2 _ _ _ _ rfl rfl
      simp [hshape, hty]
  all_goals simp

end Shape

/-! ## Parts -/

/-- The part without the wrappers in the type of the elements. -/
def Role.exposed : Role → Role
  | .list element default => .list element.exposed default
  | role => role

section Parts

variable {p p' : Property} (hshape : p.shape = p'.shape) (hty : p.ty.exposed = p'.ty.exposed)

include hty

theorem kind_of_exposed : p.kind = p'.kind := by
  unfold Property.kind TypeKind.of
  rw [← Ty.bareName?_exposed, hty, Ty.bareName?_exposed]

include hshape

theorem listElement?_of_exposed :
    p.listElement?.map Ty.exposed = p'.listElement?.map Ty.exposed := by
  have hnames : p.ty.lastName? = p'.ty.lastName? := by
    rw [← Ty.lastName?_exposed, hty, Ty.lastName?_exposed]
  have harguments : p.ty.firstArgument?.map Ty.exposed = p'.ty.firstArgument?.map Ty.exposed := by
    rw [← Ty.firstArgument?_exposed, hty, Ty.firstArgument?_exposed]
  unfold Property.listElement?
  rw [hshape, hnames]
  split
  · split
    · exact harguments
    · rfl
  · rfl

/-- Properties of one name that are stored alike play the same part. -/
theorem role_of_exposed (hname : p.name = p'.name) (invocations : List Invocation) :
    (classify invocations p).role.exposed = (classify invocations p').role.exposed := by
  have helements := listElement?_of_exposed hshape hty
  have hsetter : p.setter = p'.setter := by
    simp only [Property.setter, Property.derived, Property.label, hname]
  have hnullable : p.isNullable = p'.isNullable := by
    simp only [Property.isNullable, hshape]
  unfold classify
  rw [hsetter, hnullable]
  cases helement : p.listElement? with
  | some element =>
    rw [helement, Option.map_some, eq_comm, Option.map_eq_some_iff] at helements
    obtain ⟨element', helement', hexposed⟩ := helements
    simp [helement', Role.exposed, hexposed]
  | none =>
    rw [helement, Option.map_none, eq_comm, Option.map_eq_none_iff] at helements
    rw [helements]
    cases p'.isNullable <;> rfl

end Parts

/-! ## Types that are seen alike -/

/-- A getter is judged alike whether it returns `r` or `r'`. -/
structure Ty.SeenAlike (r r' : Ty) : Prop where
  /-- One has no shape exactly if the other has none. -/
  fails : (∃ fault, Shape.ofReturnType? r = .error fault) ↔
    ∃ fault, Shape.ofReturnType? r' = .error fault
  /-- The shapes are the same, and so are the stored types, up to wrappers. -/
  shape : ∀ shape shape' ty ty', Shape.ofReturnType? r = .ok (shape, ty) →
    Shape.ofReturnType? r' = .ok (shape', ty') → shape = shape' ∧ ty.exposed = ty'.exposed
  /-- Getters of one name are properties of one kind and play the same part. -/
  part : ∀ p p' : Property, p.name = p'.name → Shape.ofReturnType? r = .ok (p.shape, p.ty) →
    Shape.ofReturnType? r' = .ok (p'.shape, p'.ty) → p.kind = p'.kind ∧
      ∀ invocations, (classify invocations p).role.exposed = (classify invocations p').role.exposed

/-- Types that differ in wrappers are seen alike exactly if the wrappers hide the same of what both
hand out: nothing, a reference that is not stored as it is, or a slice behind a reference. -/
theorem Ty.seenAlike_iff {r r' : Ty} (h : r.exposed = r'.exposed) :
    r.SeenAlike r' ↔ r.handedOut.hidden = r'.handedOut.hidden := by
  rw [← Shape.outline_ofReturnType?_eq_iff h, Shape.outline_eq_iff]
  constructor
  · exact fun hseen => ⟨hseen.fails, hseen.shape⟩
  · rintro ⟨hfails, hshapes⟩
    refine ⟨hfails, hshapes, fun p p' hname hp hp' => ?_⟩
    obtain ⟨hshape, hty⟩ := hshapes _ _ _ _ hp hp'
    exact ⟨kind_of_exposed hty, role_of_exposed hshape hty hname⟩

/-- The type `&referent`. -/
def Ty.referenceTo (referent : Ty) : Ty := .reference none false referent

/-- A wrapped referent and an option in a group are seen as they are without wrappers.  A slice in
parentheses is not seen. -/
theorem wrappedReferents_seenAlike :
    ((Ty.referenceTo .number).exposed = (Ty.referenceTo (.paren .number)).exposed ∧
      (Ty.referenceTo .number).SeenAlike (.referenceTo (.paren .number))) ∧
    ((Ty.optional (.referenceTo .number)).exposed =
        (Ty.group (.optional (.referenceTo (.paren .number)))).exposed ∧
      (Ty.optional (.referenceTo .number)).SeenAlike
        (.group (.optional (.referenceTo (.paren .number))))) ∧
    (Ty.sliceOf .number).exposed = (Ty.referenceTo (.paren (.slice .number))).exposed ∧
      ¬ (Ty.sliceOf .number).SeenAlike (.referenceTo (.paren (.slice .number))) := by
  have hreferent : (Ty.referenceTo .number).exposed = (Ty.referenceTo (.paren .number)).exposed :=
    rfl
  have hoption : (Ty.optional (.referenceTo .number)).exposed =
      (Ty.group (.optional (.referenceTo (.paren .number)))).exposed := rfl
  have hslice : (Ty.sliceOf .number).exposed = (Ty.referenceTo (.paren (.slice .number))).exposed :=
    rfl
  refine ⟨⟨hreferent, (Ty.seenAlike_iff hreferent).mpr (by decide)⟩,
    ⟨hoption, (Ty.seenAlike_iff hoption).mpr (by decide)⟩, hslice, fun h => ?_⟩
  exact absurd ((Ty.seenAlike_iff hslice).mp h) (by decide)

/-- Parentheses around a reference, around a reference in an option and around a slice behind a
reference change the shape or what is stored. -/
theorem wrappedTypes_not_seenAlike :
    ¬ (Ty.referenceTo .number).SeenAlike (.paren (.referenceTo .number)) ∧
      ¬ (Ty.optional (.referenceTo .number)).SeenAlike
        (.optional (.paren (.referenceTo .number))) ∧
      ¬ (Ty.sliceOf .number).SeenAlike (.referenceTo (.paren (.slice .number))) := by
  refine ⟨fun h => ?_, fun h => ?_, fun h => ?_⟩
  · cases (h.shape _ _ _ _ rfl rfl).1
  · cases (h.shape _ _ _ _ rfl rfl).1
  · cases (h.shape _ _ _ _ rfl rfl).2

end TraitBuilder
