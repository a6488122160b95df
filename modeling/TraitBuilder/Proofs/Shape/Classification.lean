import TraitBuilder.Proofs.Shape.Refusal

/-!
# Classification

What part a property plays follows from the type that its getter returns.  Shared references to
slices and to vectors are lists, options are optional, and everything else is a single value.  What
is stored is the referent of a reference, the argument of an option, or the referent of a reference
in an option, and otherwise the type itself.  Owned types take the place of `str` and of slices
behind a reference, and only there: in an option both stay, although no option can be of them.

* `Ty.ListOf`, `Ty.OptionOf`, `Ty.StoredAs`: the table of lists, options and stored types.
* `Shape.ofReturnType?_cases`: the ways in which a type without wrappers is handed out.
* `classified_of_plain`: what has a shape is classified and stored as in the table.
* `optionalText_not_ownedAs`: text in an option is not stored as owned text.
-/

namespace TraitBuilder

/-- The last name of the path is `Vec`, and no type in angle brackets stands before it. -/
def PathHead.IsVec (p : PathHead) : Prop := p.qualified = false ∧ p.name = ⟨"Vec", false⟩

namespace Ty

/-! ## The table -/

/-- A list of elements is returned as a reference to a slice or to a vector. -/
inductive ListOf : Ty → Ty → Prop
  | slice (element : Ty) : ListOf (.reference none false (.slice element)) element
  | vector {head : PathHead} (opening : Tokens) (element : Ty) (more : Tokens) (h : head.IsVec) :
      ListOf (.reference none false (.applied head opening element more)) element

/-- An option of its first argument. -/
inductive OptionOf : Ty → Ty → Prop
  | applied {head : PathHead} (opening : Tokens) (argument : Ty) (more : Tokens)
      (h : head.IsOption) : OptionOf (.applied head opening argument more) argument

/-- The type with an owned one in place of `str` and of a slice. -/
inductive OwnedAs : Ty → Ty → Prop
  | text : OwnedAs .text .ownedText
  | slice (element : Ty) : OwnedAs (.slice element) (.ownedList element)
  | self {ty : Ty} (htext : ty ≠ .text) (hslice : ∀ element, ty ≠ .slice element) : OwnedAs ty ty

/-- The type that stores what a getter of the given type hands out. -/
inductive StoredAs : Ty → Ty → Prop
  | reference {referent stored : Ty} (h : referent.OwnedAs stored) :
      StoredAs (.reference none false referent) stored
  | optionReference {ty referent stored : Ty}
      (hoption : ty.OptionOf (.reference none false referent)) (h : referent.OwnedAs stored) :
      StoredAs ty stored
  | option {ty argument : Ty} (hoption : ty.OptionOf argument)
      (hargument : ∀ referent, argument ≠ .reference none false referent) : StoredAs ty argument
  | self {ty : Ty} (hreference : ∀ referent, ty ≠ .reference none false referent)
      (hoption : ∀ argument, ¬ ty.OptionOf argument) : StoredAs ty ty

/-- Neither the type nor what it hands out nor the referent of that has wrappers around it. -/
structure Plain (ty : Ty) : Prop where
  outer : ty.isWrapped = false
  handedOut : ty.handedOut.isWrapped = false
  referent : ∀ lifetime isMut referent, ty.handedOut = .reference lifetime isMut referent →
    referent.isWrapped = false

theorem unwrapped_of_not_isWrapped {ty : Ty} (h : ty.isWrapped = false) : ty.unwrapped = ty := by
  cases ty with
  | paren | group => cases h
  | path | applied | reference | slice | soleBound | other => rfl

/-- Without wrappers, the options of the table are the types that are seen as options and have an
argument. -/
theorem optionOf_iff {ty argument : Ty} (h : ty.isWrapped = false) :
    ty.OptionOf argument ↔ ty.isOption = true ∧ ty.firstArgument? = some argument := by
  constructor
  · rintro ⟨opening, argument, more, hoption⟩
    exact ⟨(isOption_applied opening argument more).mpr hoption, rfl⟩
  · rintro ⟨hoption, hargument⟩
    cases ty with
    | applied head opening first more =>
      obtain rfl : first = argument := Option.some.inj hargument
      exact .applied opening first more ((isOption_applied opening first more).mp hoption)
    | paren | group => cases h
    | path | reference | slice | soleBound | other => cases hargument

theorem eq_text_iff {ty : Ty} {x : Ident} (h : ty = .ofIdent x) :
    ty = .text ↔ x.is "str" = true := by
  obtain ⟨name, raw⟩ := x
  subst h
  cases raw <;> simp [text, ofIdent, PathHead.ofIdent, Code.plain, Ident.is]

/-- A referent without wrappers is stored as in the table. -/
theorem ownedAs_referentStorage {referent : Ty} (h : referent.isWrapped = false) :
    referent.OwnedAs (referentStorage referent).1 := by
  have hself := unwrapped_of_not_isWrapped h
  cases hname : referent.bareName? with
  | some x =>
    have hx : referent = .ofIdent x := hself ▸ bareName?_eq_some_iff.mp hname
    rw [referentStorage_of_bareName hname]
    split
    · rename_i hstr
      rw [(eq_text_iff hx).mpr hstr]
      exact .text
    · rename_i hstr
      refine .self (mt (eq_text_iff hx).mp hstr) fun element heq => ?_
      rw [heq] at hx
      cases hx
  | none =>
    by_cases hslice : ∃ element, referent = .slice element
    · obtain ⟨element, rfl⟩ := hslice
      exact .slice element
    · rw [referentStorage_other hname fun element heq => hslice ⟨element, heq⟩]
      refine .self ?_ fun element heq => hslice ⟨element, heq⟩
      rintro rfl
      cases hname

end Ty

/-! ## How a type is handed out -/

namespace Shape

variable {shape : Shape} {stored : Ty}

theorem ofHandedOut?_cases {asIs : Shape} {borrowed : Bool → Shape} {ty : Ty}
    (h : ofHandedOut? asIs borrowed ty = .ok (shape, stored)) :
    (∃ referent, ty = .reference none false referent ∧
      shape = borrowed (referentStorage referent).2 ∧ stored = (referentStorage referent).1) ∨
    (∀ referent, ty ≠ .reference none false referent) ∧ shape = asIs ∧ stored = ty := by
  by_cases helided : ∃ referent, ty = .reference none false referent
  · obtain ⟨referent, rfl⟩ := helided
    rw [ofHandedOut?_elided] at h
    cases h
    exact Or.inl ⟨referent, rfl, rfl, rfl⟩
  · refine Or.inr ⟨fun referent heq => helided ⟨referent, heq⟩, ?_⟩
    cases ty with
    | reference lifetime isMut referent =>
      cases isMut with
      | true => cases h
      | false =>
        cases lifetime with
        | none => exact absurd ⟨referent, rfl⟩ helided
        | some x =>
          simp only [ofHandedOut?, ofReference?, Bool.false_eq_true, if_false] at h
          split at h
          · cases h
            exact ⟨rfl, rfl⟩
          · cases h
    | path | applied | slice | paren | group | soleBound | other =>
      cases h
      exact ⟨rfl, rfl⟩

/-- The ways in which a type without wrappers around it is handed out and stored. -/
inductive HandsOut : Ty → Shape → Ty → Prop
  | reference (referent : Ty) :
      HandsOut (.reference none false referent) .ref (referentStorage referent).1
  | optionReference {ty referent : Ty} (h : ty.OptionOf (.reference none false referent)) :
      HandsOut ty (.optionRef (referentStorage referent).2) (referentStorage referent).1
  | option {ty argument : Ty} (h : ty.OptionOf argument)
      (hargument : ∀ referent, argument ≠ .reference none false referent) :
      HandsOut ty .optionOwned argument
  | self {ty : Ty} (hreference : ∀ referent, ty ≠ .reference none false referent)
      (hoption : ∀ argument, ¬ ty.OptionOf argument) : HandsOut ty .owned ty

theorem handsOut_of_ofReturnType? {r : Ty} (hwrapped : r.isWrapped = false)
    (h : ofReturnType? r = .ok (shape, stored)) : HandsOut r shape stored := by
  cases hoption : r.isOption with
  | false =>
    rw [ofReturnType?_of_not_isOption hoption] at h
    rcases ofHandedOut?_cases h with ⟨referent, rfl, rfl, rfl⟩ | ⟨hreference, rfl, rfl⟩
    · exact .reference referent
    · refine .self hreference fun argument hargument => ?_
      rw [((Ty.optionOf_iff hwrapped).mp hargument).1] at hoption
      cases hoption
  | true =>
    cases hargument : r.firstArgument? with
    | none =>
      rw [ofReturnType?_of_no_argument hoption hargument] at h
      cases h
    | some argument =>
      have hof : r.OptionOf argument := (Ty.optionOf_iff hwrapped).mpr ⟨hoption, hargument⟩
      rw [ofReturnType?_of_argument hoption hargument] at h
      rcases ofHandedOut?_cases h with ⟨referent, rfl, rfl, rfl⟩ | ⟨hreference, rfl, rfl⟩
      · exact .optionReference hof
      · exact .option hof hreference

end Shape

/-! ## Parts -/

section Role

variable (invocations : List Invocation) (p : Property)

theorem role_list_iff (element : Ty) :
    (∃ default, (classify invocations p).role = .list element default) ↔
      p.listElement? = some element := by
  unfold classify
  cases h : p.listElement? with
  | some element' => simp
  | none => cases p.isNullable <;> simp

theorem role_optional_iff :
    (∃ default, (classify invocations p).role = .optional default) ↔
      p.listElement? = none ∧ p.isNullable = true := by
  unfold classify
  cases h : p.listElement? with
  | some element => simp
  | none => cases p.isNullable <;> simp

theorem role_single_iff :
    (∃ default, (classify invocations p).role = .single default) ↔
      p.listElement? = none ∧ p.isNullable = false := by
  unfold classify
  cases h : p.listElement? with
  | some element => simp
  | none => cases p.isNullable <;> simp

end Role

theorem listElement?_of_ne_ref {p : Property} (h : p.shape ≠ .ref) : p.listElement? = none := by
  unfold Property.listElement?
  split
  · rename_i hshape _
    exact absurd hshape h
  · rfl

/-- Behind a reference only a type with a first argument can be a list. -/
theorem listElement?_of_firstArgument? {p : Property} (h : p.ty.firstArgument? = none) :
    p.listElement? = none := by
  unfold Property.listElement?
  split
  · split
    · exact h
    · rfl
  · rfl

theorem listElement?_of_applied {p : Property} {head : PathHead} {opening : Tokens} {first : Ty}
    {more : Tokens} (hshape : p.shape = .ref) (hty : p.ty = .applied head opening first more)
    (element : Ty) : p.listElement? = some element ↔ head.IsVec ∧ first = element := by
  obtain ⟨qualified, lead, name, raw⟩ := head
  unfold Property.listElement?
  rw [hshape, hty]
  cases qualified <;> cases raw <;>
    simp [Ty.lastName?, Ty.firstArgument?, Ty.unwrapped, PathHead.IsVec, Ident.is]

/-- Of a reference, the list elements are those of the table. -/
theorem listElement?_eq_some_iff {p : Property} {referent : Ty} (hshape : p.shape = .ref)
    (hty : referent.OwnedAs p.ty) (hplain : referent.isWrapped = false) (element : Ty) :
    p.listElement? = some element ↔ (Ty.reference none false referent).ListOf element := by
  generalize hstored : p.ty = stored at hty
  cases hty with
  | text =>
    have hnone : p.listElement? = none :=
      listElement?_of_firstArgument? (by rw [hstored]; rfl)
    rw [hnone]
    exact ⟨nofun, nofun⟩
  | slice element' =>
    rw [listElement?_of_applied hshape hstored]
    constructor
    · rintro ⟨-, rfl⟩
      exact .slice element'
    · intro h
      cases h
      exact ⟨⟨rfl, rfl⟩, rfl⟩
  | self htext hslice =>
    cases referent with
    | applied head opening first more =>
      rw [listElement?_of_applied hshape hstored]
      constructor
      · rintro ⟨hvector, rfl⟩
        exact .vector opening first more hvector
      · intro h
        cases h with
        | vector _ _ _ hvector => exact ⟨hvector, rfl⟩
    | slice element' => exact absurd rfl (hslice element')
    | paren | group => cases hplain
    | path | reference | soleBound | other =>
      have hnone : p.listElement? = none :=
        listElement?_of_firstArgument? (by rw [hstored]; rfl)
      rw [hnone]
      exact ⟨nofun, nofun⟩

/-! ## Classification -/

/-- A property is classified and stored as in the table, whatever the constructor calls. -/
structure ClassifiedAs (r : Ty) (p : Property) : Prop where
  list : ∀ invocations element,
    (∃ default, (classify invocations p).role = .list element default) ↔ r.ListOf element
  optional : ∀ invocations,
    (∃ default, (classify invocations p).role = .optional default) ↔ ∃ argument, r.OptionOf argument
  /-- Everything else is a single value. -/
  single : ∀ invocations, (∃ default, (classify invocations p).role = .single default) ↔
    (∀ element, ¬ r.ListOf element) ∧ ∀ argument, ¬ r.OptionOf argument
  /-- The part does not depend on what the constructor calls. -/
  steady : ∀ invocations invocations',
    (classify invocations p).layout = (classify invocations' p).layout
  stored : r.StoredAs p.ty

theorem layout_classify (invocations invocations' : List Invocation) (p : Property) :
    (classify invocations p).layout = (classify invocations' p).layout := by
  unfold classify
  cases p.listElement? with
  | some element => rfl
  | none => cases p.isNullable <;> rfl

/-- A property is classified by the elements of the list that it is, if it is one, and by whether it
may be absent. -/
theorem classifiedAs_of_listElement? {r : Ty} {p : Property}
    (hlist : ∀ element, p.listElement? = some element ↔ r.ListOf element)
    (hoption : p.isNullable = true ↔ ∃ argument, r.OptionOf argument)
    (hdisjoint : p.isNullable = true → p.listElement? = none) (hstored : r.StoredAs p.ty) :
    ClassifiedAs r p where
  list invocations element := (role_list_iff invocations p element).trans (hlist element)
  optional invocations := by
    rw [role_optional_iff, ← hoption]
    exact ⟨And.right, fun h => ⟨hdisjoint h, h⟩⟩
  single invocations := by
    rw [role_single_iff, Option.eq_none_iff_forall_ne_some, ← Bool.not_eq_true, hoption, not_exists]
    simp only [ne_eq, hlist]
  steady invocations invocations' := layout_classify invocations invocations' p
  stored := hstored

theorem not_listOf_of_not_reference {r : Ty} (h : ∀ referent, r ≠ .reference none false referent)
    (element : Ty) : ¬ r.ListOf element := by
  intro hlist
  cases hlist <;> exact h _ rfl

theorem not_optionOf_reference (referent argument : Ty) :
    ¬ (Ty.reference none false referent).OptionOf argument := by
  intro hoption
  cases hoption

theorem not_listOf_of_optionOf {r argument : Ty} (h : r.OptionOf argument) (element : Ty) :
    ¬ r.ListOf element := by
  obtain ⟨opening, argument, more, -⟩ := h
  exact not_listOf_of_not_reference (fun referent heq => by cases heq) element

theorem Ty.OptionOf.handedOut_eq {r argument : Ty} (h : r.OptionOf argument) :
    r.handedOut = argument := by
  obtain ⟨opening, argument, more, hoption⟩ := h
  rw [handedOut_applied, if_pos hoption]

/-- An option is classified as one whatever it stores. -/
theorem classifiedAs_of_optionOf {r argument : Ty} {p : Property} (h : r.OptionOf argument)
    (hnullable : p.isNullable = true) (hstored : r.StoredAs p.ty) : ClassifiedAs r p := by
  have hnone : p.listElement? = none := listElement?_of_ne_ref fun hshape => by
    rw [Property.isNullable, hshape] at hnullable
    cases hnullable
  refine classifiedAs_of_listElement? (fun element => ?_) ?_ (fun _ => hnone) hstored
  · simp [hnone, not_listOf_of_optionOf h element]
  · exact ⟨fun _ => ⟨argument, h⟩, fun _ => hnullable⟩

/-- Whatever is returned without wrappers and has a shape is classified and stored as in the
table. -/
theorem classified_of_plain {r : Ty} {p : Property} (h : r.Plain)
    (hshape : Shape.ofReturnType? r = .ok (p.shape, p.ty)) : ClassifiedAs r p := by
  have hhands := Shape.handsOut_of_ofReturnType? h.outer hshape
  generalize hfound : p.shape = shape at hhands
  generalize hstored : p.ty = stored at hhands
  cases hhands with
  | reference referent =>
    have hreferent : referent.isWrapped = false := h.referent none false referent rfl
    have howned : referent.OwnedAs p.ty := hstored ▸ Ty.ownedAs_referentStorage hreferent
    have hnullable : p.isNullable = false := by rw [Property.isNullable, hfound]
    refine classifiedAs_of_listElement? (listElement?_eq_some_iff hfound howned hreferent) ?_ ?_
      (.reference howned)
    · simp [hnullable, not_optionOf_reference]
    · simp [hnullable]
  | optionReference hoption =>
    rename_i referent
    have hreferent : referent.isWrapped = false :=
      h.referent none false referent hoption.handedOut_eq
    have howned : referent.OwnedAs p.ty := hstored ▸ Ty.ownedAs_referentStorage hreferent
    exact classifiedAs_of_optionOf hoption (by rw [Property.isNullable, hfound])
      (.optionReference hoption howned)
  | option hoption hargument =>
    rw [← hstored] at hoption hargument
    exact classifiedAs_of_optionOf hoption (by rw [Property.isNullable, hfound])
      (.option hoption hargument)
  | self hreference hoption =>
    have hnone : p.listElement? = none := listElement?_of_ne_ref (by rw [hfound]; decide)
    have hnullable : p.isNullable = false := by rw [Property.isNullable, hfound]
    refine classifiedAs_of_listElement? (fun element => ?_) ?_ (fun _ => hnone) ?_
    · simp [hnone, not_listOf_of_not_reference hreference element]
    · simp [hnullable, hoption]
    · rw [hstored]
      exact .self hreference hoption

/-- The property `x` of the given type, shape and stored type. -/
def Property.returning (r : Ty) (shape : Shape) (stored : Ty) : Property :=
  ⟨Code.plain "x", r, stored, shape, []⟩

/-- A reference to a slice is a list and stored as a vector.  An option of a reference to text is
optional and stored as owned text. -/
theorem borrowedTypes_classified :
    ((Ty.sliceOf .number).Plain ∧
      ClassifiedAs (.sliceOf .number)
        (.returning (.sliceOf .number) .ref (.ownedList .number)) ∧
      (Ty.sliceOf .number).ListOf .number) ∧
    (Ty.optional (.referenceTo .text)).Plain ∧
      ClassifiedAs (.optional (.referenceTo .text))
        (.returning (.optional (.referenceTo .text)) (.optionRef true) .ownedText) ∧
      (Ty.optional (.referenceTo .text)).OptionOf (.referenceTo .text) := by
  have hslice : (Ty.sliceOf .number).Plain := ⟨rfl, rfl, by rintro _ _ _ ⟨⟩; rfl⟩
  have hoption : (Ty.optional (.referenceTo .text)).Plain := ⟨rfl, rfl, by rintro _ _ _ ⟨⟩; rfl⟩
  exact ⟨⟨hslice, classified_of_plain hslice rfl, .slice _⟩,
    hoption, classified_of_plain hoption rfl, .applied _ _ _ (by decide)⟩

/-- Text in an option that no reference stands before is stored as it is, not as owned text. -/
theorem optionalText_not_ownedAs :
    (Ty.optional .text).Plain ∧ (Ty.optional .text).OptionOf .text ∧
      Shape.ofReturnType? (.optional .text) = .ok (.optionOwned, .text) ∧
      ¬ Ty.text.OwnedAs .text := by
  refine ⟨⟨rfl, rfl, by rintro _ _ _ ⟨⟩⟩, .applied _ _ _ (by decide), rfl, fun h => ?_⟩
  cases h with
  | self htext => exact htext rfl

end TraitBuilder
