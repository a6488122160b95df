import TraitBuilder.Proofs.Code.Provisions
import TraitBuilder.Proofs.Loading.Reports

/-!
# Documented getters

A getter is documented to be a plain, safe function without generic parameters that takes `&self`
and nothing else, returns a value whose type has a shape and does not bear the name of a method that
every builder has.  Not all of this is looked at: a lifetime of the receiver, a mark of variable
arguments and a reserved name that is written raw go unnoticed.

* `Signature.IsGetter`: the signature is that of a documented getter.
* `Signature.seen`, `Signature.Overlooked`: what is looked at of a signature, and a signature that
  is no getter's only by what is not.
* `Signature.judged`: getters and overlooked signatures declare a property, and every other one is
  reported with one message, that of a rule it breaks.
-/

namespace TraitBuilder

/-- The elided lifetime. -/
def elidedLifetime : Ident := ⟨"_", false⟩

/-- The parameter without the lifetime of a receiver. -/
def Parameter.seen : Parameter → Parameter
  | .receiver attributes byReference _ isMut ascription =>
    .receiver attributes byReference none isMut ascription
  | .typed tokens => .typed tokens

theorem Parameter.seen_eq_sharedSelf_iff {p : Parameter} {attributes : List Attribute} :
    p.seen = .receiver attributes true none false none ↔
      ∃ lifetime, p = .receiver attributes true lifetime false none := by
  cases p <;> simp [seen]

theorem Parameter.isSharedSelf_iff {p : Parameter} :
    p.isSharedSelf = true ↔ ∃ attributes, p.seen = .receiver attributes true none false none := by
  cases p <;> simp [isSharedSelf, seen, and_assoc]

theorem Parameter.lifetime_of_seen {p : Parameter} {attributes : List Attribute}
    {byReference isMut : Bool} {lifetime : Option Ident} {ascription : Option Ty}
    (h : p.seen = .receiver attributes byReference lifetime isMut ascription) :
    lifetime = none := by
  cases p with
  | receiver => exact (Parameter.receiver.inj h).2.2.1.symm
  | typed => cases h

theorem Generics.isPlain_iff {g : Generics} :
    g.isPlain = true ↔ g.parameters = [] ∧ g.conditions = none := by
  simp [isPlain]

namespace Signature

/-- The signature is that of a getter. -/
structure IsGetter (s : Signature) : Prop where
  unmodified : s.isConst = false ∧ s.isAsync = false ∧ s.isUnsafe = false ∧ s.convention = none
  notGeneric : s.generics.parameters = [] ∧ s.generics.conditions = none
  /-- The one parameter is `&self`, at most with the elided lifetime. -/
  sharedSelf : ∃ attributes lifetime,
    s.parameters = [.receiver attributes true lifetime false none] ∧
      (lifetime = none ∨ lifetime = some elidedLifetime)
  notVariadic : s.variadic = none
  result : ∃ returnType found, s.output = some returnType ∧
    Shape.ofReturnType? returnType = .ok found
  /-- No builder has a method of this name, whether it is written raw or not. -/
  notReserved : s.name.name ∉ reservedNames

/-! ## What is looked at -/

/-- The signature as far as it is looked at: without a lifetime of the receiver and without a mark
of variable arguments, and with its name as it is written. -/
def seen (s : Signature) : Signature :=
  { s with
    parameters := s.parameters.map Parameter.seen
    variadic := none
    name := ⟨s.name.spelling, false⟩ }

/-- What is not looked at and keeps a signature from being that of a getter. -/
inductive Unseen (s : Signature) : Prop
  /-- The receiver has a lifetime that is not the elided one. -/
  | lifetime {attributes : List Attribute} {x : Ident}
      (h : s.parameters = [.receiver attributes true (some x) false none])
      (hx : x ≠ elidedLifetime)
  | variadic (h : s.variadic ≠ none)
  | rawName (h : s.name.name ∈ reservedNames) (hraw : s.name.raw = true)

/-- The signature is no getter's, but only by what is not looked at. -/
structure Overlooked (s : Signature) : Prop where
  seen : s.seen.IsGetter
  unseen : s.Unseen

theorem isReserved_iff {s : Signature} :
    s.isReserved = true ↔ s.name.spelling ∈ reservedNames := by
  have hheads : ∀ name ∈ reservedNames, name.toList.head? ≠ some 'r' := by decide
  simp only [isReserved, List.any_eq_true]
  constructor
  · rintro ⟨name, hname, his⟩
    exact (Ident.is_iff_spelling (hheads name hname)).mp his ▸ hname
  · exact fun h => ⟨_, h, (Ident.is_iff_spelling (hheads _ h)).mpr rfl⟩

theorem mem_of_isReserved {s : Signature} (h : s.isReserved = true) :
    s.name.name ∈ reservedNames := by
  obtain ⟨name, hname, his⟩ := List.any_eq_true.mp h
  have heq : s.name.name = name := by simpa using (Bool.and_eq_true_iff.mp his).2
  exact heq ▸ hname

theorem isReserved_eq_false_iff {s : Signature} :
    s.isReserved = false ↔ s.name.spelling ∉ reservedNames := by
  rw [← isReserved_iff, Bool.not_eq_true]

theorem takesSharedSelf_iff {s : Signature} :
    s.takesSharedSelf = true ↔ ∃ attributes,
      s.parameters.map Parameter.seen = [.receiver attributes true none false none] := by
  unfold takesSharedSelf
  split
  · rename_i p hp
    simp [hp, Parameter.isSharedSelf_iff]
  · rename_i hp
    simp only [Bool.false_eq_true, List.map_eq_singleton_iff, false_iff]
    rintro ⟨attributes, p, heq, -⟩
    exact hp p heq

theorem isModified_eq_false_iff {s : Signature} :
    s.isModified = false ↔
      s.isConst = false ∧ s.isAsync = false ∧ s.isUnsafe = false ∧ s.convention = none := by
  simp [isModified, and_assoc]

/-- What is looked at of a signature is a getter's exactly if no check fails. -/
theorem isGetter_seen_iff {s : Signature} :
    s.seen.IsGetter ↔ s.isModified = false ∧ s.generics.isPlain = true ∧
      s.takesSharedSelf = true ∧ s.isReserved = false ∧
      ∃ returnType found, s.output = some returnType ∧
        Shape.ofReturnType? returnType = .ok found := by
  rw [isModified_eq_false_iff, Generics.isPlain_iff, takesSharedSelf_iff,
    isReserved_eq_false_iff]
  constructor
  · intro h
    obtain ⟨attributes, lifetime, hparameters, -⟩ := h.sharedSelf
    obtain ⟨p, hp, hseen⟩ := List.map_eq_singleton_iff.mp hparameters
    obtain rfl := Parameter.lifetime_of_seen hseen
    exact ⟨h.unmodified, h.notGeneric, ⟨attributes, hparameters⟩, h.notReserved, h.result⟩
  · rintro ⟨hunmodified, hgeneric, ⟨attributes, hparameters⟩, hreserved, hresult⟩
    exact ⟨hunmodified, hgeneric, ⟨attributes, none, hparameters, Or.inl rfl⟩, rfl, hresult,
      hreserved⟩

theorem isGetter_seen {s : Signature} (h : s.IsGetter) : s.seen.IsGetter where
  unmodified := h.unmodified
  notGeneric := h.notGeneric
  sharedSelf := by
    obtain ⟨attributes, lifetime, hparameters, -⟩ := h.sharedSelf
    exact ⟨attributes, none, by simp [seen, hparameters, Parameter.seen], Or.inl rfl⟩
  notVariadic := rfl
  result := h.result
  notReserved := by
    have hname : s.isReserved = false := by
      rw [Bool.eq_false_iff]
      exact fun hreserved => h.notReserved (mem_of_isReserved hreserved)
    exact isReserved_eq_false_iff.mp hname

theorem not_unseen_of_isGetter {s : Signature} (h : s.IsGetter) : ¬ s.Unseen := by
  intro hunseen
  cases hunseen with
  | lifetime hparameters hx =>
    obtain ⟨attributes, lifetime, heq, hlifetime⟩ := h.sharedSelf
    rw [heq] at hparameters
    rcases hlifetime with rfl | rfl
    · cases hparameters
    · cases hparameters
      exact hx rfl
  | variadic hvariadic => exact hvariadic h.notVariadic
  | rawName hname => exact h.notReserved hname

theorem isGetter_of_seen {s : Signature} (h : s.seen.IsGetter) (hunseen : ¬ s.Unseen) :
    s.IsGetter where
  unmodified := h.unmodified
  notGeneric := h.notGeneric
  sharedSelf := by
    obtain ⟨attributes, lifetime, hparameters, -⟩ := h.sharedSelf
    obtain ⟨p, hp, hseen⟩ := List.map_eq_singleton_iff.mp hparameters
    obtain rfl := Parameter.lifetime_of_seen hseen
    obtain ⟨lifetime, rfl⟩ := Parameter.seen_eq_sharedSelf_iff.mp hseen
    refine ⟨attributes, lifetime, hp, ?_⟩
    cases lifetime with
    | none => exact Or.inl rfl
    | some x =>
      by_cases hx : x = elidedLifetime
      · exact Or.inr (congrArg some hx)
      · exact absurd (.lifetime hp hx) hunseen
  notVariadic := by_contra fun hvariadic => hunseen (.variadic hvariadic)
  result := h.result
  notReserved := by
    intro hname
    cases hraw : s.name.raw with
    | true => exact hunseen (.rawName hname hraw)
    | false =>
      have hspelling : s.name.spelling = s.name.name := by simp [Ident.spelling, hraw]
      have hreserved : s.name.spelling ∉ reservedNames := h.notReserved
      exact hreserved (hspelling ▸ hname)

/-- A signature that is a getter's as far as it is looked at is one, or it is overlooked. -/
theorem isGetter_or_overlooked_iff {s : Signature} :
    s.IsGetter ∨ s.Overlooked ↔ s.seen.IsGetter := by
  constructor
  · rintro (h | h)
    · exact isGetter_seen h
    · exact h.seen
  · intro h
    by_cases hunseen : s.Unseen
    · exact Or.inr ⟨h, hunseen⟩
    · exact Or.inl (isGetter_of_seen h hunseen)

end Signature

/-! ## Faults -/

/-- The rule of which a fault tells is broken by the signature. -/
inductive Signature.Breaks (s : Signature) : GetterFault → Prop
  | modified (h : s.isConst = true ∨ s.isAsync = true ∨ s.isUnsafe = true ∨ s.convention ≠ none) :
      s.Breaks .modified
  | generic (h : s.generics.parameters ≠ [] ∨ s.generics.conditions ≠ none) : s.Breaks .generic
  | parameters (h : ∀ attributes lifetime,
      s.parameters ≠ [.receiver attributes true lifetime false none]) : s.Breaks .parameters
  | noResult (h : s.output = none) : s.Breaks .noResult
  | reserved (h : s.name.name ∈ reservedNames) : s.Breaks (.reserved s.name)
  | shape {returnType : Ty} {fault : ShapeFault} (h : s.output = some returnType)
      (hfault : Shape.ofReturnType? returnType = .error fault) : s.Breaks (.shape fault)

namespace Property

variable {s : Signature} {attributes : List Attribute}

/-- A signature declares a property exactly if it is a getter's as far as it is looked at. -/
theorem exists_ofGetter?_iff :
    (∃ p, Property.ofGetter? s attributes = .ok p) ↔ s.seen.IsGetter := by
  rw [Signature.isGetter_seen_iff]
  unfold Property.ofGetter?
  constructor
  · rintro ⟨p, hp⟩
    grind
  · rintro ⟨hmodified, hgeneric, hself, hreserved, returnType, ⟨shape, ty⟩, houtput, hfound⟩
    simp [hmodified, hgeneric, hself, hreserved, houtput, hfound]

/-- The fault that is found tells of a rule that the signature breaks. -/
theorem breaks_of_ofGetter? {fault : GetterFault}
    (h : Property.ofGetter? s attributes = .error fault) : s.Breaks fault := by
  unfold Property.ofGetter? at h
  split at h
  · rename_i hmodified
    cases h
    exact .modified (by
      simpa [Signature.isModified, or_assoc, Option.isSome_iff_ne_none] using hmodified)
  split at h
  · rename_i hgeneric
    cases h
    rw [Bool.not_eq_true', Bool.eq_false_iff, ne_eq, Generics.isPlain_iff, not_and_or] at hgeneric
    exact .generic hgeneric
  split at h
  · rename_i hself
    cases h
    refine .parameters fun attributes lifetime hparameters => ?_
    simp [Signature.takesSharedSelf, hparameters, Parameter.isSharedSelf] at hself
  split at h
  · rename_i houtput
    cases h
    exact .noResult houtput
  · rename_i returnType houtput
    split at h
    · rename_i hreserved
      cases h
      exact .reserved (Signature.mem_of_isReserved hreserved)
    · split at h
      · rename_i shapeFault hfault
        cases h
        exact .shape houtput hfault
      · cases h

end Property

/-! ## Getters among the items -/

/-- How a method without a body is judged. -/
structure Signature.Judged (s : Signature) (attributes : List Attribute) : Prop where
  /-- It declares a property exactly if its signature is a getter's or is overlooked. -/
  accepted : (∃ p, Property.ofGetter? s (keptAttributes attributes) = .ok p) ↔
    s.IsGetter ∨ s.Overlooked
  /-- An overlooked signature is not a getter's. -/
  exclusive : s.Overlooked → ¬ s.IsGetter
  /-- Otherwise there is one fault, which tells of a rule that is broken, and it is the only one
  that is reported apart from those of the attributes. -/
  refused : ¬ s.IsGetter → ¬ s.Overlooked → ∃ fault,
    Property.ofGetter? s (keptAttributes attributes) = .error fault ∧ s.Breaks fault ∧
    (Inventory.ofItems [.method attributes s none]).problems =
      (attributeFaults attributes).map Problem.argument ++ [.getter fault]

/-- A method without a body is taken for a property if it is a getter or if what is wrong with it is
overlooked, and is refused otherwise. -/
theorem Signature.judged (s : Signature) (attributes : List Attribute) : s.Judged attributes where
  accepted := by rw [isGetter_or_overlooked_iff, Property.exists_ofGetter?_iff]
  exclusive h hgetter := not_unseen_of_isGetter hgetter h.unseen
  refused hgetter hoverlooked := by
    have hnone : ¬ ∃ p, Property.ofGetter? s (keptAttributes attributes) = .ok p := by
      rw [Property.exists_ofGetter?_iff, ← isGetter_or_overlooked_iff]
      exact not_or.mpr ⟨hgetter, hoverlooked⟩
    cases hfound : Property.ofGetter? s (keptAttributes attributes) with
    | ok p => exact absurd ⟨p, hfound⟩ hnone
    | error fault =>
      refine ⟨fault, rfl, Property.breaks_of_ofGetter? hfound, ?_⟩
      rw [Inventory.problems_ofGetter]
      simp [getterFault?, hfound]

/-! ## Overlooked signatures -/

/-- The signature `fn x(&'static self) -> u32`. -/
def Signature.staticSelf : Signature :=
  { Signature.getter (Code.plain "x") .number with
    parameters := [.receiver [] true (some ⟨"static", false⟩) false none] }

/-- The signature `fn y(&self, ...) -> u32`. -/
def Signature.variadicSelf : Signature :=
  { Signature.getter (Code.plain "y") .number with
    trailingComma := true
    variadic := some (operator ['.', '.', '.']) }

/-- The trait of these two methods. -/
def lenientTrait : TraitDecl :=
  { TraitDecl.ofGetters (Code.plain "T") [] with
    items := [.method [] .staticSelf none, .method [] .variadicSelf none] }

/-- Neither signature is a getter's, and yet the trait is accepted and both declare a property. -/
theorem lenientTrait_overlooked :
    expand [] lenientTrait = .ok (lenientTrait.strip.tokens ++ (lenientTrait.blueprint {}).tokens) ∧
      (∃ p, Property.ofGetter? .staticSelf [] = .ok p) ∧ ¬ Signature.staticSelf.IsGetter ∧
      (∃ p, Property.ofGetter? .variadicSelf [] = .ok p) ∧ ¬ Signature.variadicSelf.IsGetter := by
  have haccepted : lenientTrait.Accepted [] {} := ⟨rfl, rfl, by decide⟩
  refine ⟨TraitDecl.expand_of_valid haccepted (by decide), ⟨_, rfl⟩, fun h => ?_, ⟨_, rfl⟩,
    fun h => ?_⟩
  · obtain ⟨attributes, lifetime, hparameters, hlifetime⟩ := h.sharedSelf
    cases hparameters
    revert hlifetime
    decide
  · cases h.notVariadic

end TraitBuilder
