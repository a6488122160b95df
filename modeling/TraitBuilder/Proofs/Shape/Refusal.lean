import TraitBuilder.Proofs.Loading.Getters
import TraitBuilder.Proofs.Shape.Storage

/-!
# Refused types

A return type is documented to be refused if a getter would hand out a mutable reference or one with
a named lifetime other than `'static`, by itself or in an option, and if it is an option without a
type.  A lifetime that is elided may be left out or written `'_`, and either way the type is seen
alike.  All of this holds but for the last: `'_` is refused like a named lifetime, unless the
reference is mutable and so refused anyway.

* `Ty.Refused`: the types that are documented to be refused.
* `Ty.unspelled`: the type with the elided lifetime left out.
* `Ty.judgedAsDocumented_iff`: a type without wrappers is judged as documented exactly if it does
  not hand out a shared reference with the lifetime `'_`.
-/

namespace TraitBuilder

/-- The lifetime of what is never dropped. -/
def staticLifetime : Ident := ⟨"static", false⟩

theorem is_static_iff {x : Ident} : x.is "static" = true ↔ x = staticLifetime := by
  obtain ⟨name, raw⟩ := x
  cases raw <;> simp [Ident.is, staticLifetime]

/-- The last name of the path is `Option`, and no type in angle brackets stands before it. -/
def PathHead.IsOption (p : PathHead) : Prop := p.qualified = false ∧ p.name = ⟨"Option", false⟩

instance (p : PathHead) : Decidable p.IsOption := inferInstanceAs (Decidable (_ ∧ _))

namespace Ty

/-! ## Documented refusals -/

/-- A reference that no getter may hand out: a mutable one, or one with a named lifetime other than
`'static`. -/
inductive Barred : Ty → Prop
  | mutable (lifetime : Option Ident) (referent : Ty) : Barred (.reference lifetime true referent)
  | named (x : Ident) (isMut : Bool) (referent : Ty) (hstatic : x ≠ staticLifetime)
      (helided : x ≠ elidedLifetime) : Barred (.reference (some x) isMut referent)

/-- A return type that is documented to be refused. -/
inductive Refused : Ty → Prop
  | reference {ty : Ty} (h : ty.Barred) : Refused ty
  | argument {head : PathHead} (opening : Tokens) {argument : Ty} (more : Tokens)
      (h : head.IsOption) (hargument : argument.Barred) :
      Refused (.applied head opening argument more)
  | noArgument {head : PathHead} (arguments : Tokens) (h : head.IsOption) :
      Refused (.path head arguments)

/-- A shared reference whose elided lifetime is written. -/
def SpellsElided (ty : Ty) : Prop :=
  ∃ referent, ty = .reference (some elidedLifetime) false referent

/-- A reference with its elided lifetime left out. -/
def bare : Ty → Ty
  | .reference lifetime isMut referent =>
    .reference (if lifetime = some elidedLifetime then none else lifetime) isMut referent
  | ty => ty

/-- The type with the elided lifetime of a reference left out, which may be the argument of an
option. -/
def unspelled : Ty → Ty
  | .applied head opening argument more =>
    .applied head opening (if head.IsOption then argument.bare else argument) more
  | ty => ty.bare

theorem not_barred_of_spellsElided {ty : Ty} (h : ty.SpellsElided) : ¬ ty.Barred := by
  obtain ⟨referent, rfl⟩ := h
  intro hbarred
  cases hbarred with
  | named _ _ _ _ helided => exact helided rfl

/-! ## Types without wrappers -/

theorem isWrapped_of_exposed {ty : Ty} (h : ty.exposed = ty) : ty.isWrapped = false :=
  h ▸ isWrapped_exposed ty

theorem isOption_path {head : PathHead} (arguments : Tokens) :
    (Ty.path head arguments).isOption = true ↔ head.IsOption := by
  obtain ⟨qualified, lead, name, raw⟩ := head
  cases qualified <;> cases raw <;>
    simp [isOption, lastName?, unwrapped, PathHead.IsOption, Ident.is]

theorem isOption_applied {head : PathHead} (opening : Tokens) (argument : Ty) (more : Tokens) :
    (Ty.applied head opening argument more).isOption = true ↔ head.IsOption := by
  obtain ⟨qualified, lead, name, raw⟩ := head
  cases qualified <;> cases raw <;>
    simp [isOption, lastName?, unwrapped, PathHead.IsOption, Ident.is]

theorem handedOut_applied (head : PathHead) (opening : Tokens) (argument : Ty) (more : Tokens) :
    (Ty.applied head opening argument more).handedOut =
      if head.IsOption then argument else .applied head opening argument more := by
  unfold handedOut
  simp only [isOption_applied]
  rfl

/-- Without wrappers, a type is refused for what it hands out, or as an option without a type. -/
theorem refused_iff {ty : Ty} (h : ty.isWrapped = false) :
    ty.Refused ↔ ty.handedOut.Barred ∨ ty.isOption = true ∧ ty.firstArgument? = none := by
  cases ty with
  | path head arguments =>
    have hself : (Ty.path head arguments).handedOut = .path head arguments := by
      simp [handedOut, firstArgument?, unwrapped]
    rw [hself, isOption_path]
    constructor
    · intro hrefused
      cases hrefused with
      | reference hbarred => exact Or.inl hbarred
      | noArgument _ hoption => exact Or.inr ⟨hoption, rfl⟩
    · rintro (hbarred | ⟨hoption, -⟩)
      · exact .reference hbarred
      · exact .noArgument _ hoption
  | applied head opening argument more =>
    have hargument : (Ty.applied head opening argument more).firstArgument? ≠ none := by
      simp [firstArgument?, unwrapped]
    rw [handedOut_applied]
    split
    · rename_i hoption
      constructor
      · intro hrefused
        cases hrefused with
        | reference hbarred => cases hbarred
        | argument _ _ _ hbarred => exact Or.inl hbarred
      · rintro (hbarred | ⟨-, hnone⟩)
        · exact .argument _ _ hoption hbarred
        · exact absurd hnone hargument
    · rename_i hother
      constructor
      · intro hrefused
        cases hrefused with
        | reference hbarred => exact Or.inl hbarred
        | argument _ _ hoption _ => exact absurd hoption hother
      · rintro (hbarred | ⟨-, hnone⟩)
        · exact .reference hbarred
        · exact absurd hnone hargument
  | paren | group => cases h
  | reference | slice | soleBound | other =>
    constructor
    · intro hrefused
      cases hrefused with
      | reference hbarred => exact Or.inl hbarred
    · rintro (hbarred | ⟨hoption, -⟩)
      · exact .reference hbarred
      · cases hoption

theorem handedOut_unspelled {ty : Ty} (h : ty.isWrapped = false) :
    ty.unspelled.handedOut = ty.handedOut.bare ∧ ty.unspelled.isOption = ty.isOption ∧
      (ty.unspelled.firstArgument? = none ↔ ty.firstArgument? = none) := by
  cases ty with
  | applied head opening argument more =>
    refine ⟨?_, ?_, by simp [unspelled, firstArgument?, unwrapped]⟩
    · simp only [unspelled, handedOut_applied]
      split <;> rfl
    · rw [Bool.eq_iff_iff, unspelled, isOption_applied, isOption_applied]
  | path head arguments =>
    have hself : (Ty.path head arguments).handedOut = .path head arguments := by
      simp [handedOut, firstArgument?, unwrapped]
    refine ⟨?_, rfl, Iff.rfl⟩
    rw [hself]
    exact hself
  | paren | group => cases h
  | reference | slice | soleBound | other => exact ⟨rfl, rfl, Iff.rfl⟩

end Ty

/-! ## What is handed out -/

namespace Shape

section HandedOut

variable (asIs : Shape) (borrowed : Bool → Shape) {ty : Ty}

/-- What is handed out has no shape exactly if it is barred or spells out an elided lifetime. -/
theorem ofHandedOut?_eq_error_iff :
    (∃ fault, ofHandedOut? asIs borrowed ty = .error fault) ↔ ty.Barred ∨ ty.SpellsElided := by
  cases ty with
  | reference lifetime isMut referent =>
    cases isMut with
    | true => exact ⟨fun _ => Or.inl (.mutable _ _), fun _ => ⟨.mutableReference, rfl⟩⟩
    | false =>
      cases lifetime with
      | none =>
        constructor
        · rintro ⟨fault, h⟩
          cases h
        · rintro (h | ⟨_, h⟩) <;> cases h
      | some x =>
        by_cases hstatic : x.is "static" = true
        · have hx : x = staticLifetime := is_static_iff.mp hstatic
          have hother : ¬ ((Ty.reference (some x) false referent).Barred ∨
              (Ty.reference (some x) false referent).SpellsElided) := by
            rintro (h | ⟨_, h⟩)
            · cases h with
              | named _ _ _ hnot => exact hnot hx
            · injection h with hlifetime
              exact absurd (hx.symm.trans (Option.some.inj hlifetime)) (by decide)
          simp [ofHandedOut?, ofReference?, hstatic, hother]
        · have herror : (Ty.reference (some x) false referent).Barred ∨
              (Ty.reference (some x) false referent).SpellsElided := by
            by_cases helided : x = elidedLifetime
            · exact Or.inr ⟨referent, by rw [helided]⟩
            · have hnamed := fun h => hstatic (is_static_iff.mpr h)
              exact Or.inl (.named x false referent hnamed helided)
          simp [ofHandedOut?, ofReference?, hstatic, herror]
  | path | applied | slice | paren | group | soleBound | other =>
    constructor
    · rintro ⟨fault, h⟩
      cases h
    · rintro (h | ⟨_, h⟩) <;> cases h

/-- A lifetime that is left out does not matter, unless it is the elided one of a shared
reference. -/
theorem ofHandedOut?_bare (h : ¬ ty.SpellsElided) :
    ofHandedOut? asIs borrowed ty.bare = ofHandedOut? asIs borrowed ty := by
  cases ty with
  | reference lifetime isMut referent =>
    by_cases helided : lifetime = some elidedLifetime
    · obtain rfl := helided
      cases isMut with
      | true => rfl
      | false => exact absurd ⟨referent, rfl⟩ h
    · simp [Ty.bare, helided]
  | path | applied | slice | paren | group | soleBound | other => rfl

end HandedOut

/-! ## Return types -/

/-- A return type has no shape exactly if that is so of what it hands out, or if it is an option
without a type. -/
theorem ofReturnType?_eq_error_iff {r : Ty} :
    (∃ fault, ofReturnType? r = .error fault) ↔
      (r.handedOut.Barred ∨ r.handedOut.SpellsElided) ∨
        r.isOption = true ∧ r.firstArgument? = none := by
  cases hoption : r.isOption with
  | false =>
    rw [ofReturnType?_of_not_isOption hoption, Ty.handedOut_of_not_isOption hoption,
      ofHandedOut?_eq_error_iff]
    simp
  | true =>
    cases hargument : r.firstArgument? with
    | none => simp [ofReturnType?_of_no_argument hoption hargument]
    | some argument =>
      rw [ofReturnType?_of_argument hoption hargument,
        Ty.handedOut_of_argument hoption hargument, ofHandedOut?_eq_error_iff]
      simp

theorem ofReturnType?_unspelled {r : Ty} (hwrapped : r.isWrapped = false)
    (h : ¬ r.handedOut.SpellsElided) : ofReturnType? r.unspelled = ofReturnType? r := by
  obtain ⟨hhanded, hoptions, harguments⟩ := Ty.handedOut_unspelled hwrapped
  cases hoption : r.isOption with
  | false =>
    have hoption' := hoptions.trans hoption
    rw [Ty.handedOut_of_not_isOption hoption', Ty.handedOut_of_not_isOption hoption] at hhanded
    rw [Ty.handedOut_of_not_isOption hoption] at h
    rw [ofReturnType?_of_not_isOption hoption, ofReturnType?_of_not_isOption hoption', hhanded]
    exact ofHandedOut?_bare _ _ h
  | true =>
    have hoption' := hoptions.trans hoption
    cases hargument : r.firstArgument? with
    | none =>
      rw [ofReturnType?_of_no_argument hoption hargument,
        ofReturnType?_of_no_argument hoption' (harguments.mpr hargument)]
    | some argument =>
      have hsome : r.unspelled.firstArgument? ≠ none := fun hnone => by
        rw [harguments.mp hnone] at hargument
        cases hargument
      obtain ⟨argument', hargument'⟩ := Option.ne_none_iff_exists'.mp hsome
      rw [Ty.handedOut_of_argument hoption' hargument',
        Ty.handedOut_of_argument hoption hargument] at hhanded
      rw [Ty.handedOut_of_argument hoption hargument] at h
      rw [ofReturnType?_of_argument hoption hargument,
        ofReturnType?_of_argument hoption' hargument', hhanded]
      exact ofHandedOut?_bare _ _ h

end Shape

/-- A getter that returns the type is judged as documented. -/
structure Ty.JudgedAsDocumented (r : Ty) : Prop where
  /-- It is refused exactly if that is documented. -/
  fails : (∃ fault, Shape.ofReturnType? r = .error fault) ↔ r.Refused
  /-- With an elided lifetime left out it has the same shape and is stored alike. -/
  alike : Shape.ofReturnType? r.unspelled = Shape.ofReturnType? r

/-- A return type without wrappers is judged as documented exactly if it does not hand out a shared
reference whose elided lifetime is written. -/
theorem Ty.judgedAsDocumented_iff {r : Ty} (h : r.exposed = r) :
    r.JudgedAsDocumented ↔ ¬ r.handedOut.SpellsElided := by
  have hwrapped := Ty.isWrapped_of_exposed h
  constructor
  · intro hjudged hspells
    have hrefused := hjudged.fails.mp
      (Shape.ofReturnType?_eq_error_iff.mpr (Or.inl (Or.inr hspells)))
    rcases (Ty.refused_iff hwrapped).mp hrefused with hbarred | ⟨hoption, hargument⟩
    · exact Ty.not_barred_of_spellsElided hspells hbarred
    -- an option without a type is handed out itself, and it is no reference
    · obtain ⟨referent, hreferent⟩ := hspells
      have hself : r.handedOut = r := by simp [Ty.handedOut, hargument]
      rw [← hself, hreferent] at hoption
      cases hoption
  · intro hspells
    refine ⟨?_, Shape.ofReturnType?_unspelled hwrapped hspells⟩
    rw [Shape.ofReturnType?_eq_error_iff, Ty.refused_iff hwrapped]
    simp [hspells]

/-- A reference with the lifetime `'a` in an option is refused and one with the lifetime `'static`
is not, as documented.  One with the lifetime `'_` is not judged so. -/
theorem borrowedOptions_judgedAsDocumented :
    let borrowed (x : Ident) : Ty := .optional (.reference (some x) false .text)
    ((borrowed ⟨"a", false⟩).exposed = borrowed ⟨"a", false⟩ ∧
      (borrowed ⟨"a", false⟩).JudgedAsDocumented ∧
      Shape.ofReturnType? (borrowed ⟨"a", false⟩) = .error .namedLifetime) ∧
    ((borrowed staticLifetime).JudgedAsDocumented ∧
      Shape.ofReturnType? (borrowed staticLifetime) =
        .ok (.optionOwned, .reference (some staticLifetime) false .text)) ∧
    ¬ (borrowed elidedLifetime).JudgedAsDocumented := by
  intro borrowed
  have hexposed (x : Ident) : (borrowed x).exposed = borrowed x := rfl
  have hhanded (x : Ident) : (borrowed x).handedOut = .reference (some x) false .text := rfl
  have hother (x : Ident) (hx : x ≠ elidedLifetime) : ¬ (borrowed x).handedOut.SpellsElided := by
    rintro ⟨referent, heq⟩
    injection (hhanded x).symm.trans heq with hlifetime
    exact hx (Option.some.inj hlifetime)
  refine ⟨⟨rfl, (Ty.judgedAsDocumented_iff (hexposed _)).mpr ?_, rfl⟩,
    ⟨(Ty.judgedAsDocumented_iff (hexposed _)).mpr ?_, rfl⟩, fun h => ?_⟩
  · exact hother _ (by decide)
  · exact hother _ (by decide)
  · exact (Ty.judgedAsDocumented_iff (hexposed _)).mp h ⟨_, hhanded _⟩

/-- The type `&'_ u32` is refused, although its lifetime is elided and `&u32` is accepted. -/
theorem spelledReference_not_judgedAsDocumented :
    let spelled : Ty := .reference (some elidedLifetime) false .number
    spelled.exposed = spelled ∧ ¬ spelled.Refused ∧
      Shape.ofReturnType? spelled = .error .namedLifetime ∧
      Shape.ofReturnType? spelled.unspelled = .ok (.ref, .number) ∧
      ¬ spelled.JudgedAsDocumented := by
  intro spelled
  have hallowed : ¬ spelled.Refused := by
    rw [Ty.refused_iff rfl]
    rintro (hbarred | ⟨hoption, -⟩)
    · exact Ty.not_barred_of_spellsElided ⟨_, rfl⟩ hbarred
    · cases hoption
  exact ⟨rfl, hallowed, rfl, rfl, fun h => hallowed (h.fails.mp ⟨_, rfl⟩)⟩

end TraitBuilder
