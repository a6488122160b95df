import Mathlib.Data.List.Basic
import TraitBuilder.Proofs.Naming.References

/-!
# Separators in formatted output

The implementations that write text are those for display and for debugging.  Separators between
members are only in those that write member by member: a constant of the builder, and a variable
where a member may be absent.

* `Implementation.Writes`: an implementation that writes by a given body.
* `Blueprint.cases_of_mem_formats`: an implementation writes member by member or has no separator.
* `Blueprint.joiner_declared_iff`, `Blueprint.separator_declared_iff`: the constant and the variable
  are declared exactly if they are used.
-/

namespace TraitBuilder

open Code

/-! ## Implementations -/

/-- What the implementations that write text share: the joiner and the separator. -/
def separating : List Reference := [.constant commaJoiner.name, .variable separatorVar.name]

namespace Code

/-- The traits of what can be written. -/
def formatTraits : List TypeExpr := [displayTrait, .library ["core", "fmt", "Debug"]]

/-- The implementations of these traits in an item. -/
def Item.formats : Item → List Implementation
  | .implementation i | .hidden _ i => if ∃ t ∈ formatTraits, i.trait? = some t then [i] else []
  | .structure_ _ | .enumeration _ => []

/-- The implementation writes by the given body, and nothing else in it has a separator. -/
structure Implementation.Writes (i : Implementation) (body : Body) : Prop where
  functions : ∃ decorations, i.functions = [formatFunction decorations body]
  refers_iff : ∀ r ∈ separating, i.Refers r ↔ body.Refers r

/-- The body has no separator. -/
structure Body.Undivided (body : Body) : Prop where
  not_binds : ¬ body.Binds separatorVar.name
  not_refers : ∀ r ∈ separating, ¬ body.Refers r

theorem Body.undivided_of_statements_eq_nil {body : Body} (h : body.statements = [])
    (ho : ∀ r ∈ separating, ¬ body.outcome.Refers r) : body.Undivided := by
  refine ⟨?_, fun r hr => Body.not_refers (by simp [h]) (ho r hr)⟩
  rintro ⟨s, hs, -⟩
  rw [h] at hs
  cases hs

end Code

theorem ne_type_of_mem_separating {r : Reference} (hr : r ∈ separating) (name : String) :
    r ≠ .type name := by
  rintro rfl
  simp [separating] at hr

theorem ne_variable_of_mem_separating {r : Reference} (hr : r ∈ separating) {x : Ident}
    (hx : x.name ≠ separatorVar.name) : r ≠ .variable x.name := by
  rintro rfl
  simp [separating, hx] at hr

theorem refers_formatFunction {r : Reference} {decorations : List Decoration}
    (hd : ∀ d ∈ decorations, ¬ d.Refers r) {body : Body} :
    (formatFunction decorations body).Refers r ↔ body.Refers r := by
  constructor
  · rintro ⟨-, ⟨d, hmem, h⟩ | h | ⟨p, hp, h⟩ | ⟨t, ht, h⟩ | h⟩
    · exact absurd h (hd d hmem)
    · cases h
    · obtain rfl := List.mem_singleton.mp hp
      cases h
    · cases ht
      cases h
    · exact h
  · intro h
    exact ⟨nofun, Or.inr (Or.inr (Or.inr (Or.inr h)))⟩

theorem exists_mem_formats {trait_ : TypeExpr} (htrait : trait_ ∈ formatTraits) (target : Ident)
    (functions : List Function) :
    ∃ i ∈ (derivedImpl trait_ target functions).formats, i.trait? = some trait_ := by
  have hthere : ∃ t ∈ formatTraits, some trait_ = some t := ⟨trait_, htrait, rfl⟩
  simp only [derivedImpl, Item.formats, if_pos hthere]
  exact ⟨_, List.mem_singleton_self _, rfl⟩

theorem writes_of_mem_formats {i : Implementation} {trait_ : TypeExpr} {target : Ident}
    {decorations : List Decoration} {body : Body} (htrait : trait_ ∈ formatTraits)
    (hd : ∀ d ∈ decorations, ∀ r ∈ separating, ¬ d.Refers r)
    (h : i ∈ (derivedImpl trait_ target [formatFunction decorations body]).formats) :
    i.Writes body := by
  have hthere : ∃ t ∈ formatTraits, some trait_ = some t := ⟨trait_, htrait, rfl⟩
  simp only [derivedImpl, Item.formats, if_pos hthere, List.mem_singleton] at h
  subst h
  refine ⟨⟨decorations, rfl⟩, fun r hr => ?_⟩
  have hfunction : (formatFunction decorations body).Refers r ↔ body.Refers r :=
    refers_formatFunction fun d hmem => hd d hmem r hr
  have hlibrary : ¬ trait_.Refers r := by
    simp only [formatTraits, displayTrait, List.mem_cons, List.not_mem_nil, or_false] at htrait
    rcases htrait with rfl | rfl <;> exact not_false
  have htarget : ¬ r.IsType target := fun h => ne_type_of_mem_separating hr _ h.1
  simpa [Implementation.Refers, hlibrary, htarget] using hfunction

namespace Blueprint

variable {b : Blueprint}

/-- The implementations that write text. -/
def formats (b : Blueprint) : List Implementation := b.items.flatMap Item.formats

/-- Only what tracks members, and the two types that are built, can be written. -/
theorem mem_formats {i : Implementation} :
    i ∈ b.formats ↔ ∃ item, (item ∈ b.trackingItems ∨
      ∃ t, item ∈ b.displayItems t ∨ item ∈ b.debugItems t) ∧ i ∈ item.formats := by
  have hequality (t : Target) : ∀ item ∈ b.equalityItems t, item.formats = [] := by
    unfold equalityItems
    split <;> simp [structuralEquality, providedEquality, derivedImpl, Item.formats, formatTraits,
      displayTrait, equalityTrait]
  have hhash (t : Target) : ∀ item ∈ b.hashItems t, item.formats = [] := by
    unfold hashItems
    split <;> simp [structuralHash, providedHash, derivedImpl, Item.formats, formatTraits,
      displayTrait, hashTrait]
  have hserialization : ∀ item ∈ b.serializationItems, item.formats = [] := by
    unfold serializationItems
    split <;> simp [serializeItem, deserializeItem, derivedImpl, Item.formats, formatTraits,
      displayTrait]
  have hbuilder : ∀ item ∈ b.builderItems, item.formats = [] := by
    unfold builderItems builderDefault
    split <;> simp [builderImplementation, derivedImpl, Item.formats, formatTraits, displayTrait]
  have hvalue : ∀ item ∈ b.valueItems, item.formats = [] := by
    simp [valueItems, traitImplementation, derivedImpl, Item.formats, formatTraits, displayTrait]
  have hpartial : ∀ item ∈ b.partialItems, item.formats = [] := by
    simp [partialItems, traitImplementation, derivedImpl, Item.formats, formatTraits, displayTrait]
  simp only [formats, items, standardItems, List.mem_flatMap, List.mem_append]
  constructor
  · rintro ⟨item, hitem, hi⟩
    refine ⟨item, ?_, hi⟩
    rcases hitem with (((((h | h) | h) | h) | ((h | h) | h) | h) | ((h | h) | h) | h) | h
    · exact Or.inl h
    · rw [hbuilder item h] at hi
      cases hi
    · rw [hvalue item h] at hi
      cases hi
    · rw [hpartial item h] at hi
      cases hi
    · rw [hequality _ item h] at hi
      cases hi
    · rw [hhash _ item h] at hi
      cases hi
    · exact Or.inr ⟨.value, Or.inl h⟩
    · exact Or.inr ⟨.value, Or.inr h⟩
    · rw [hequality _ item h] at hi
      cases hi
    · rw [hhash _ item h] at hi
      cases hi
    · exact Or.inr ⟨.partialType, Or.inl h⟩
    · exact Or.inr ⟨.partialType, Or.inr h⟩
    · rw [hserialization item h] at hi
      cases hi
  · rintro ⟨item, h | ⟨t, ht⟩, hi⟩
    · exact ⟨item, by simp only [h, true_or], hi⟩
    · refine ⟨item, ?_, hi⟩
      cases t <;> rcases ht with h | h <;> simp only [h, true_or, or_true]

theorem undivided_of_mem_trackingItems {i : Implementation} {item : Item}
    (hitem : item ∈ b.trackingItems) (hi : i ∈ item.formats) :
    ∃ body, i.Writes body ∧ body.Undivided := by
  have hdisplay : displayTrait ∈ formatTraits := by simp [formatTraits]
  unfold trackingItems at hitem
  split at hitem
  · simp only [propertyItems, errorItems, List.cons_append, List.nil_append, List.mem_cons,
      List.not_mem_nil, or_false] at hitem
    rcases hitem with rfl | rfl | rfl | rfl | rfl | rfl | rfl
    · cases hi
    · simp [Item.formats, formatTraits] at hi
    · refine ⟨_, writes_of_mem_formats hdisplay (by simp) hi,
        Body.undivided_of_statements_eq_nil rfl ?_⟩
      simp [separating, writeLast, Term.ownMethod, Term.self, separatorVar, formatterVar, plain]
    · cases hi
    · simp [Item.formats, formatTraits] at hi
    -- the error does write one property after the other, but with a separator of its own
    · refine ⟨_, writes_of_mem_formats hdisplay (by simp) hi, ?_, ?_⟩
      · simp [Body.Binds, errorDisplayBody, Statement.Binds, writeText]
      · simp [separating, Body.Refers, errorDisplayBody, writeText, writeLast, separateElements,
          Term.apply, Term.ownField, Term.self, separatorVar, formatterVar, indexVar, propertyVar,
          plain]
    · simp [derivedImpl, Item.formats, formatTraits, displayTrait] at hi
  · cases hitem

theorem cases_of_mem_displayItems {i : Implementation} {t : Target} {item : Item}
    (hitem : item ∈ b.displayItems t) (hi : i ∈ item.formats) :
    (∃ t, i.Writes (b.displayBody t) ∧ b.standards.display ≠ .final) ∨
      ∃ body, i.Writes body ∧ body.Undivided := by
  have hdisplay : displayTrait ∈ formatTraits := by simp [formatTraits]
  unfold displayItems at hitem
  split at hitem
  · cases hitem
  · obtain rfl := List.mem_singleton.mp hitem
    refine Or.inr ⟨_, writes_of_mem_formats hdisplay (by simp) hi,
      Body.undivided_of_statements_eq_nil rfl ?_⟩
    simp [separating, Body.term, Term.self, separatorVar, formatterVar, plain, Reference.IsType]
  · next hfinal _ =>
    obtain rfl := List.mem_singleton.mp hitem
    refine Or.inl ⟨_, writes_of_mem_formats hdisplay ?_ hi, hfinal⟩
    split <;> simp

theorem undivided_of_mem_debugItems {i : Implementation} {t : Target} {item : Item}
    (hitem : item ∈ b.debugItems t) (hi : i ∈ item.formats) :
    ∃ body, i.Writes body ∧ body.Undivided := by
  unfold debugItems at hitem
  split at hitem
  · cases hitem
  · obtain rfl := List.mem_singleton.mp hitem
    refine ⟨_, writes_of_mem_formats (by simp [formatTraits]) (by simp) hi,
      Body.undivided_of_statements_eq_nil rfl ?_⟩
    simp [separating, Body.term, Term.self, Term.apply, separatorVar, formatterVar, plain]

/-- Separators are only in what writes member by member. -/
theorem cases_of_mem_formats {i : Implementation} (h : i ∈ b.formats) :
    (∃ t, i.Writes (b.displayBody t) ∧ b.standards.display ≠ .final) ∨
      ∃ body, i.Writes body ∧ body.Undivided := by
  obtain ⟨item, hitem | ⟨t, hitem | hitem⟩, hi⟩ := mem_formats.mp h
  · exact Or.inr (undivided_of_mem_trackingItems hitem hi)
  · exact cases_of_mem_displayItems hitem hi
  · exact Or.inr (undivided_of_mem_debugItems hitem hi)

/-! ### Member by member -/

theorem not_refers_displayField_of_separating {r : Reference} (hr : r ∈ separating) (m : Member)
    {value : Term} (hvalue : ¬ value.Refers r) : ∀ s ∈ displayField m value, ¬ s.Refers r := by
  have hformatter : r ≠ .variable formatterVar.name := ne_variable_of_mem_separating hr (by decide)
  have hindex : r ≠ .variable indexVar.name := ne_variable_of_mem_separating hr (by decide)
  have helement : r ≠ .variable Member.elementVar.name :=
    ne_variable_of_mem_separating hr (by decide)
  unfold displayField
  dsimp only
  split <;>
    simp [writeText, writeDisplayed, separateElements, Term.apply, hvalue, hformatter, hindex,
      helement]

/-- A member itself has no separator: it is before it or after it. -/
theorem refers_displayMember_iff {r : Reference} (hr : r ∈ separating) (t : Target) (index : Nat)
    (m : Member) : (∃ s ∈ b.displayMember t index m, s.Refers r) ↔
      (∃ s ∈ b.leading t index, s.Refers r) ∨ ∃ s ∈ b.trailing t, s.Refers r := by
  have haround {value : Term} (hvalue : ¬ value.Refers r) :
      (∃ s ∈ b.leading t index ++ displayField m value ++ b.trailing t, s.Refers r) ↔
        (∃ s ∈ b.leading t index, s.Refers r) ∨ ∃ s ∈ b.trailing t, s.Refers r := by
    have hfield := not_refers_displayField_of_separating hr m hvalue
    grind
  have hpresent : ¬ (Term.var presentVar).Refers r := ne_variable_of_mem_separating hr (by decide)
  have hself : r ≠ .variable (plain "self").name := ne_variable_of_mem_separating hr (by decide)
  have hown : ¬ (Term.ownFieldRef m.name).Refers r := by
    have hfield : r ≠ .field m.name.name := by
      rintro rfl
      simp [separating] at hr
    simp [Term.ownFieldRef, Term.ownField, Term.self, hself, hfield]
  unfold displayMember
  dsimp only
  split
  · rw [← haround hpresent]
    simp [hown, Statement.refersAny_iff]
  · exact haround hown

theorem leading_refers_separator (t : Target) (index : Nat) :
    (∃ s ∈ b.leading t index, s.Refers (.variable separatorVar.name)) ↔
      b.variesSeparator t = true := by
  have hformatter : separatorVar.name ≠ formatterVar.name := by decide
  unfold leading
  split
  · next h => simp [h, writeText]
  · next h => split <;> simp [h, writeText, joiner, Reference.IsType, hformatter]

theorem trailing_refers_separator (t : Target) :
    (∃ s ∈ b.trailing t, s.Refers (.variable separatorVar.name)) ↔
      b.variesSeparator t = true := by
  unfold trailing
  split <;> simp [*]

theorem leading_refers_joiner (t : Target) (index : Nat) :
    (∃ s ∈ b.leading t index, s.Refers (.constant commaJoiner.name)) ↔
      b.variesSeparator t = false ∧ index ≠ 0 := by
  unfold leading
  split
  · next h => simp [h, writeText]
  · next h => split <;> simp_all [writeText, joiner]

theorem trailing_refers_joiner (t : Target) :
    (∃ s ∈ b.trailing t, s.Refers (.constant commaJoiner.name)) ↔
      b.variesSeparator t = true := by
  unfold trailing
  split <;> simp [*, joiner]

theorem displayMembers_refers_separator (t : Target) (index : Nat) (members : List Member) :
    (∃ s ∈ b.displayMembers t index members, s.Refers (.variable separatorVar.name)) ↔
      members ≠ [] ∧ b.variesSeparator t = true := by
  induction members generalizing index with
  | nil => simp [displayMembers]
  | cons m rest ih =>
    have hmember := refers_displayMember_iff (b := b) (r := .variable separatorVar.name)
      (by simp [separating]) t index m
    rw [leading_refers_separator, trailing_refers_separator, or_self] at hmember
    simp only [displayMembers, List.mem_append, or_and_right, exists_or, hmember, ih (index + 1)]
    simp

/-- The joiner comes with the second position at the latest. -/
theorem displayMembers_refers_joiner (t : Target) (index : Nat) (members : List Member) :
    (∃ s ∈ b.displayMembers t index members, s.Refers (.constant commaJoiner.name)) ↔
      members ≠ [] ∧ (b.variesSeparator t = true ∨ 2 ≤ index + members.length) := by
  -- the position is that of the first of the members, which is 0 only in front of the first one
  induction members generalizing index with
  | nil => simp [displayMembers]
  | cons m rest ih =>
    have hmember := refers_displayMember_iff (b := b) (r := .constant commaJoiner.name)
      (by simp [separating]) t index m
    rw [leading_refers_joiner, trailing_refers_joiner] at hmember
    simp only [displayMembers, List.mem_append, or_and_right, exists_or, hmember, ih (index + 1)]
    cases rest <;> cases b.variesSeparator t <;> simp <;> omega

theorem one_lt_length_of_variesSeparator {t : Target} (h : b.variesSeparator t = true) :
    1 < b.members.length := by
  simp only [variesSeparator, Bool.and_eq_true, decide_eq_true_eq] at h
  exact h.1

theorem displayBody_refers_iff {r : Reference} (hr : r ∈ separating) (t : Target) :
    (b.displayBody t).Refers r ↔ ∃ s ∈ b.displayMembers t 0 b.members, s.Refers r := by
  have hformatter : r ≠ .variable formatterVar.name := ne_variable_of_mem_separating hr (by decide)
  have hbind : ∀ s ∈ (if b.variesSeparator t then
      [Statement.bind true separatorVar (.text "")] else []), ¬ s.Refers r := by
    split <;> simp
  simp only [Body.Refers, displayBody, displayStatements, List.exists_mem_cons_iff]
  simp only [writeText, writeLast, Outcome.Refers, Statement.Refers, Term.Refers, Term.RefersAny,
    hformatter, or_self, or_false, false_or, List.mem_append, or_and_right, exists_or]
  constructor
  · rintro (⟨s, hs, h⟩ | h)
    · exact absurd h (hbind s hs)
    · exact h
  · exact Or.inr

theorem displayBody_refers_joiner_iff (t : Target) :
    (b.displayBody t).Refers (.constant commaJoiner.name) ↔ 2 ≤ b.members.length := by
  rw [displayBody_refers_iff (by simp [separating]), displayMembers_refers_joiner]
  have hvaries := one_lt_length_of_variesSeparator (b := b) (t := t)
  cases hm : b.members <;> grind

theorem displayBody_refers_separator_iff (t : Target) :
    (b.displayBody t).Refers (.variable separatorVar.name) ↔ b.variesSeparator t = true := by
  rw [displayBody_refers_iff (by simp [separating]), displayMembers_refers_separator]
  constructor
  · exact And.right
  · intro h
    refine ⟨?_, h⟩
    rintro hnil
    have := one_lt_length_of_variesSeparator h
    simp [hnil] at this

theorem not_binds_displayMember (name : String) (t : Target) (index : Nat) (m : Member) :
    ∀ s ∈ b.displayMember t index m, ¬ s.Binds name := by
  have hleading : ∀ s ∈ b.leading t index, ¬ s.Binds name := by
    unfold leading
    split
    · simp [writeText, Statement.Binds]
    · split <;> simp [writeText, Statement.Binds]
  have htrailing : ∀ s ∈ b.trailing t, ¬ s.Binds name := by
    unfold trailing
    split <;> simp [Statement.Binds]
  have hfield (value : Term) : ∀ s ∈ displayField m value, ¬ s.Binds name := by
    unfold displayField
    dsimp only
    split <;> simp [writeText, writeDisplayed, Statement.Binds]
  unfold displayMember
  dsimp only
  split
  · simp [Statement.Binds]
  · simp only [List.forall_mem_append]
    exact ⟨⟨hleading, hfield _⟩, htrailing⟩

theorem not_binds_displayMembers (name : String) (t : Target) (index : Nat)
    (members : List Member) : ∀ s ∈ b.displayMembers t index members, ¬ s.Binds name := by
  induction members generalizing index with
  | nil => exact nofun
  | cons m rest ih =>
    simp only [displayMembers, List.forall_mem_append]
    exact ⟨not_binds_displayMember name t index m, ih (index + 1)⟩

theorem displayBody_binds_separator_iff (t : Target) :
    (b.displayBody t).Binds separatorVar.name ↔ b.variesSeparator t = true := by
  constructor
  · rintro ⟨s, hs, h⟩
    simp only [displayBody, displayStatements, List.mem_cons, List.mem_append] at hs
    rcases hs with rfl | hs | hs
    · cases h
    · split at hs
      · assumption
      · cases hs
    · exact absurd h (not_binds_displayMembers _ t 0 b.members s hs)
  · intro h
    refine ⟨.bind true separatorVar (.text ""), ?_, rfl⟩
    simp [displayBody, displayStatements, h]

/-- The text between members is declared if there are members to separate in what is generated. -/
theorem joiner_declared_iff : (∃ value, .text commaJoiner value ∈ b.builderImplementation.items) ↔
    ∃ i ∈ b.formats, i.trait? = some displayTrait ∧ i.Refers (.constant commaJoiner.name) := by
  have hdeclared : (∃ value, .text commaJoiner value ∈ b.builderImplementation.items) ↔
      b.needsJoiner = true := by
    simp [builderImplementation, joinerItems]
  have hneeds : b.needsJoiner = true ↔
      2 ≤ b.members.length ∧ b.standards.display ≠ .final := by
    simp [needsJoiner]
  rw [hdeclared, hneeds]
  constructor
  · rintro ⟨hlength, hfinal⟩
    -- the partial is displayed member by member whoever displays the value
    have hitem : b.structuralDisplay .partialType ∈ b.displayItems .partialType := by
      unfold displayItems
      cases h : b.standards.display <;> simp_all
    have hdisplay : displayTrait ∈ formatTraits := List.mem_cons_self
    obtain ⟨i, hi, htrait⟩ := exists_mem_formats hdisplay b.partialType
      [formatFunction (if b.variesSeparator .partialType then [.allow "unused_assignments"] else [])
        (b.displayBody .partialType)]
    have hwrites : i.Writes (b.displayBody .partialType) :=
      writes_of_mem_formats hdisplay (by split <;> simp) hi
    refine ⟨i, mem_formats.mpr ⟨_, Or.inr ⟨.partialType, Or.inl hitem⟩, hi⟩, htrait, ?_⟩
    exact (hwrites.refers_iff _ List.mem_cons_self).mpr
      ((displayBody_refers_joiner_iff .partialType).mpr hlength)
  · rintro ⟨i, hi, -, h⟩
    have hr : Reference.constant commaJoiner.name ∈ separating := List.mem_cons_self
    rcases cases_of_mem_formats hi with ⟨t, hwrites, hfinal⟩ | ⟨body, hwrites, hundivided⟩
    · exact ⟨(displayBody_refers_joiner_iff t).mp ((hwrites.refers_iff _ hr).mp h), hfinal⟩
    · exact absurd ((hwrites.refers_iff _ hr).mp h) (hundivided.not_refers _ hr)

/-- A variable for the separator is declared where it is written or read. -/
theorem separator_declared_iff {i : Implementation} (hi : i ∈ b.formats) {f : Function}
    (hf : f ∈ i.functions) :
    f.body.Binds separatorVar.name ↔ f.body.Refers (.variable separatorVar.name) := by
  have hr : Reference.variable separatorVar.name ∈ separating := by simp [separating]
  have hbody {body : Body} (hwrites : i.Writes body) : f.body = body := by
    obtain ⟨decorations, hfunctions⟩ := hwrites.functions
    rw [hfunctions] at hf
    obtain rfl := List.mem_singleton.mp hf
    rfl
  rcases cases_of_mem_formats hi with ⟨t, hwrites, -⟩ | ⟨body, hwrites, hundivided⟩
  · rw [hbody hwrites, displayBody_binds_separator_iff, displayBody_refers_separator_iff]
  · rw [hbody hwrites]
    exact iff_of_false hundivided.not_binds (hundivided.not_refers _ hr)

end Blueprint

end TraitBuilder
