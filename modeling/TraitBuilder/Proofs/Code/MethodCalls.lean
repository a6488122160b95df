import TraitBuilder.Proofs.Code.Entries
import TraitBuilder.Proofs.Code.Records
import TraitBuilder.Proofs.Naming.BuilderItems

/-!
# Called methods

Which methods generated code calls on variables, function by function.  Whatever is called for a
member is among the names of its methods in `Member.builderMethods`.

* `calledOn`: the methods that terms call on variables.
* `Blueprint.calledOn_codeFor`: what is called for a member.
* `Blueprint.calledOn_mergeFromFunction`, `Blueprint.calledOn_mergeFromBuilderFunction`,
  `Blueprint.calledOn_deserializeFunction`: merging and reading call one method to set each member.
-/

namespace TraitBuilder

open Code

namespace Code

/-! ## Reading calls -/

/-- The variable whose method a term calls, with the method. -/
def Term.calledOn? : Term → Option (Ident × Ident)
  | .method (.var x) name _ => Option.some (x, name)
  | _ => Option.none

/-- The methods that terms call on variables, each after the variable, in order. -/
def calledOn (ts : List Term) : List (Ident × Ident) := ts.filterMap Term.calledOn?

@[simp] theorem calledOn_nil : calledOn [] = [] := rfl

@[simp] theorem calledOn_cons (t : Term) (ts : List Term) :
    calledOn (t :: ts) = t.calledOn?.toList ++ calledOn ts := by
  cases h : t.calledOn? <;> simp [calledOn, h]

@[simp] theorem calledOn_append (ts us : List Term) :
    calledOn (ts ++ us) = calledOn ts ++ calledOn us :=
  List.filterMap_append

theorem calledOn_flatMap {α : Type} (f : α → List Term) (as : List α) :
    calledOn (as.flatMap f) = as.flatMap fun a => calledOn (f a) :=
  List.filterMap_flatMap

theorem calledOn_flatMap_eq_nil {α : Type} {f : α → List Term} {as : List α}
    (h : ∀ a ∈ as, calledOn (f a) = []) : calledOn (as.flatMap f) = [] := by
  rw [calledOn_flatMap, List.flatMap_eq_nil_iff]
  exact h

/-- Terms call methods of no other variables than the given ones. -/
def CallOn (xs : List Ident) (ts : List Term) : Prop := ∀ p ∈ calledOn ts, p.1 ∈ xs

instance (xs : List Ident) (ts : List Term) : Decidable (CallOn xs ts) :=
  inferInstanceAs (Decidable (∀ _ ∈ _, _))

section CallOn

variable {xs : List Ident}

theorem callOn_of_calledOn {ts : List Term} (h : calledOn ts = []) : CallOn xs ts := by
  simp [CallOn, h]

@[simp] theorem callOn_nil : CallOn xs [] := callOn_of_calledOn rfl

@[simp] theorem callOn_cons {t : Term} {ts : List Term} :
    CallOn xs (t :: ts) ↔ (∀ p ∈ t.calledOn?, p.1 ∈ xs) ∧ CallOn xs ts := by
  simp [CallOn, or_imp, forall_and]

@[simp] theorem callOn_append {ts us : List Term} :
    CallOn xs (ts ++ us) ↔ CallOn xs ts ∧ CallOn xs us := by
  simp only [CallOn, calledOn_append, List.forall_mem_append]

theorem callOn_flatMap {α : Type} {f : α → List Term} {as : List α}
    (h : ∀ a ∈ as, CallOn xs (f a)) : CallOn xs (as.flatMap f) := by
  intro p hp
  rw [calledOn_flatMap] at hp
  obtain ⟨a, ha, hpa⟩ := List.mem_flatMap.mp hp
  exact h a ha p hpa

end CallOn

end Code

/-! ## Code for one member -/

theorem calledOn_read (p : Property) (storage : Term) :
    calledOn (p.read storage).subterms = calledOn storage.subterms := by
  unfold Property.read
  split
  · rfl
  · split <;> simp [Term.clone, Term.apply, Term.calledOn?]
  · split <;> simp [Term.clone, Term.apply, Term.calledOn?]
  · simp [Term.apply, Term.calledOn?]
  · simp [Term.apply, Term.calledOn?]

theorem calledOn_toOwned (p : Property) (returned : Term) :
    calledOn (p.toOwned returned).subterms = calledOn returned.subterms := by
  unfold Property.toOwned
  split <;> simp [Term.apply, Term.calledOn?]

theorem calledOn_setterConversion (ty : Ty) (argument : Term) :
    calledOn (setterConversion ty argument).subterms = calledOn argument.subterms := by
  unfold setterConversion
  split <;> simp [Term.apply, Term.calledOn?]

namespace Member

/-- The method by which merging sets the member. -/
def filler (m : Member) : Ident :=
  match m.role with
  | .single _ => m.property.setter
  | .optional _ => m.property.nullableSetter
  | .list _ _ => m.property.bulkAdder

/-- The method by which the member is set to what was read. -/
def presetter (m : Member) : Ident :=
  match m.role with
  | .single _ | .list _ _ => m.property.setter
  | .optional _ => m.property.nullableSetter

/-- The methods by which merging reads the member of another builder. -/
def readers (m : Member) : List Ident :=
  match m.role with
  | .single _ | .optional _ => [m.name]
  | .list _ _ => []

theorem filler_mem_builderMethods (m : Member) : m.filler ∈ m.builderMethods := by
  unfold filler builderMethods
  cases m.role <;> simp

theorem presetter_mem_builderMethods (m : Member) : m.presetter ∈ m.builderMethods := by
  unfold presetter builderMethods
  cases m.role <;> simp

theorem mem_builderMethods_of_mem_readers {m : Member} {x : Ident} (h : x ∈ m.readers) :
    x ∈ m.builderMethods := by
  unfold readers at h
  split at h
  · exact List.mem_singleton.mp h ▸ m.name_mem_builderMethods
  · exact List.mem_singleton.mp h ▸ m.name_mem_builderMethods
  · cases h

/-- The methods of a member have different names, raw marks aside. -/
theorem name_builderMethods_nodup (m : Member) : (m.builderMethods.map (·.name)).Nodup := by
  have hlength {lead lead' : String} (h : lead.toList ≠ lead'.toList) :
      lead ++ m.property.label ≠ lead' ++ m.property.label := by
    intro heq
    have := congrArg String.toList heq
    rw [String.toList_append, String.toList_append, List.append_left_inj] at this
    exact h this
  have hself {lead : String} (h : lead.toList ≠ []) :
      m.property.label ≠ lead ++ m.property.label := by
    intro heq
    have := congrArg (List.length ∘ String.toList) heq
    simp only [Function.comp_apply, String.toList_append, List.length_append] at this
    exact h (List.length_eq_zero_iff.mp (by omega))
  unfold builderMethods
  cases m.role <;>
    simp only [List.map_cons, List.map_nil, List.nodup_cons, List.mem_cons, List.not_mem_nil,
      not_or, or_false, not_false_eq_true, List.nodup_nil, and_true, Property.setter,
      Property.nullableSetter, Property.clearMethod, Property.adder, Property.bulkAdder,
      Property.derived]
  · exact hself (by decide)
  · exact ⟨⟨hself (by decide), hself (by decide), hself (by decide)⟩,
      ⟨hlength (by decide), hlength (by decide)⟩, hlength (by decide)⟩
  · exact ⟨⟨hself (by decide), hself (by decide), hself (by decide), hself (by decide)⟩,
      ⟨hlength (by decide), hlength (by decide), hlength (by decide)⟩,
      ⟨hlength (by decide), hlength (by decide)⟩, hlength (by decide)⟩

/-! ### Accessors -/

theorem calledOn_readStored (m : Member) : calledOn m.readStored.subterms = [] := by
  rw [readStored, Outcome.subterms, calledOn_read]
  rfl

theorem calledOn_readRequired (m : Member) : calledOn m.readRequired.subterms = [] := by
  rw [readRequired, Outcome.subterms, calledOn_append, calledOn_read]
  rfl

theorem calledOn_setterMethod (b : Blueprint) (m : Member) :
    calledOn (m.setterMethod b).body.subterms = [] := by
  have hvalue : calledOn (setterConversion m.property.ty (.var m.name)).subterms = [] := by
    rw [calledOn_setterConversion]
    rfl
  cases h : m.role <;> try rename_i default; cases default
  all_goals
    simp [setterMethod, changer, setterStatements, Body.subterms, Outcome.subterms, Term.ownField,
      Term.self, Term.some, Term.apply, ownUnset, Blueprint.variant, Term.calledOn?, h, hvalue]

/-- Among the accessors of a member, only the one that replaces a list calls a method. -/
theorem calledOn_accessors (b : Blueprint) (m : Member) :
    (m.accessors b).flatMap (fun f => calledOn f.body.subterms) =
      match m.role with
      | .single _ | .optional _ => []
      | .list _ _ => [(selfVar, m.property.bulkAdder)] := by
  unfold accessors
  cases h : m.role with
  | single default =>
    have hgetter : calledOn (if m.isRequired then m.builderGetter (m.getterDoc b :: panicDoc)
        m.readRequired else m.builderGetter [m.getterDoc b] m.readStored).body.subterms = [] := by
      split
      · exact m.calledOn_readRequired
      · exact m.calledOn_readStored
    simp only [singleAccessors, List.flatMap_cons, List.flatMap_nil, calledOn_setterMethod, hgetter]
    rfl
  | optional default =>
    have hgetter : calledOn (m.builderGetter [m.getterDoc b] m.readStored).body.subterms = [] :=
      m.calledOn_readStored
    simp only [optionalAccessors, List.flatMap_cons, List.flatMap_nil, calledOn_setterMethod,
      hgetter]
    rfl
  | list element default =>
    have hadded : calledOn (setterConversion element (.var elementVar)).subterms = [] := by
      rw [calledOn_setterConversion]
      rfl
    simp [listAccessors, changer, builderGetter, Body.subterms, Outcome.subterms, emptied,
      Term.ownMethod, Term.ownFieldRef, Term.ownField, Term.self, Term.apply, Term.calledOn?,
      hadded, selfVar]

theorem mem_builderMethods_of_accessor {b : Blueprint} {m : Member} {f : Function}
    (hf : f ∈ m.accessors b) {p : Ident × Ident} (hp : p ∈ calledOn f.body.subterms) :
    p.2 ∈ m.builderMethods := by
  have h : p ∈ (m.accessors b).flatMap fun f => calledOn f.body.subterms :=
    List.mem_flatMap.mpr ⟨f, hf, hp⟩
  rw [calledOn_accessors] at h
  unfold builderMethods
  split at h
  · cases h
  · cases h
  · simp_all

/-! ### Merging, clearing and reading -/

theorem calledOn_clonedElements (list : Term) (h : ∀ x, list ≠ .var x) :
    calledOn (clonedElements list).subterms = calledOn list.subterms := by
  have hiter : (Term.method list (plain "iter") []).calledOn? = none := by
    cases list with
    | var x => exact absurd rfl (h x)
    | _ => rfl
  simp only [clonedElements, Term.apply, Term.subterms, Term.subtermsOfAll, calledOn_cons, hiter,
    List.append_nil]
  rfl

theorem calledOn_mergeFromValue (m : Member) (typeName value : Ident) :
    calledOn (m.mergeFromValue typeName value).subterms = [(selfVar, m.filler)] := by
  unfold mergeFromValue filler
  cases m.role <;>
    simp [callOwn, Term.ownMethod, Term.self, Term.calledOn?, calledOn_toOwned,
      calledOn_clonedElements, selfVar]

theorem calledOn_mergeFromBuilder (m : Member) (builder : Ident) :
    calledOn (m.mergeFromBuilder builder).subterms =
      (selfVar, m.filler) :: m.readers.map (builder, ·) := by
  unfold mergeFromBuilder filler readers
  cases m.role <;>
    simp [callOwn, Term.ownMethod, Term.self, Term.calledOn?, calledOn_toOwned,
      calledOn_clonedElements, selfVar, name]

theorem calledOn_applyField (m : Member) :
    calledOn (Blueprint.applyField m).subterms = [(builderVar, m.presetter)] := by
  unfold Blueprint.applyField setFromResult presetter
  dsimp only
  split <;> simp [Term.calledOn?, *]

theorem calledOn_clear (m : Member) (template : Option Ident) :
    calledOn ((m.clear template).flatMap Statement.subterms) = [] := by
  unfold clear
  split <;> simp [emptied, Term.ownField, Term.self, Term.none, Term.calledOn?]

theorem calledOn_partialClear (m : Member) (receiver : Ident) :
    calledOn ((m.partialClear (.var receiver)).flatMap Statement.subterms) = [] := by
  unfold partialClear
  split <;> simp [emptied, Term.calledOn?]

theorem calledOn_initial (m : Member) : calledOn m.initial.subterms = [] := by
  unfold initial
  split <;> simp [Term.none, Term.some, Term.apply, Term.calledOn?, calledOn_setterConversion]

end Member

namespace Blueprint

variable (b : Blueprint)

theorem calledOn_mergeMember (m : Member) : calledOn (b.mergeMember m).subterms =
    (selfVar, m.filler) :: m.readers.map (templateVar, ·) := by
  have hmerge := m.calledOn_mergeFromBuilder templateVar
  unfold mergeMember
  dsimp only
  split
  · simp [templateUnset, variant, Term.calledOn?, hmerge]
  · exact hmerge

/-- The terms that are generated for a member where builders are changed: in its accessors, and in
its part of merging, of clearing and of reading. -/
def codeFor (m : Member) : List Term :=
  (m.accessors b).flatMap (·.body.subterms) ++
    (m.mergeFromValue b.typeName valueVar).subterms ++ (b.mergeMember m).subterms ++
    (m.clear (if m.needsTemplate then some templateVar else none)).flatMap Statement.subterms ++
    (m.partialClear .self).flatMap Statement.subterms ++
    (m.partialClear (.var builderVar)).flatMap Statement.subterms ++
    (applyField m).subterms

theorem calledOn_codeFor {m : Member} {p : Ident × Ident} (h : p ∈ calledOn (b.codeFor m)) :
    p.2 ∈ m.builderMethods := by
  simp only [codeFor, calledOn_append, List.mem_append, m.calledOn_clear, Term.self,
    m.calledOn_partialClear, List.not_mem_nil, or_false, m.calledOn_mergeFromValue,
    b.calledOn_mergeMember, m.calledOn_applyField, calledOn_flatMap, List.mem_flatMap,
    List.mem_cons, List.mem_map] at h
  rcases h with ((⟨f, hf, hp⟩ | rfl) | rfl | ⟨x, hx, rfl⟩) | rfl
  · exact Member.mem_builderMethods_of_accessor hf hp
  · exact m.filler_mem_builderMethods
  · exact m.filler_mem_builderMethods
  · exact Member.mem_builderMethods_of_mem_readers hx
  · exact m.presetter_mem_builderMethods

/-! ## Code for all members -/

theorem calledOn_mergeFromFunction : calledOn b.mergeFromFunction.body.subterms =
    b.members.map fun m => (selfVar, m.filler) := by
  have hmembers := Statement.filterMap_subterms_map
    (fun m => Member.calledOn_mergeFromValue m b.typeName valueVar) b.members
  simp only [mergeFromFunction, Member.changer, Body.subterms, calledOn_append]
  exact (congrArg (· ++ _) hmembers).trans (List.append_nil _)

theorem calledOn_mergeFromBuilderFunction :
    calledOn b.mergeFromBuilderFunction.body.subterms =
      b.members.flatMap fun m => (selfVar, m.filler) :: m.readers.map (templateVar, ·) := by
  simp [mergeFromBuilderFunction, Member.changer, Body.subterms, Outcome.subterms, Term.self,
    Term.calledOn?, calledOn_flatMap, List.flatMap_map, calledOn_mergeMember]

theorem calledOn_deserializeFunction : calledOn b.deserializeFunction.body.subterms =
    b.members.map (fun m => (builderVar, m.presetter)) ++ [(builderVar, plain "build")] := by
  have hresult : calledOn b.deserializeResult.subterms = [(builderVar, plain "build")] := by
    unfold deserializeResult
    dsimp only
    split <;> simp [Term.apply, Term.calledOn?]
  have hmembers := Statement.filterMap_subterms_map Member.calledOn_applyField b.members
  simp only [deserializeFunction, deserializeBody, Body.subterms, Outcome.subterms,
    List.flatMap_append, calledOn_append, hresult]
  exact congrArg (· ++ _) hmembers

theorem calledOn_clearFunction : calledOn b.clearFunction.body.subterms = [] := by
  have hmembers : calledOn ((b.members.flatMap fun m =>
      m.clear (if m.needsTemplate then some templateVar else none)).flatMap Statement.subterms) =
        [] := by
    rw [List.flatMap_assoc]
    exact calledOn_flatMap_eq_nil fun m _ => m.calledOn_clear _
  have hpartial : calledOn ((b.members.flatMap (·.partialClear .self)).flatMap
      Statement.subterms) = [] := by
    rw [List.flatMap_assoc]
    exact calledOn_flatMap_eq_nil fun m _ => m.calledOn_partialClear _
  unfold clearFunction
  dsimp only
  split
  · simp only [Member.changer, Body.subterms, Outcome.subterms, clearStatements,
      List.flatMap_append, calledOn_append, hmembers]
    split <;> split <;> rfl
  · simp only [Member.changer, Body.subterms, calledOn_append, hpartial]
    rfl

theorem calledOn_valueToBuilder : calledOn b.valueToBuilder.body.subterms =
    [(builderVar, plain "merge_from")] := by
  have hmembers : calledOn ((b.members.flatMap (·.partialClear (.var builderVar))).flatMap
      Statement.subterms) = [] := by
    rw [List.flatMap_assoc]
    exact calledOn_flatMap_eq_nil fun m _ => m.calledOn_partialClear _
  simp only [valueToBuilder, Body.subterms, List.flatMap_append, calledOn_append, hmembers]
  rfl

/-- A record of the terms for the members, and perhaps one more, calls no method. -/
theorem calledOn_record {value : Member → Term} {more : Record}
    (h : ∀ m ∈ b.members, calledOn (value m).subterms = [])
    (hmore : calledOn (more.flatMap (·.2.subterms)) = []) :
    calledOn ((b.members.map (fun m => (m.name, value m)) ++ more).flatMap (·.2.subterms)) =
      [] := by
  rw [List.flatMap_append, calledOn_append, hmore, List.append_nil, List.flatMap_map]
  exact calledOn_flatMap_eq_nil h

theorem calledOn_builderNew : calledOn b.builderNew.body.subterms = [] := by
  have hunset : calledOn b.allUnset.subterms = [] := by
    simp only [allUnset, Term.apply, Term.subterms, Term.subtermsOfAll, Term.subtermsOfAll_eq,
      List.flatMap_map, calledOn_cons, List.append_nil]
    exact calledOn_flatMap_eq_nil fun m _ => rfl
  refine b.calledOn_record (fun m _ => m.calledOn_initial) ?_
  split
  · simpa using hunset
  · rfl

theorem calledOn_buildFunction : calledOn b.buildFunction.body.subterms = [] := by
  unfold buildFunction
  dsimp only
  split <;> rfl

theorem calledOn_valueNew : calledOn b.valueNew.body.subterms = [] := by
  have hinitials : calledOn (b.valueInitials.flatMap (·.2.subterms)) = [] := by
    have hvalue (m : Member) : calledOn (m.finalValue builderVar).subterms = [] := by
      unfold Member.finalValue
      split <;> rfl
    have hmore : calledOn (([] : Record).flatMap (·.2.subterms)) = [] := rfl
    simpa [valueInitials] using b.calledOn_record (fun m _ => hvalue m) hmore
  unfold valueNew
  dsimp only
  split
  · simpa [Body.subterms, Outcome.subterms, bindUnset, Term.calledOn?] using hinitials
  · simpa [Body.subterms, Outcome.subterms] using hinitials

theorem calledOn_partialNew : calledOn b.partialNew.body.subterms = [] := by
  refine b.calledOn_record (fun m _ => rfl) ?_
  split <;> rfl

theorem calledOn_serializeFunction : calledOn b.serializeFunction.body.subterms = [] := by
  have hmembers : calledOn ((b.members.map serializeMember).flatMap Statement.subterms) = [] := by
    rw [List.flatMap_map]
    exact calledOn_flatMap_eq_nil fun m _ => rfl
  simp only [serializeFunction, serializeBody, Body.subterms, List.flatMap_append,
    calledOn_append, hmembers]
  rfl

end Blueprint

end TraitBuilder
