import TraitBuilder.Proofs.Naming.References

/-!
# Names that the user did not write

A reference to a type or a field is foreign to a blueprint if the user wrote no identifier of its
name.  What is generated for a member that is not required has no such reference.

* `Member.free_of_foreign`: what a member holds that the user wrote, part by part.
* `Member.not_refers_accessors`: the methods of the builder for a member refer to nothing foreign.
-/

namespace TraitBuilder

open Code

/-! ## What the user wrote -/

/-- The tokens of an initial value. -/
def initialTokens : Option Expr → Tokens
  | none => []
  | some e => e.tokens

/-- The tokens that the user wrote for the part of a member. -/
def Role.userTokens : Role → Tokens
  | .single default | .optional default => initialTokens default
  | .list element default => element.tokens ++ initialTokens default

/-- The tokens that the user wrote for a member: its name, its types, its documentation and its
initial value. -/
def Member.userTokens (m : Member) : Tokens :=
  .ident m.name :: m.property.ty.tokens ++ m.property.returnType.tokens ++
    (docAttributes m.property.doc).flatMap Attribute.tokens ++ m.role.userTokens

/-- The names that the user chose for the types. -/
def Blueprint.userTypes (b : Blueprint) : List Ident :=
  [b.typeName, b.builder, b.value, b.partialType]

/-- The tokens that the user wrote. -/
def Blueprint.userTokens (b : Blueprint) : Tokens :=
  b.userTypes.map .ident ++ b.visibility ++ b.members.flatMap Member.userTokens

namespace Code.Reference

variable {r : Reference}

@[simp] theorem not_within_nil : ¬ r.Within [] := List.not_mem_nil

@[simp] theorem within_ident {x : Ident} {ts : Tokens} :
    r.Within (.ident x :: ts) ↔ r.name = x.name ∨ r.Within ts := by
  simp [Within, Token.namesOfAll, Token.names]

@[simp] theorem within_append {ts us : Tokens} :
    r.Within (ts ++ us) ↔ r.Within ts ∨ r.Within us := by
  induction ts with
  | nil => simp
  | cons t ts ih =>
    unfold Within at ih ⊢
    simp [Token.namesOfAll, ih, or_assoc]

@[simp] theorem within_flatMap {α : Type} {xs : List α} {f : α → Tokens} :
    r.Within (xs.flatMap f) ↔ ∃ x ∈ xs, r.Within (f x) := by
  induction xs with
  | nil => simp
  | cons x xs ih => simp [ih]

/-- A reference to a type or a field whose name is not in the given tokens. -/
structure Foreign (r : Reference) (tokens : Tokens) : Prop where
  declared : (∃ name, r = .type name) ∨ ∃ name, r = .field name
  absent : ¬ r.Within tokens

namespace Foreign

variable {tokens : Tokens}

theorem ne_variable (h : r.Foreign tokens) (name : String) : r ≠ .variable name := by
  rcases h.declared with ⟨_, rfl⟩ | ⟨_, rfl⟩ <;> exact nofun

theorem ne_constant (h : r.Foreign tokens) (name : String) : r ≠ .constant name := by
  rcases h.declared with ⟨_, rfl⟩ | ⟨_, rfl⟩ <;> exact nofun

theorem not_refers_var (h : r.Foreign tokens) (x : Ident) : ¬ (Term.var x).Refers r :=
  h.ne_variable _

end Foreign

end Code.Reference

/-! ## Members -/

namespace Member

/-- Nothing that the user wrote for the member has the name of the reference. -/
structure Free (r : Reference) (m : Member) : Prop where
  name : r ≠ .field m.name.name
  ty : ¬ r.Within m.property.ty.tokens
  returnType : ¬ r.Within m.property.returnType.tokens
  doc : ∀ a ∈ docAttributes m.property.doc, ¬ r.Within a.tokens
  element : ∀ element default, m.role = .list element default → ¬ r.Within element.tokens
  initial : ∀ e, m.role.default = some e → ¬ r.Within e.tokens

variable {r : Reference} {m : Member}

theorem free_of_foreign (hr : r.Foreign m.userTokens) : m.Free r := by
  have h := hr.absent
  simp only [userTokens, List.cons_append, Reference.within_ident, Reference.within_append,
    Reference.within_flatMap, not_or, not_exists, not_and] at h
  obtain ⟨hname, ⟨⟨hty, hreturn⟩, hdoc⟩, hrole⟩ := h
  refine ⟨?_, hty, hreturn, hdoc, ?_, ?_⟩
  · rintro rfl
    exact hname rfl
  · intro element default he hin
    rw [he] at hrole
    exact hrole (Reference.within_append.mpr (Or.inl hin))
  · intro e he hin
    -- for a list, the initial value comes after the type of the elements
    cases hr : m.role with
    | single default | optional default =>
      simp_all [Role.default, Role.userTokens, initialTokens]
    | list element default =>
      simp_all [Role.default, Role.userTokens, initialTokens]

theorem not_refers_changer {b : Blueprint} {decorations : List Decoration} {name : Ident}
    {parameters : List (Ident × TypeExpr)} {trailingComma : Bool} {statements : List Statement}
    {result : Term} (hb : ¬ r.IsType b.builder) (hd : ∀ d ∈ decorations, ¬ d.Refers r)
    (hp : ∀ p ∈ parameters, ¬ p.2.Refers r) (hs : ∀ s ∈ statements, ¬ s.Refers r)
    (hresult : ¬ result.Refers r) :
    ¬ (changer b decorations name parameters trailingComma statements result).Refers r := by
  apply Function.not_refers rfl hd hp
  · rintro t ⟨⟩
    exact hb
  · exact Body.not_refers hs hresult

variable (hr : r.Foreign m.userTokens)

include hr

/-! ### Fields -/

theorem not_refers_storageType (layout : Layout) : ¬ (m.storageType layout).Refers r := by
  have hfree := free_of_foreign hr
  unfold storageType
  split
  · next element default hrole => simpa [TypeExpr.list] using hfree.element _ _ hrole
  · simpa [TypeExpr.option] using hfree.ty
  · simpa using hfree.ty

theorem not_refers_serializedType : ¬ m.serializedType.Refers r := by
  have hfree := free_of_foreign hr
  unfold serializedType
  split
  · next element default hrole =>
    simpa [TypeExpr.list, TypeExpr.option] using hfree.element _ _ hrole
  · simpa [TypeExpr.option] using hfree.ty

theorem not_refers_initial : ¬ m.initial.Refers r := by
  have hfree := free_of_foreign hr
  unfold initial
  split
  · simp [Term.none]
  · simp [Term.none]
  · next e hrole => simpa using hfree.initial e (by rw [hrole]; rfl)
  · next e hrole => simpa [Term.some, Term.apply] using hfree.initial e (by rw [hrole]; rfl)
  · simp [Term.apply]
  · next element e hrole =>
    simpa using ⟨hfree.element _ _ hrole, hfree.initial e (by rw [hrole]; rfl)⟩

theorem not_refers_copied (builder : Ident) : ¬ (m.copied builder).Refers r := by
  simp [copied, Term.clone, Term.apply, hr.ne_variable, (free_of_foreign hr).name]

theorem not_refers_finalValue (hnone : m.isRequired = false) (builder : Ident) :
    ¬ (m.finalValue builder).Refers r := by
  rw [finalValue, if_neg (by simp [hnone])]
  exact not_refers_copied hr builder

theorem not_refers_mergeFromValue {typeName : Ident} (ht : ¬ r.IsType typeName) (value : Ident) :
    ¬ (m.mergeFromValue typeName value).Refers r := by
  unfold mergeFromValue
  dsimp only
  split <;>
    simp [callOwn, clonedElements, Term.ownMethod, Term.self, Term.apply, hr.ne_variable, ht]

theorem not_refers_mergeFromBuilder (builder : Ident) :
    ¬ (m.mergeFromBuilder builder).Refers r := by
  have hname : r ≠ .field m.property.name.name := (free_of_foreign hr).name
  unfold mergeFromBuilder
  dsimp only
  split <;>
    simp [callOwn, clonedElements, Term.ownMethod, Term.self, Term.apply, hr.ne_variable, hname]

theorem not_refers_setFromResult {result : Term} (hresult : ¬ result.Refers r) (builder : Ident) :
    ¬ (m.setFromResult builder result).Refers r := by
  unfold setFromResult
  dsimp only
  split <;> simp [hr.ne_variable, hresult]

theorem not_refers_clear (template : Option Ident) :
    ∀ s ∈ m.clear template, ¬ s.Refers r := by
  have hname := (free_of_foreign hr).name
  unfold clear
  split <;>
    simp [emptied, Term.ownField, Term.self, Term.none, hr.ne_variable, hname]

theorem not_refers_partialClear {receiver : Term} (hreceiver : ¬ receiver.Refers r) :
    ∀ s ∈ m.partialClear receiver, ¬ s.Refers r := by
  have hname := (free_of_foreign hr).name
  unfold partialClear
  split <;> simp [emptied, hreceiver, hname]

/-! ### Accessors -/

theorem not_refers_readStored : ¬ m.readStored.Refers r := by
  have hname := (free_of_foreign hr).name
  simp [readStored, Term.ownFieldRef, Term.ownField, Term.self, hr.ne_variable, hname]

theorem not_refers_userDoc : ∀ d ∈ m.userDoc, ¬ d.Refers r := by
  simpa [userDoc] using (free_of_foreign hr).doc

theorem not_refers_builderGetter {decorations : List Decoration} {outcome : Outcome}
    (hd : ∀ d ∈ decorations, ¬ d.Refers r) (ho : ¬ outcome.Refers r) :
    ¬ (m.builderGetter decorations outcome).Refers r := by
  apply Function.not_refers rfl hd (by simp [builderGetter])
  · rintro t ⟨⟩
    exact (free_of_foreign hr).returnType
  · exact Body.not_refers (List.forall_mem_nil _) ho

theorem not_refers_setterStatements {b : Blueprint} (hnone : m.isRequired = false) :
    ∀ s ∈ m.setterStatements b, ¬ s.Refers r := by
  have hname := (free_of_foreign hr).name
  unfold setterStatements
  dsimp only
  split
  · next hrole => simp [isRequired, need, hrole] at hnone
  · simp [Term.ownField, Term.self, hr.ne_variable, hname]
  · simp [Term.ownField, Term.self, Term.some, Term.apply, hr.ne_variable, hname]

variable {b : Blueprint} (hb : ¬ r.IsType b.builder)

include hb

theorem not_refers_setterMethod (hnone : m.isRequired = false) :
    ¬ (m.setterMethod b).Refers r := by
  apply not_refers_changer hb
  · simpa using not_refers_userDoc hr
  · simpa using (free_of_foreign hr).ty
  · exact not_refers_setterStatements hr hnone
  · exact hr.ne_variable _

theorem not_refers_accessors (hnone : m.isRequired = false) :
    ∀ f ∈ m.accessors b, ¬ f.Refers r := by
  have hfree := free_of_foreign hr
  have hself : ¬ Term.self.Refers r := hr.ne_variable _
  have hstored : ¬ (Term.ownField m.name).Refers r := by
    simp [Term.ownField, hself, hfree.name]
  have hsetter := not_refers_setterMethod hr hb hnone
  have hgetter : ¬ (m.builderGetter [m.getterDoc b] m.readStored).Refers r :=
    not_refers_builderGetter hr (by simp [getterDoc]) (not_refers_readStored hr)
  unfold accessors
  split
  · simpa [singleAccessors, hnone] using ⟨hsetter, hgetter⟩
  · simp only [optionalAccessors, List.forall_mem_cons]
    refine ⟨hsetter, ?_, ?_, hgetter, List.forall_mem_nil _⟩
    · apply not_refers_changer hb _ _ _ hself
      · simp
      · simpa [TypeExpr.option] using hfree.ty
      · simp [hstored, hr.ne_variable]
    · apply not_refers_changer hb _ _ _ hself
      · simp
      · simp
      · simp [hstored, Term.none]
  · next element default hrole =>
    have helement := hfree.element _ _ hrole
    simp only [listAccessors, List.forall_mem_cons]
    refine ⟨?_, ?_, ?_, ?_, ?_, List.forall_mem_nil _⟩
    · apply not_refers_changer hb _ _ _ hself
      · simpa using not_refers_userDoc hr
      · simpa using helement
      · simp [hstored, hr.ne_variable]
    · apply not_refers_changer hb _ _ _ hself
      · simp
      · simpa using helement
      · simp [hstored, Term.apply, hr.ne_variable]
    · apply not_refers_changer hb
      · simp
      · simpa using helement
      · simp [hstored, emptied]
      · simp [Term.ownMethod, hself, hr.ne_variable]
    · apply not_refers_changer hb _ _ _ hself
      · simp
      · simp
      · simp [hstored, emptied]
    · apply not_refers_builderGetter hr
      · simp
      · simpa [Term.ownFieldRef] using hstored

end Member

end TraitBuilder
