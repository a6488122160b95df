import TraitBuilder.Proofs.Comparison.Members
import TraitBuilder.Proofs.Naming.Accepted

/-!
# Equality and hashing agree

Both built types are compared and hashed member by member unless the user provides it, and a
partial by the set of its unset properties too.  The tests and what is fed to a hash are written one
after the other for the same members, so that both take the same of each.

* `Blueprint.Instance`: the fields of an instance of a built type.
* `Blueprint.runEquality_structuralEq`: comparing has an outcome, whether the instances agree.
* `Blueprint.fed_eq_of_agree`: instances that agree feed a hash the same.
* `equality_agrees_with_hash`: both together.
-/

namespace TraitBuilder

open Code Meaning

variable {D W : Type}

/-! ## Instances -/

/-- What instances of the type are. -/
def Target.kind : Target → Kind
  | .value => .value
  | .partialType => .partialType

/-- The fields of the type. -/
def Target.fields (t : Target) (b : Blueprint) : List (Ident × TypeExpr) :=
  match t with
  | .value => b.valueFields
  | .partialType => b.partialFields

namespace Blueprint

variable {b : Blueprint} {t : Target} {fs gs : Fields D}

/-- Equality and hashing of the type go member by member: nobody else provides them. -/
def Structural (b : Blueprint) : Target → Prop
  | .value => b.standards.equality = .absent ∧ b.standards.hashing = .absent
  | .partialType => b.standards.equality ≠ .final ∧ b.standards.hashing ≠ .final

/-- The set of the unset properties is part of the type. -/
def KeepsUnset (b : Blueprint) (t : Target) : Prop := t = .partialType ∧ b.hasRequired = true

/-- The fields are those of an instance of the type. -/
structure Instance (b : Blueprint) (t : Target) (fs : Fields D) : Prop where
  names : fs.map (·.1) = (t.fields b).map (·.1)
  members : ∀ m ∈ b.members, ∀ v, (m.name, v) ∈ fs → m.Stores (t.layout m) v
  unset : b.KeepsUnset t → ∃ xs, (unsetField, .set xs) ∈ fs

/-- Two instances are equal member by member, and in their unset properties. -/
structure Agree (b : Blueprint) (c : Comparing D W) (t : Target) (fs gs : Fields D) : Prop where
  members : ∀ m ∈ b.members, ∀ v w, (m.name, v) ∈ fs → (m.name, w) ∈ gs → m.Agrees c v w
  unset : b.KeepsUnset t → ∀ v w, (unsetField, v) ∈ fs → (unsetField, w) ∈ gs → v = w

theorem nodup_fields (hd : (b.builderFields.map (·.1.name)).Nodup) (t : Target) :
    (((t.fields b).map (·.1)).map (·.name)).Nodup := by
  rw [List.map_map]
  cases t with
  | partialType => exact hd
  | value =>
    have hnames : b.valueFields.map (Ident.name ∘ (·.1)) = b.members.map (·.name.name) := by
      simp [valueFields, Member.valueField, Function.comp_def]
    rw [builderFields, List.map_append, List.map_map] at hd
    rw [Target.fields, hnames]
    exact (List.nodup_append.mp hd).1

theorem name_mem_fields {m : Member} (hm : m ∈ b.members) (t : Target) :
    m.name ∈ (t.fields b).map (·.1) := by
  cases t with
  | value => exact List.mem_map.mpr ⟨m.valueField, List.mem_map_of_mem hm, rfl⟩
  | partialType =>
    exact List.mem_map.mpr
      ⟨m.partialField, List.mem_append_left _ (List.mem_map_of_mem hm), rfl⟩

namespace Instance

theorem get?_of_mem (h : b.Instance t fs) (hd : (b.builderFields.map (·.1.name)).Nodup)
    {x : Ident} {v : Value D} (hmem : (x, v) ∈ fs) : fs.get? x = some v :=
  Fields.get?_of_mem (Fields.nodup_of_map_fst h.names (nodup_fields hd t)) hmem

theorem exists_mem (h : b.Instance t fs) {m : Member} (hm : m ∈ b.members) :
    ∃ v, (m.name, v) ∈ fs := by
  have hname : m.name ∈ fs.map (·.1) := h.names ▸ name_mem_fields hm t
  obtain ⟨⟨x, v⟩, hmem, rfl⟩ := List.mem_map.mp hname
  exact ⟨v, hmem⟩

end Instance

/-! ## Equality -/

/-- The function that compares instances member by member. -/
def structuralEq (b : Blueprint) (t : Target) : Function :=
  equalityFunction (markUnused otherVar (b.equalityTests t).isEmpty) .self
    ⟨[], .all (b.equalityTests t)⟩

theorem equalityItems_of_structural (h : b.Structural t) :
    b.equalityItems t = [derivedImpl equalityTrait (t.name b) [b.structuralEq t]] := by
  unfold equalityItems
  cases t with
  | value =>
    rw [h.1]
    rfl
  | partialType =>
    cases hequality : b.standards.equality with
    | final => exact absurd hequality h.1
    | overridable | absent => rfl

/-- The test of the unset properties. -/
def unsetTest : Term := .compare .equal Member.ownUnset (.field (.var otherVar) unsetField)

theorem keepsUnset_iff : (t = .partialType && b.hasRequired) = true ↔ b.KeepsUnset t := by
  simp [KeepsUnset]

variable {c : Comparing D W} {k : Context D}

/-- The test of a member of two instances has an outcome, which is whether they agree. -/
theorem compute_memberTest (hd : (b.builderFields.map (·.1.name)).Nodup) (hf : b.Instance t fs)
    (hg : b.Instance t gs) {m : Member} (hm : m ∈ b.members) :
    ∃ outcome, c.compute k (memberTest t m)
        ⟨.record t.kind fs, [(otherVar, .record t.kind gs)]⟩ = .ok (.truth outcome) ∧
      (outcome = true ↔ ∀ v w, (m.name, v) ∈ fs → (m.name, w) ∈ gs → m.Agrees c v w) := by
  obtain ⟨v, hv⟩ := hf.exists_mem hm
  obtain ⟨w, hw⟩ := hg.exists_mem hm
  have hfs := hf.get?_of_mem hd hv
  have hgs := hg.get?_of_mem hd hw
  have hsv := hf.members m hm v hv
  have hsw := hg.members m hm w hw
  refine ⟨_, Member.compute_memberTest hfs hsv hgs hsw, ?_⟩
  rw [Member.equals_compared_iff hsv hsw]
  constructor
  · intro h v' w' hv' hw'
    -- names differ, so there is only one field of this name on each side
    obtain rfl : v = v' := Option.some.inj (hfs.symm.trans (hf.get?_of_mem hd hv'))
    obtain rfl : w = w' := Option.some.inj (hgs.symm.trans (hg.get?_of_mem hd hw'))
    exact h
  · intro h
    exact h v w hv hw

theorem compute_unsetTest (hd : (b.builderFields.map (·.1.name)).Nodup) (hf : b.Instance t fs)
    (hg : b.Instance t gs) (hkeeps : b.KeepsUnset t) :
    ∃ outcome, c.compute k unsetTest
        ⟨.record t.kind fs, [(otherVar, .record t.kind gs)]⟩ = .ok (.truth outcome) ∧
      (outcome = true ↔ ∀ v w, (unsetField, v) ∈ fs → (unsetField, w) ∈ gs → v = w) := by
  obtain ⟨xs, hxs⟩ := hf.unset hkeeps
  obtain ⟨ys, hys⟩ := hg.unset hkeeps
  have hfs := hf.get?_of_mem hd hxs
  have hgs := hg.get?_of_mem hd hys
  have hleft : c.compute k Member.ownUnset
      ⟨.record t.kind fs, [(otherVar, .record t.kind gs)]⟩ = .ok (.set xs) :=
    Comparing.compute_of_evaluate c (evaluate_ownField rfl hfs)
  have hother : evaluate k ⟨.record t.kind fs, [(otherVar, .record t.kind gs)]⟩ (.var otherVar) =
      .ok (.record t.kind gs) := evaluate_var (by decide) (Fields.get?_cons_self _ _ _)
  have hright : c.compute k (.field (.var otherVar) unsetField)
      ⟨.record t.kind fs, [(otherVar, .record t.kind gs)]⟩ = .ok (.set ys) :=
    Comparing.compute_of_evaluate c (evaluate_field hother hgs)
  refine ⟨_, Comparing.compute_compare hleft hright, ?_⟩
  rw [Comparing.equals, decide_eq_true_eq]
  constructor
  · rintro rfl v w hv hw
    have hv' := hfs.symm.trans (hf.get?_of_mem hd hv)
    have hw' := hgs.symm.trans (hg.get?_of_mem hd hw)
    exact Option.some.inj (hv'.symm.trans hw')
  · intro h
    exact Value.set.inj (h _ _ hxs hys)

theorem mem_equalityTests {test : Term} :
    test ∈ b.equalityTests t ↔ (∃ m ∈ b.members, memberTest t m = test) ∨
      b.KeepsUnset t ∧ test = unsetTest := by
  rw [equalityTests, List.mem_append, List.mem_map, ← unsetTest]
  by_cases h : b.KeepsUnset t
  · rw [if_pos (keepsUnset_iff.mpr h)]
    simp [h]
  · rw [if_neg fun htrue => h (keepsUnset_iff.mp htrue)]
    simp [h]

/-- Comparing two instances has an outcome, which is whether they agree. -/
theorem runEquality_structuralEq (hd : (b.builderFields.map (·.1.name)).Nodup)
    (hf : b.Instance t fs) (hg : b.Instance t gs) :
    ∃ answer, c.runEquality k (b.structuralEq t) (.record t.kind fs) (.record t.kind gs) =
      .ok answer ∧ (answer = true ↔ b.Agree c t fs gs) := by
  -- the parameter is marked as unused only if there is no test
  have hother : ∀ test ∈ b.equalityTests t,
      markUnused otherVar (b.equalityTests t).isEmpty = otherVar := by
    intro test htest
    rw [markUnused, if_neg]
    simpa using List.ne_nil_of_mem htest
  have houtcome : ∀ test ∈ b.equalityTests t, ∃ outcome, c.compute k test
      ⟨.record t.kind fs, [(markUnused otherVar (b.equalityTests t).isEmpty, .record t.kind gs)]⟩ =
        .ok (.truth outcome) := by
    intro test htest
    rw [hother test htest]
    rcases mem_equalityTests.mp htest with ⟨m, hm, rfl⟩ | ⟨hkeeps, rfl⟩
    · obtain ⟨outcome, hrun, -⟩ := compute_memberTest hd hf hg hm
      exact ⟨outcome, hrun⟩
    · obtain ⟨outcome, hrun, -⟩ := compute_unsetTest hd hf hg hkeeps
      exact ⟨outcome, hrun⟩
  obtain ⟨answer, hrun, hanswer⟩ := c.exists_allHold houtcome
  refine ⟨answer, hrun, hanswer.trans ?_⟩
  constructor
  · intro hall
    refine ⟨fun m hm => ?_, fun hkeeps => ?_⟩
    · have htest : memberTest t m ∈ b.equalityTests t :=
        mem_equalityTests.mpr (Or.inl ⟨m, hm, rfl⟩)
      obtain ⟨outcome, hcompute, houtcome⟩ := compute_memberTest hd hf hg hm
      have htrue := hall _ htest
      rw [hother _ htest, hcompute] at htrue
      exact houtcome.mp (by simpa using htrue)
    · have htest : unsetTest ∈ b.equalityTests t := mem_equalityTests.mpr (Or.inr ⟨hkeeps, rfl⟩)
      obtain ⟨outcome, hcompute, houtcome⟩ := compute_unsetTest hd hf hg hkeeps
      have htrue := hall _ htest
      rw [hother _ htest, hcompute] at htrue
      exact houtcome.mp (by simpa using htrue)
  · intro hagree test htest
    rw [hother test htest]
    rcases mem_equalityTests.mp htest with ⟨m, hm, rfl⟩ | ⟨hkeeps, rfl⟩
    · obtain ⟨outcome, hcompute, houtcome⟩ := compute_memberTest hd hf hg hm
      rw [hcompute, houtcome.mpr (hagree.members m hm)]
    · obtain ⟨outcome, hcompute, houtcome⟩ := compute_unsetTest hd hf hg hkeeps
      rw [hcompute, houtcome.mpr (hagree.unset hkeeps)]

/-! ## Hashing -/

/-- The function that hashes instances member by member. -/
def structuralHashing (b : Blueprint) (t : Target) : Function :=
  hashFunction (markUnused stateVar (b.hashStatements t).isEmpty) ⟨b.hashStatements t, .nothing⟩

theorem hashItems_of_structural (h : b.Structural t) :
    b.hashItems t = [derivedImpl hashTrait (t.name b) [b.structuralHashing t]] := by
  unfold hashItems
  cases t with
  | value =>
    rw [h.2]
    rfl
  | partialType =>
    cases hhashing : b.standards.hashing with
    | final => exact absurd hhashing h.2
    | overridable | absent => rfl

/-- What an instance feeds to a hash. -/
def fed (b : Blueprint) (c : Comparing D W) (t : Target) (fs : Fields D) : List (Fed W) :=
  (b.members.flatMap fun m => ((fs.get? m.name).map (m.fed c (t.layout m))).getD []) ++
    if t = .partialType && b.hasRequired then ((fs.get? unsetField).map c.hashed).getD [] else []

theorem runHash_structuralHashing (hd : (b.builderFields.map (·.1.name)).Nodup)
    (hf : b.Instance t fs) :
    c.runHash k (b.structuralHashing t) (.record t.kind fs) = .ok (b.fed c t fs) := by
  have hmembers : c.feedAll k stateVar (b.members.flatMap (hashMember t))
      ⟨.record t.kind fs, []⟩ = .ok (b.members.flatMap fun m =>
        ((fs.get? m.name).map (m.fed c (t.layout m))).getD []) := by
    refine Comparing.feedAll_flatMap fun m hm => ?_
    obtain ⟨v, hv⟩ := hf.exists_mem hm
    have hget := hf.get?_of_mem hd hv
    rw [Member.feedAll_hashMember hget (hf.members m hm v hv), hget]
    rfl
  have hunset : c.feedAll k stateVar
      (if t = .partialType && b.hasRequired then [hashTerm Member.ownUnset] else [])
      ⟨.record t.kind fs, []⟩ = .ok (if t = .partialType && b.hasRequired then
        ((fs.get? unsetField).map c.hashed).getD [] else []) := by
    split
    · next hkeeps =>
      obtain ⟨xs, hxs⟩ := hf.unset (keepsUnset_iff.mp hkeeps)
      have hget := hf.get?_of_mem hd hxs
      rw [hget]
      exact Comparing.feedAll_single (Comparing.feed_hash stateVar
        (Comparing.compute_of_evaluate c (evaluate_ownField rfl hget)))
    · rfl
  have hall := Comparing.feedAll_append hmembers hunset
  -- the parameter is marked as unused only if nothing is fed
  have hstate : b.hashStatements t = [] ∨
      markUnused stateVar (b.hashStatements t).isEmpty = stateVar := by
    cases b.hashStatements t with
    | nil => exact Or.inl rfl
    | cons s rest => exact Or.inr rfl
  change c.feedAll k (markUnused stateVar (b.hashStatements t).isEmpty) (b.hashStatements t)
    ⟨.record t.kind fs, []⟩ = .ok (b.fed c t fs)
  rcases hstate with hnil | hstate
  · have hnone : c.feedAll k stateVar (b.hashStatements t) ⟨.record t.kind fs, []⟩ =
        .ok (b.fed c t fs) := hall
    rw [hnil] at hnone ⊢
    exact hnone
  · rw [hstate]
    exact hall

theorem fed_eq_of_agree (hd : (b.builderFields.map (·.1.name)).Nodup) (hf : b.Instance t fs)
    (hg : b.Instance t gs) (hc : c.Consistent) (h : b.Agree c t fs gs) :
    b.fed c t fs = b.fed c t gs := by
  have hmember : ∀ m ∈ b.members, ((fs.get? m.name).map (m.fed c (t.layout m))).getD [] =
      ((gs.get? m.name).map (m.fed c (t.layout m))).getD [] := by
    intro m hm
    obtain ⟨v, hv⟩ := hf.exists_mem hm
    obtain ⟨w, hw⟩ := hg.exists_mem hm
    rw [hf.get?_of_mem hd hv, hg.get?_of_mem hd hw]
    exact Member.fed_eq_of_agrees hc (hf.members m hm v hv) (hg.members m hm w hw)
      (h.members m hm v w hv hw)
  unfold fed
  rw [List.flatMap_def, List.flatMap_def, List.map_congr_left hmember]
  split
  · next hkeeps =>
    have hkeeps := keepsUnset_iff.mp hkeeps
    obtain ⟨xs, hxs⟩ := hf.unset hkeeps
    obtain ⟨ys, hys⟩ := hg.unset hkeeps
    rw [hf.get?_of_mem hd hxs, hg.get?_of_mem hd hys, h.unset hkeeps _ _ hxs hys]
  · rfl

end Blueprint

/-! ## Both together -/

/-- Two instances of a type are compared and hashed by the only functions that are generated for
it: they are equal exactly if all that is compared is equal, and equal instances feed a hash the
same. -/
def Blueprint.ComparedAsHashed (b : Blueprint) (c : Comparing D W) (k : Context D) (t : Target)
    (fs gs : Fields D) : Prop :=
  ∃ eq hash, b.equalityItems t = [derivedImpl equalityTrait (t.name b) [eq]] ∧
    b.hashItems t = [derivedImpl hashTrait (t.name b) [hash]] ∧
    ∃ answer left right,
      c.runEquality k eq (.record t.kind fs) (.record t.kind gs) = .ok answer ∧
      c.runHash k hash (.record t.kind fs) = .ok left ∧
      c.runHash k hash (.record t.kind gs) = .ok right ∧
      (answer = true ↔ b.Agree c t fs gs) ∧
      (c.Consistent → answer = true → left = right)

/-- Where equality and hashing go member by member, and the fields have different names, they agree
for any two instances. -/
theorem equality_agrees_with_hash {b : Blueprint} {t : Target}
    (hd : (b.builderFields.map (·.1.name)).Nodup) (hs : b.Structural t) (c : Comparing D W)
    (k : Context D) {fs gs : Fields D} (hf : b.Instance t fs) (hg : b.Instance t gs) :
    b.ComparedAsHashed c k t fs gs := by
  obtain ⟨answer, hrun, hanswer⟩ := Blueprint.runEquality_structuralEq hd hf hg
  refine ⟨_, _, Blueprint.equalityItems_of_structural hs, Blueprint.hashItems_of_structural hs,
    answer, _, _, hrun, Blueprint.runHash_structuralHashing hd hf,
    Blueprint.runHash_structuralHashing hd hg, hanswer, ?_⟩
  intro hc hequal
  exact Blueprint.fed_eq_of_agree hd hf hg hc (hanswer.mp hequal)

/-! ## Readings that are no numbers -/

/-- The getter `price` of a floating point number, the getter `owner`, the optional floating point
number `discount`, and the list `readings` of floating point numbers. -/
def priceTrait : TraitDecl :=
  .ofGetters (plain "Price") [
    (plain "price", .ofIdent (plain "f64")),
    (plain "owner", .number),
    (plain "discount", .applied (.ofIdent (plain "Option")) [.punct '<' false]
      (.ofIdent (plain "f32")) [.punct '>' false]),
    (plain "readings", .reference none false (.slice (.ofIdent (plain "f64"))))]

/-- Its blueprint without arguments. -/
def priceBlueprint : Blueprint := priceTrait.blueprint {}

/-- Floating point numbers by their bit patterns; that of 0 stands for one that is not equal to
itself. -/
def patternsOnly : Comparing Nat Nat where
  equal d e := d ≠ 0 ∧ d = e
  hash d := [d]
  bits d := d

/-- What the bodies of the partial depend on. -/
def priceContext : Context Nat :=
  priceBlueprint.context (fun _ => .unit) .partialType (priceBlueprint.link (fun _ => .unit) 0)

/-- A partial with the given readings, without a price. -/
def priceFields (readings : List Nat) : Fields Nat := [
  (plain "price", .absent),
  (plain "owner", .present (.number 7)),
  (plain "discount", .present (.data 0)),
  (plain "readings", .list (readings.map .data)),
  (unsetField, .set [plain "Price"])]

theorem priceFields_instance (readings : List Nat) :
    priceBlueprint.Instance .partialType (priceFields readings) where
  names := by
    simp only [priceFields, List.map_cons, List.map_nil]
    decide
  members m hm v hv hfloat := by
    have hnames : ∀ m ∈ priceBlueprint.members, m.elementKind = .float →
        (m.name, m.partialLayout) ∈ [(plain "price", Layout.optional),
          (plain "discount", Layout.optional), (plain "readings", Layout.list)] := by
      decide
    have hname := hnames m hm hfloat
    simp only [List.mem_cons, Prod.mk.injEq, List.not_mem_nil, or_false] at hname
    rw [Target.layout]
    rcases hname with ⟨hname, hlayout⟩ | ⟨hname, hlayout⟩ | ⟨hname, hlayout⟩
    · rw [hname] at hv
      obtain rfl : v = .absent := by simpa [priceFields, plain, unsetField] using hv
      rw [hlayout]
      exact Or.inl rfl
    · rw [hname] at hv
      obtain rfl : v = .present (.data 0) := by simpa [priceFields, plain, unsetField] using hv
      rw [hlayout]
      exact Or.inr ⟨0, rfl⟩
    · rw [hname] at hv
      obtain rfl : v = .list (readings.map .data) := by
        simpa [priceFields, plain, unsetField] using hv
      rw [hlayout]
      exact ⟨readings, rfl⟩
  unset _ := ⟨[plain "Price"], by simp [priceFields]⟩

theorem priceFields_comparedAsHashed : (priceBlueprint.builderFields.map (·.1.name)).Nodup ∧
    priceBlueprint.Structural .partialType ∧
    (∀ readings, priceBlueprint.Instance .partialType (priceFields readings)) ∧
    patternsOnly.Consistent ∧
    priceBlueprint.ComparedAsHashed patternsOnly priceContext .partialType (priceFields [0, 3])
      (priceFields [0, 4]) := by
  have hd : (priceBlueprint.builderFields.map (·.1.name)).Nodup := by decide
  have hs : priceBlueprint.Structural .partialType := ⟨by decide, by decide⟩
  have hc : patternsOnly.Consistent := by
    intro d e h
    simp only [patternsOnly, Bool.decide_and, Bool.and_eq_true, decide_eq_true_eq] at h
    rw [h.2]
  exact ⟨hd, hs, priceFields_instance, hc, equality_agrees_with_hash hd hs patternsOnly priceContext
    (priceFields_instance _) (priceFields_instance _)⟩

end TraitBuilder
