import TraitBuilder.Generated.Equality
import TraitBuilder.Proofs.Meaning.Comparison

/-!
# Comparing and hashing members

Members are compared and hashed by what is stored, floating point numbers by their bit patterns.
The two go about it in different ways: for a list of floating point numbers equality compares two
iterators, and the hash is fed with the length and each element.

* `Member.compute_memberTest`: the test of a member tells whether what it is compared by is equal.
* `Member.feedAll_hashMember`: what a member feeds to a hash.
* `Member.fed_eq_of_agrees`: members that agree feed a hash the same.
-/

namespace TraitBuilder

open Code Meaning

variable {D W : Type}

/-! ## Bit patterns -/

namespace Meaning

/-- The value is a floating point number, an option of one, or a list of them. -/
def Value.HoldsFloats (layout : Layout) (v : Value D) : Prop :=
  match layout with
  | .plain => ∃ d, v = .data d
  | .optional => v = .absent ∨ ∃ d, v = .present (.data d)
  | .list => ∃ ds : List D, v = .list (ds.map .data)

namespace Comparing

variable (c : Comparing D W)

/-- The bit pattern of a floating point number. -/
def pattern : Value D → Value D
  | .data d => .number (c.bits d)
  | v => v

/-- The value with its bit pattern in place of every floating point number. -/
def patterns : Value D → Value D
  | .present v => .present (c.pattern v)
  | .list vs => .list (vs.map c.pattern)
  | v => c.pattern v

theorem equalsAll_numbers (ms ns : List Nat) :
    c.equalsAll (ms.map .number) (ns.map .number) = true ↔ ms = ns := by
  induction ms generalizing ns with
  | nil => cases ns <;> simp [equalsAll]
  | cons m ms ih => cases ns <;> simp [equalsAll, equals, ih]

theorem hashedAll_numbers (ns : List Nat) :
    c.hashedAll (ns.map .number) = ns.map .number := by
  induction ns with
  | nil => rfl
  | cons n ns ih => simp [hashedAll, hashed, ih]

theorem patterns_list (ds : List D) :
    c.patterns (.list (ds.map .data)) = .list ((ds.map c.bits).map .number) := by
  simp [patterns, pattern, Function.comp_def]

/-- Bit patterns are equal as values exactly if they are the same. -/
theorem equals_patterns_iff {layout : Layout} {v w : Value D} (hv : v.HoldsFloats layout)
    (hw : w.HoldsFloats layout) :
    c.equals (c.patterns v) (c.patterns w) = true ↔ c.patterns v = c.patterns w := by
  cases layout with
  | plain =>
    obtain ⟨d, rfl⟩ := hv
    obtain ⟨e, rfl⟩ := hw
    simp [patterns, pattern, equals]
  | optional =>
    rcases hv with rfl | ⟨d, rfl⟩ <;> rcases hw with rfl | ⟨e, rfl⟩ <;>
      simp [patterns, pattern, equals]
  | list =>
    obtain ⟨ds, rfl⟩ := hv
    obtain ⟨es, rfl⟩ := hw
    rw [patterns_list, patterns_list, equals, equalsAll_numbers, Value.list.injEq,
      List.map_inj_right fun _ _ => Value.number.inj]

end Comparing

end Meaning

/-! ## Members -/

namespace Member

variable (c : Comparing D W) (m : Member)

/-- What the member is compared and hashed by. -/
def compared (v : Value D) : Value D := if m.elementKind = .float then c.patterns v else v

/-- Two stored values of the member are equal: of floating point numbers the bit patterns. -/
def Agrees (v w : Value D) : Prop :=
  if m.elementKind = .float then c.patterns v = c.patterns w else c.equals v w = true

/-- The value is stored as the generated code expects it. -/
def Stores (layout : Layout) (v : Value D) : Prop :=
  m.elementKind = .float → v.HoldsFloats layout

variable {c m} {k : Context D} {env : Env D} {layout : Layout} {v w : Value D}

theorem equals_compared_iff (hv : m.Stores layout v) (hw : m.Stores layout w) :
    c.equals (m.compared c v) (m.compared c w) = true ↔ m.Agrees c v w := by
  unfold compared Agrees
  split
  · next h => exact c.equals_patterns_iff (hv h) (hw h)
  · rfl

/-- The closure takes a floating point number to its bit pattern. -/
theorem compute_bitsOf (d : D) :
    c.compute k (bitsOf (.var valueVar)) (env.bind valueVar (.data d)) =
      .ok (.number (c.bits d)) :=
  Comparing.compute_toBits (Comparing.compute_of_evaluate c
    (evaluate_var (by decide) (Fields.get?_cons_self _ _ _)))

theorem compute_comparable {stored : Term} (hv : m.Stores layout v)
    (hstored : c.compute k stored env = .ok v) :
    c.compute k (comparable m layout stored) env = .ok (m.compared c v) := by
  by_cases hfloat : m.elementKind = .float
  · have hholds := hv hfloat
    have hcomparable : (m.elementKind != .float) = false := by simp [hfloat]
    unfold comparable compared
    rw [if_pos hfloat, hcomparable, if_neg Bool.false_ne_true]
    -- where the number is stored decides how the term gets at its pattern
    cases layout with
    | plain =>
      obtain ⟨d, rfl⟩ := hholds
      exact Comparing.compute_toBits hstored
    | optional =>
      rcases hholds with rfl | ⟨d, rfl⟩
      · exact Comparing.compute_mapOption_absent hstored
      · exact Comparing.compute_mapOption hstored (compute_bitsOf d)
    | list =>
      obtain ⟨ds, rfl⟩ := hholds
      rw [Comparing.patterns_list, List.map_map]
      exact Comparing.compute_mapEach (Comparing.compute_iter hstored) fun d _ => compute_bitsOf d
  · rw [compared, if_neg hfloat, comparable_of_ne_float hfloat]
    exact hstored

theorem compute_memberTest {t : Target} {fs gs : Fields D} {kind : Kind}
    (hfs : fs.get? m.name = some v) (hv : m.Stores (t.layout m) v)
    (hgs : gs.get? m.name = some w) (hw : m.Stores (t.layout m) w) :
    c.compute k (memberTest t m) ⟨.record kind fs, [(otherVar, .record kind gs)]⟩ =
      .ok (.truth (c.equals (m.compared c v) (m.compared c w))) := by
  have hleft : c.compute k (comparable m (t.layout m) (.ownField m.name))
      ⟨.record kind fs, [(otherVar, .record kind gs)]⟩ = .ok (m.compared c v) :=
    compute_comparable hv (Comparing.compute_of_evaluate c (evaluate_ownField rfl hfs))
  have hother : evaluate k ⟨.record kind fs, [(otherVar, .record kind gs)]⟩ (.var otherVar) =
      .ok (.record kind gs) := evaluate_var (by decide) (Fields.get?_cons_self _ _ _)
  have hright : c.compute k (comparable m (t.layout m) (.field (.var otherVar) m.name))
      ⟨.record kind fs, [(otherVar, .record kind gs)]⟩ = .ok (m.compared c w) :=
    compute_comparable hw (Comparing.compute_of_evaluate c (evaluate_field hother hgs))
  unfold memberTest
  dsimp only
  split
  -- lists of floating point numbers go through the iterators of both sides
  · next helements =>
    simp only [comparesElements, Bool.and_eq_true, decide_eq_true_eq] at helements
    obtain ⟨hfloat, hlist⟩ := helements
    rw [hlist] at hv hw
    obtain ⟨ds, rfl⟩ := hv hfloat
    obtain ⟨es, rfl⟩ := hw hfloat
    rw [compared, if_pos hfloat, Comparing.patterns_list] at hleft hright
    rw [compared, if_pos hfloat, compared, if_pos hfloat, Comparing.patterns_list,
      Comparing.patterns_list, Comparing.equals]
    exact Comparing.compute_equalEach hleft hright
  · exact Comparing.compute_compare hleft hright

/-- What a member feeds to a hash. -/
def fed (c : Comparing D W) (m : Member) (layout : Layout) (v : Value D) : List (Fed W) :=
  if comparesElements m layout then
    match c.patterns v with
    | .list vs => .number vs.length :: c.hashedAll vs
    | _ => []
  else c.hashed (m.compared c v)

theorem feedAll_hashMember {t : Target} {fs : Fields D} {kind : Kind}
    (hfs : fs.get? m.name = some v) (hv : m.Stores (t.layout m) v) :
    c.feedAll k stateVar (hashMember t m) ⟨.record kind fs, []⟩ =
      .ok (m.fed c (t.layout m) v) := by
  have hstored : c.compute k (.ownField m.name) ⟨.record kind fs, []⟩ = .ok v :=
    Comparing.compute_of_evaluate c (evaluate_ownField rfl hfs)
  unfold hashMember fed
  dsimp only
  split
  -- lists of floating point numbers feed their length and then one pattern after the other
  · next helements =>
    simp only [comparesElements, Bool.and_eq_true, decide_eq_true_eq] at helements
    obtain ⟨hfloat, hlist⟩ := helements
    rw [hlist] at hv
    obtain ⟨ds, rfl⟩ := hv hfloat
    have hborrow : c.compute k (.borrow false (.ownField m.name)) ⟨.record kind fs, []⟩ =
        .ok (.list (ds.map .data)) := hstored
    have hlength := Comparing.feed_hash stateVar (Comparing.compute_len hstored)
    have hloop := Comparing.feed_each stateVar (g := fun d => [.number (c.bits d)]) hborrow
      fun d _ => Comparing.feedAll_single (Comparing.feed_hash stateVar (compute_bitsOf d))
    have hall := Comparing.feedAll_cons hlength (Comparing.feedAll_single hloop)
    have hpatterns : c.hashedAll ((ds.map c.bits).map .number) =
        ds.flatMap fun d => [.number (c.bits d)] := by
      rw [Comparing.hashedAll_numbers, List.map_map, List.map_eq_flatMap]
      rfl
    rw [Comparing.patterns_list]
    simp only [hpatterns, List.length_map]
    simpa [Comparing.hashed, hashTerm] using hall
  · exact Comparing.feedAll_single
      (Comparing.feed_hash stateVar (compute_comparable hv hstored))

theorem fed_eq_of_agrees (hc : c.Consistent) (hv : m.Stores layout v) (hw : m.Stores layout w)
    (h : m.Agrees c v w) : m.fed c layout v = m.fed c layout w := by
  unfold fed
  split
  · next helements =>
    simp only [comparesElements, Bool.and_eq_true, decide_eq_true_eq] at helements
    rw [Agrees, if_pos helements.1] at h
    rw [h]
  · exact Comparing.hashed_eq_of_equals hc ((equals_compared_iff hv hw).mpr h)

end Member

end TraitBuilder
