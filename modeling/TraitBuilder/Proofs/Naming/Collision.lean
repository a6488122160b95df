import Mathlib.Data.List.Nodup
import TraitBuilder.Expansion

/-!
# Members without collisions

The methods of all members are walked in order, and a method whose name was seen before is a
problem.  Without such a problem all methods have different names, so all members have different
labels, since every member has a setter.

* `collisions_eq_nil_iff`: there is no problem exactly if the methods are pairwise different.
* `label_nodup_of_collisions_eq_nil`: members without collisions have different labels.
-/

namespace TraitBuilder

/-- The names of all methods of the members, in order. -/
def methodNames (members : List Member) : List Ident := members.flatMap Member.builderMethods

theorem map_fst_methodOwners (members : List Member) :
    (methodOwners members).map (·.1) = methodNames members := by
  simp [methodOwners, methodNames, List.map_flatMap, Function.comp_def]

/-- The invariant of the walk: a method is reported exactly if it is among those seen before. -/
theorem collisionsAfter_eq_nil_iff (seen pairs : List (Ident × Ident)) :
    collisionsAfter seen pairs = [] ↔
      (pairs.map (·.1)).Nodup ∧ ∀ p ∈ pairs, ∀ q ∈ seen, q.1 ≠ p.1 := by
  induction pairs generalizing seen with
  | nil => simp [collisionsAfter]
  | cons pair rest ih =>
    obtain ⟨method, owner⟩ := pair
    cases hfind : seen.find? (·.1 = method) with
    | some first =>
      have hseen := List.mem_of_find?_eq_some hfind
      have heq : first.1 = method := by simpa using List.find?_some hfind
      simp only [collisionsAfter, hfind, reduceCtorEq, false_iff]
      rintro ⟨-, hfresh⟩
      exact hfresh _ List.mem_cons_self first hseen heq
    | none =>
      have hnew : ∀ q ∈ seen, q.1 ≠ method := by simpa using hfind
      simp only [collisionsAfter, hfind, ih, List.map_cons, List.nodup_cons]
      constructor
      · rintro ⟨hnodup, hfresh⟩
        refine ⟨⟨?_, hnodup⟩, ?_⟩
        · intro hmem
          obtain ⟨p, hp, hpm⟩ := List.mem_map.mp hmem
          exact hfresh p hp (method, owner) (by simp) hpm.symm
        · intro p hp q hq
          rcases List.mem_cons.mp hp with rfl | hp
          · exact hnew q hq
          · exact hfresh p hp q (by simp [hq])
      · rintro ⟨⟨hnotin, hnodup⟩, hfresh⟩
        refine ⟨hnodup, ?_⟩
        intro p hp q hq
        rcases List.mem_append.mp hq with hq | hq
        · exact hfresh p (List.mem_cons_of_mem _ hp) q hq
        · obtain rfl := List.mem_singleton.mp hq
          intro heq
          exact hnotin (List.mem_map.mpr ⟨p, hp, heq.symm⟩)

theorem collisions_eq_nil_iff (members : List Member) :
    collisions members = [] ↔ (methodNames members).Nodup := by
  simp [collisions, collisionsAfter_eq_nil_iff, map_fst_methodOwners]

/-! ## Names derived from labels -/

namespace Member

theorem name_mem_builderMethods (m : Member) : m.name ∈ m.builderMethods := by
  unfold builderMethods name
  cases m.role <;> simp

theorem setter_mem_builderMethods (m : Member) : m.property.setter ∈ m.builderMethods := by
  unfold builderMethods
  cases m.role <;> simp

end Member

theorem setter_sublist_methodNames (members : List Member) :
    (members.map fun m => m.property.setter).Sublist (methodNames members) := by
  induction members with
  | nil => exact List.Sublist.slnil
  | cons m rest ih =>
    have hsetter : [m.property.setter].Sublist m.builderMethods :=
      List.singleton_sublist.mpr m.setter_mem_builderMethods
    exact hsetter.append ih

/-- Members whose methods do not collide have different labels, since the setter of each is made
from its label. -/
theorem label_nodup_of_collisions_eq_nil {members : List Member} (h : collisions members = []) :
    (members.map Member.label).Nodup := by
  have hset := (setter_sublist_methodNames members).nodup ((collisions_eq_nil_iff members).mp h)
  have hmap : (members.map fun m => m.property.setter) =
      (members.map Member.label).map fun label => ⟨"set_" ++ label, false⟩ := by
    simp [Member.label, Property.setter, Property.derived]
  exact (hmap ▸ hset).of_map _

end TraitBuilder
