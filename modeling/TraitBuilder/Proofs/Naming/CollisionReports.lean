import Mathlib.Data.Finset.Card
import Mathlib.Data.Finset.Dedup
import Mathlib.Data.List.Find
import TraitBuilder.Proofs.Code.MethodCalls

/-!
# Collision reports

Which collisions are reported, and where.  The methods of all members are walked in order with the
problems found so far and a table of the texts that are taken, each with the property that took it
first.  The table answers like all methods before, so a method is reported exactly if its text
occurred before, with the property of the first method of that text.

* `reports`: the collisions of methods, read off the methods before each.
* `walked_foldl`: what the walk has found and knows after any methods.
* `checkMembers_eq`: the walk appends the problems of `collisions`.
* `collisionReports_exact`: the reports of a walk, their number, and when there are none.
-/

namespace TraitBuilder

/-! ## The walk -/

/-- The problems found so far, and the texts that are taken, each with the property that took it. -/
structure NameCheck where
  found : List Problem
  taken : List (String × Ident)

namespace NameCheck

/-- One more method: its text is taken, or the property takes it now. -/
def add (check : NameCheck) (owner method : Ident) : NameCheck :=
  match check.taken.find? (·.1 = method.spelling) with
  | some (_, first) => { check with found := check.found ++ [.collision method first] }
  | none => { check with taken := check.taken ++ [(method.spelling, owner)] }

theorem add_of_taken {check : NameCheck} {method : Ident} {entry : String × Ident}
    (h : check.taken.find? (·.1 = method.spelling) = some entry) (owner : Ident) :
    check.add owner method =
      { check with found := check.found ++ [.collision method entry.2] } := by
  rw [add, h]

theorem add_of_free {check : NameCheck} {method : Ident}
    (h : check.taken.find? (·.1 = method.spelling) = none) (owner : Ident) :
    check.add owner method =
      { check with taken := check.taken ++ [(method.spelling, owner)] } := by
  rw [add, h]

/-- One more member, method by method. -/
def addMember (check : NameCheck) (m : Member) : NameCheck :=
  m.builderMethods.foldl (fun check method => check.add m.name method) check

/-- One more method with the property that it belongs to. -/
def addOwned (check : NameCheck) (pair : Ident × Ident) : NameCheck := check.add pair.2 pair.1

theorem foldl_addMember (check : NameCheck) (members : List Member) :
    members.foldl addMember check = (methodOwners members).foldl addOwned check := by
  rw [methodOwners, List.foldl_flatMap]
  congr 1
  funext check m
  rw [addMember, List.foldl_map]
  rfl

end NameCheck

/-- The problems found before with those of members whose methods bear the same name. -/
def checkMembers (found : List Problem) (members : List Member) : List Problem :=
  (members.foldl NameCheck.addMember ⟨found, []⟩).found

/-! ## Reports -/

/-- The texts of the methods. -/
def methodTexts (pairs : List (Ident × Ident)) : List String := pairs.map (·.1.spelling)

/-- The property of the first method of the given text. -/
def firstOwner? (pairs : List (Ident × Ident)) (text : String) : Option Ident :=
  (pairs.find? (·.1.spelling = text)).map (·.2)

/-- What is reported for a method after the methods before it. -/
def report? (before : List (Ident × Ident)) (pair : Ident × Ident) : Option Problem :=
  (firstOwner? before pair.1.spelling).map (.collision pair.1)

/-- What is reported for methods, each after those before it. -/
def reports (pairs : List (Ident × Ident)) : List Problem :=
  pairs.zipIdx.filterMap fun entry => report? (pairs.take entry.2) entry.1

theorem firstOwner?_eq_none_iff {pairs : List (Ident × Ident)} {text : String} :
    firstOwner? pairs text = none ↔ text ∉ methodTexts pairs := by
  simp [firstOwner?, methodTexts]

theorem firstOwner?_concat (pairs : List (Ident × Ident)) (pair : Ident × Ident) (text : String) :
    firstOwner? (pairs ++ [pair]) text =
      (firstOwner? pairs text).or (if pair.1.spelling = text then some pair.2 else none) := by
  by_cases h : pair.1.spelling = text <;> simp [firstOwner?, List.find?_append, h]

@[simp] theorem reports_nil : reports [] = [] := rfl

theorem reports_concat (pairs : List (Ident × Ident)) (pair : Ident × Ident) :
    reports (pairs ++ [pair]) = reports pairs ++ (report? pairs pair).toList := by
  -- the others are judged as without the last method
  have hbefore : (pairs.zipIdx.filterMap fun entry =>
      report? ((pairs ++ [pair]).take entry.2) entry.1) = reports pairs := by
    refine List.filterMap_congr fun entry hentry => ?_
    have hi : entry.2 ≤ pairs.length := (List.snd_lt_of_mem_zipIdx hentry).le.trans (by simp)
    rw [List.take_append_of_le_length hi]
  rw [reports, List.zipIdx_append, List.filterMap_append, hbefore]
  cases h : report? pairs pair <;> simp [h]

/-! ## What the walk knows -/

/-- After some methods: their reports stand after what was found before, and the table answers like
the methods themselves. -/
structure NameCheck.Walked (found : List Problem) (pairs : List (Ident × Ident))
    (check : NameCheck) : Prop where
  reported : check.found = found ++ reports pairs
  answers : ∀ text, (check.taken.find? (·.1 = text)).map (·.2) = firstOwner? pairs text

theorem NameCheck.Walked.addOwned {found : List Problem} {pairs : List (Ident × Ident)}
    {check : NameCheck} (h : check.Walked found pairs) (pair : Ident × Ident) :
    (check.addOwned pair).Walked found (pairs ++ [pair]) := by
  have hanswer := h.answers pair.1.spelling
  cases hfind : check.taken.find? (·.1 = pair.1.spelling) with
  | some entry =>
    have howner : firstOwner? pairs pair.1.spelling = some entry.2 := by
      rw [← hanswer, hfind, Option.map_some]
    rw [NameCheck.addOwned, NameCheck.add_of_taken hfind]
    -- the table need not change, since it answers with the first property of a text anyway
    refine ⟨?_, fun text => ?_⟩
    · rw [reports_concat, report?, howner, h.reported, List.append_assoc]
      rfl
    · rw [firstOwner?_concat, ← h.answers text]
      by_cases htext : pair.1.spelling = text
      · simp [← htext, hfind]
      · simp [htext]
  | none =>
    have howner : firstOwner? pairs pair.1.spelling = none := by
      rw [← hanswer, hfind, Option.map_none]
    rw [NameCheck.addOwned, NameCheck.add_of_free hfind]
    refine ⟨?_, fun text => ?_⟩
    · simp [reports_concat, report?, howner, h.reported]
    · rw [firstOwner?_concat, ← h.answers text]
      by_cases htext : pair.1.spelling = text
      · simp [← htext, hfind, List.find?_append]
      · simp [htext, List.find?_append]

/-- The invariant of the walk, by induction from its last step. -/
theorem walked_foldl (found : List Problem) (pairs : List (Ident × Ident)) :
    (pairs.foldl NameCheck.addOwned ⟨found, []⟩).Walked found pairs := by
  induction pairs using List.reverseRecOn with
  | nil => exact ⟨by simp, fun text => rfl⟩
  | append_singleton pairs pair ih =>
    rw [List.foldl_append, List.foldl_cons, List.foldl_nil]
    exact ih.addOwned pair

theorem checkMembers_eq_reports (found : List Problem) (members : List Member) :
    checkMembers found members = found ++ reports (methodOwners members) := by
  rw [checkMembers, NameCheck.foldl_addMember]
  exact (walked_foldl found (methodOwners members)).reported

/-! ## Their number -/

/-- Every method is the first of its text or is reported. -/
theorem length_reports (pairs : List (Ident × Ident)) :
    (reports pairs).length + (methodTexts pairs).toFinset.card = pairs.length := by
  induction pairs using List.reverseRecOn with
  | nil => rfl
  | append_singleton pairs pair ih =>
    have htexts : (methodTexts (pairs ++ [pair])).toFinset =
        insert pair.1.spelling (methodTexts pairs).toFinset := by
      ext text
      simp [methodTexts, eq_comm]
    rw [reports_concat, htexts, List.length_append, List.length_append]
    by_cases hmem : pair.1.spelling ∈ methodTexts pairs
    · obtain ⟨owner, howner⟩ := Option.ne_none_iff_exists'.mp
        (mt firstOwner?_eq_none_iff.mp (not_not_intro hmem))
      rw [Finset.insert_eq_of_mem (List.mem_toFinset.mpr hmem), report?, howner]
      simp only [Option.map_some, Option.toList_some, List.length_singleton]
      omega
    · rw [Finset.card_insert_of_notMem (mt List.mem_toFinset.mp hmem), report?,
        firstOwner?_eq_none_iff.mpr hmem]
      simp only [Option.map_none, Option.toList_none, List.length_nil, List.length_singleton]
      omega

theorem reports_eq_nil_iff (pairs : List (Ident × Ident)) :
    reports pairs = [] ↔ (methodTexts pairs).Nodup := by
  have hcount := length_reports pairs
  have hlength : (methodTexts pairs).length = pairs.length := List.length_map _
  rw [← List.length_eq_zero_iff, ← Multiset.coe_nodup, ← Multiset.toFinset_card_eq_card_iff_nodup,
    Multiset.coe_card]
  change _ ↔ (methodTexts pairs).toFinset.card = _
  omega

/-! ## Names that are identifiers -/

/-- Identifiers that are written alike are the same: the raw mark has a character that is in no
identifier. -/
theorem Ident.spelling_injective {x y : Ident} (hx : '#' ∉ x.name.toList)
    (hy : '#' ∉ y.name.toList) (h : x.spelling = y.spelling) : x = y := by
  obtain ⟨name, raw⟩ := x
  obtain ⟨name', raw'⟩ := y
  have htext := congrArg String.toList h
  cases raw <;> cases raw' <;> simp only [Ident.spelling, Bool.false_eq_true, if_true, if_false,
    String.toList_append] at htext
  · rw [String.toList_inj.mp htext]
  · exact absurd (by rw [htext]; simp) hx
  · exact absurd (by rw [← htext]; simp) hy
  · rw [String.toList_inj.mp (List.append_cancel_left htext)]

theorem Ident.hash_notMem_of_validChars {cs : List Char} (h : validChars cs = true) :
    '#' ∉ cs := by
  cases cs with
  | nil => cases h
  | cons c rest =>
    simp only [validChars, Bool.and_eq_true, List.all_eq_true] at h
    intro hmem
    rcases List.mem_cons.mp hmem with rfl | hmem
    · exact absurd h.1 (by decide +kernel)
    · exact absurd (h.2 _ hmem) (by decide +kernel)

/-- The names of the members are identifiers. -/
def Named (members : List Member) : Prop :=
  ∀ m ∈ members, Ident.validChars m.name.name.toList = true

theorem Property.hash_notMem_derived {p : Property} {lead : String} (hlead : '#' ∉ lead.toList)
    (h : '#' ∉ p.name.name.toList) : '#' ∉ (p.derived lead).name.toList := by
  rw [derived, String.toList_append, List.mem_append, not_or]
  exact ⟨hlead, h⟩

theorem Member.hash_notMem_of_mem_builderMethods {m : Member}
    (h : Ident.validChars m.name.name.toList = true) :
    ∀ method ∈ m.builderMethods, '#' ∉ method.name.toList := by
  have hname : '#' ∉ m.property.name.name.toList := Ident.hash_notMem_of_validChars h
  have hderived {lead : String} (hlead : '#' ∉ lead.toList) :
      '#' ∉ (m.property.derived lead).name.toList :=
    Property.hash_notMem_derived hlead hname
  unfold builderMethods
  cases m.role <;> simp only [List.forall_mem_cons, List.not_mem_nil, IsEmpty.forall_iff,
    implies_true, and_true]
  · exact ⟨hname, hderived (by decide)⟩
  · exact ⟨hname, hderived (by decide), hderived (by decide), hderived (by decide)⟩
  · exact ⟨hname, hderived (by decide), hderived (by decide), hderived (by decide),
      hderived (by decide)⟩

theorem Member.spelling_builderMethods_nodup {m : Member}
    (h : Ident.validChars m.name.name.toList = true) :
    (m.builderMethods.map Ident.spelling).Nodup := by
  have hhash := m.hash_notMem_of_mem_builderMethods h
  refine m.name_builderMethods_nodup.of_map.map_on fun x hx y hy heq => ?_
  exact Ident.spelling_injective (hhash x hx) (hhash y hy) heq

theorem hash_notMem_of_mem_methodOwners {members : List Member} (h : Named members)
    {pair : Ident × Ident} (hpair : pair ∈ methodOwners members) : '#' ∉ pair.1.name.toList := by
  obtain ⟨m, hm, hpair⟩ := List.mem_flatMap.mp hpair
  obtain ⟨method, hmethod, rfl⟩ := List.mem_map.mp hpair
  exact m.hash_notMem_of_mem_builderMethods (h m hm) method hmethod

/-- The texts of methods, each with the property that the method belongs to. -/
def textTable (pairs : List (Ident × Ident)) : List (String × Ident) :=
  pairs.map fun pair => (pair.1.spelling, pair.2)

theorem find?_textTable {pairs : List (Ident × Ident)} {method : Ident}
    (hpairs : ∀ pair ∈ pairs, '#' ∉ pair.1.name.toList) (hmethod : '#' ∉ method.name.toList) :
    (textTable pairs).find? (·.1 = method.spelling) =
      (pairs.find? (·.1 = method)).map fun pair => (pair.1.spelling, pair.2) := by
  have hfind : pairs.find? (·.1.spelling = method.spelling) = pairs.find? (·.1 = method) := by
    refine List.find?_congr fun pair hpair => decide_eq_decide.mpr ?_
    exact ⟨Ident.spelling_injective (hpairs pair hpair) hmethod, congrArg _⟩
  rw [← hfind, textTable, List.find?_map]
  rfl

/-- Where identifiers are told apart by their texts, the walk finds the problems of
`collisionsAfter`, whose table keeps the methods themselves. -/
theorem found_foldl_addOwned (found : List Problem) {seen pairs : List (Ident × Ident)}
    (hseen : ∀ pair ∈ seen, '#' ∉ pair.1.name.toList)
    (hpairs : ∀ pair ∈ pairs, '#' ∉ pair.1.name.toList) :
    (pairs.foldl NameCheck.addOwned ⟨found, textTable seen⟩).found =
      found ++ collisionsAfter seen pairs := by
  induction pairs generalizing found seen with
  | nil => simp [collisionsAfter]
  | cons pair rest ih =>
    obtain ⟨method, owner⟩ := pair
    obtain ⟨hmethod, hrest⟩ := List.forall_mem_cons.mp hpairs
    have hentry := find?_textTable hseen hmethod
    rw [List.foldl_cons, NameCheck.addOwned]
    cases hfind : seen.find? (·.1 = method) with
    | some first =>
      rw [hfind, Option.map_some] at hentry
      rw [NameCheck.add_of_taken hentry, ih _ hseen hrest, collisionsAfter, hfind]
      simp
    | none =>
      rw [hfind, Option.map_none] at hentry
      have hseen' : ∀ pair ∈ seen ++ [(method, owner)], '#' ∉ pair.1.name.toList :=
        List.forall_mem_append.mpr ⟨hseen, by simpa using hmethod⟩
      have htable : textTable seen ++ [(method.spelling, owner)] =
          textTable (seen ++ [(method, owner)]) := by
        simp [textTable]
      rw [NameCheck.add_of_free hentry, htable, ih found hseen' hrest, collisionsAfter, hfind]

theorem checkMembers_eq {members : List Member} (h : Named members) (found : List Problem) :
    checkMembers found members = found ++ collisions members := by
  rw [checkMembers, NameCheck.foldl_addMember, collisions]
  have hnone : ∀ pair ∈ ([] : List (Ident × Ident)), '#' ∉ pair.1.name.toList := by simp
  refine found_foldl_addOwned found hnone fun pair hpair => ?_
  exact hash_notMem_of_mem_methodOwners h hpair

/-! ## Exactness -/

/-- What a walk over members appends to the problems found before. -/
structure CollisionReports (found : List Problem) (members : List Member) : Prop where
  /-- A report for each method whose text occurred before, in order, with the property of the first
  method of that text. -/
  reported : checkMembers found members = found ++ reports (methodOwners members)
  /-- They are the problems of collisions. -/
  problems : checkMembers found members = found ++ collisions members
  /-- There is none exactly if all texts are different. -/
  silent : checkMembers found members = found ↔ (methodTexts (methodOwners members)).Nodup
  /-- There are as many as there are methods beyond the different texts. -/
  counted :
    (checkMembers found members).length + (methodTexts (methodOwners members)).toFinset.card =
      found.length + (methodOwners members).length
  /-- No member collides with itself. -/
  own : ∀ m ∈ members, (m.builderMethods.map Ident.spelling).Nodup

/-- Collision reports are exact, whatever was found before. -/
theorem collisionReports_exact {members : List Member} (h : Named members)
    (found : List Problem) : CollisionReports found members where
  reported := checkMembers_eq_reports found members
  problems := checkMembers_eq h found
  silent := by
    rw [checkMembers_eq_reports, List.append_right_eq_self, reports_eq_nil_iff]
  counted := by
    rw [checkMembers_eq_reports, List.length_append, Nat.add_assoc, length_reports]
  own m hm := m.spelling_builderMethods_nodup (h m hm)

/-- The members of getters `x`, whose value may be absent, and `nullable_x`. -/
def nullableMembers : List Member := [
  ⟨⟨Code.plain "x", .number, .number, .optionOwned, []⟩, .optional none⟩,
  ⟨⟨Code.plain "nullable_x", .number, .number, .owned, []⟩, .single none⟩]

/-- The setter of `nullable_x` collides with the nullable setter of `x`. -/
theorem nullableMembers_reports : Named nullableMembers ∧
    CollisionReports [.associatedType] nullableMembers ∧
    (checkMembers [.associatedType] nullableMembers).map Problem.message =
      ["`free_builder` does not support associated types",
        "builder method `set_nullable_x` is also generated for `x`"] := by
  have hnamed : Named nullableMembers := by
    unfold Named
    decide +kernel
  exact ⟨hnamed, collisionReports_exact hnamed _, by decide +kernel⟩

end TraitBuilder
