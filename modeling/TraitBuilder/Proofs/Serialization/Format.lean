import TraitBuilder.Proofs.Serialization.Reading

/-!
# Data formats

What is assumed of a data format: an option is written as what it holds, or as `null`, and what is
not `null` is read back as it was.  So a value that is written as `null` cannot be told from an
option without a value.

* `Format.readFields`: the fields that are read from a structure.
* `Format.survives_iff`: which values of a member a builder holds after they have been read back.
* `plainFormat`: a format for numbers and options of numbers.
-/

namespace TraitBuilder

open Code Meaning

variable {D : Type}

/-- A data format. -/
structure Format (D : Type) where
  /-- What values are written as. -/
  Written : Type
  null : Written
  write : Value D → Written
  /-- The value that something written reads as at a type, or the error. -/
  read : TypeExpr → Written → Except (Value D) (Value D)
  /-- The values of a type. -/
  HasType : TypeExpr → Value D → Prop
  hasType_option : ∀ {t : TypeExpr} {v : Value D},
    HasType (.option t) v ↔ v = .absent ∨ ∃ w, v = .present w ∧ HasType t w
  hasType_list : ∀ {t : TypeExpr} {v : Value D}, HasType (.list t) v → v.IsList
  write_absent : write .absent = null
  write_present : ∀ v, write (.present v) = write v
  write_list : ∀ vs, write (.list vs) ≠ null
  read_null : ∀ t, read (.option t) null = .ok .absent
  read_write : ∀ {t : TypeExpr} {v : Value D}, HasType t v → write v ≠ null →
    read t (write v) = .ok v

namespace Format

/-! ## Structures -/

section Structures

variable (F : Format D)

/-- A structure as it is written: its fields by name. -/
def encode (entries : Fields D) : List (String × F.Written) :=
  entries.map fun (x, v) => (x.name, F.write v)

/-- What is read of a field.  A field that is missing has no value, one that is there twice is an
error. -/
def readField (data : List (String × F.Written)) (x : Ident) (t : TypeExpr) :
    Except (Value D) (Value D) :=
  match data.filter (·.1 = x.name) with
  | [] => .ok .absent
  | [(_, w)] => F.read t w
  | _ => .error (.text ("duplicate field `" ++ x.name ++ "`"))

/-- The outcome of reading a structure with the given fields; other data is skipped. -/
def readFields (data : List (String × F.Written)) (fields : List (Ident × TypeExpr)) : Value D :=
  match fields.mapM fun (x, t) => do return (x, ← F.readField data x t) with
  | .ok rs => .success (.record .shadow rs)
  | .error e => .failure e

variable {F}

theorem filter_encode {entries : Fields D} (h : (entries.map (·.1.name)).Nodup) {x : Ident}
    {v : Value D} (hmem : (x, v) ∈ entries) :
    (F.encode entries).filter (·.1 = x.name) = [(x.name, F.write v)] := by
  induction entries with
  | nil => cases hmem
  | cons f entries ih =>
    rw [List.map_cons, List.nodup_cons] at h
    rw [encode, List.map_cons, List.filter_cons]
    rcases List.mem_cons.mp hmem with rfl | hmem
    · have hrest : (F.encode entries).filter (·.1 = x.name) = [] := by
        refine List.filter_eq_nil_iff.mpr fun p hp => ?_
        obtain ⟨g, hg, rfl⟩ := List.mem_map.mp hp
        have hne : g.1.name ≠ x.name := fun heq => h.1 (heq ▸ List.mem_map.mpr ⟨g, hg, rfl⟩)
        simpa using hne
      rw [encode] at hrest
      simp [hrest]
    · have hne : f.1.name ≠ x.name := by
        intro heq
        exact h.1 (heq ▸ List.mem_map.mpr ⟨(x, v), hmem, rfl⟩)
      rw [if_neg (by simpa using hne)]
      exact ih h.2 hmem

/-- A field is found by its name if no other has that name. -/
theorem readField_encode {entries : Fields D} (h : (entries.map (·.1.name)).Nodup) {x : Ident}
    {v : Value D} (hmem : (x, v) ∈ entries) (t : TypeExpr) :
    F.readField (F.encode entries) x t = F.read t (F.write v) := by
  rw [readField, filter_encode h hmem]

end Structures

/-! ## Members -/

section Members

variable {F : Format D} {m : Member} {v : Value D}

/-- What is read of a member whose value was written. -/
def ReadsBack (F : Format D) (m : Member) (v r : Value D) : Prop :=
  F.write v = F.null ∧ r = .absent ∨
    F.write v ≠ F.null ∧ r = match m.role with
      | .optional _ => v
      | _ => .present v

/-- Every value of a member can be read back at the type of its field. -/
theorem read_serializedType (h : F.HasType m.valueField.2 v) :
    ∃ r, F.read m.serializedType (F.write v) = .ok r ∧ m.Reads r ∧ F.ReadsBack m v r := by
  -- what is not null is read as an option that has a value
  have hpresent {t : TypeExpr} {w : Value D} (ht : F.HasType t w) (hw : F.write w ≠ F.null) :
      F.read (.option t) (F.write w) = .ok (.present w) := by
    rw [← F.write_present w] at hw ⊢
    exact F.read_write (F.hasType_option.mpr (Or.inr ⟨w, rfl, ht⟩)) hw
  unfold ReadsBack
  unfold Member.valueField Member.storageType Member.layout at h
  unfold Member.serializedType
  cases hrole : m.role with
  | single default =>
    simp only [hrole] at h ⊢
    by_cases hnull : F.write v = F.null
    · exact ⟨.absent, by rw [hnull, F.read_null], Or.inl rfl, Or.inl ⟨hnull, rfl⟩⟩
    · exact ⟨.present v, hpresent h hnull, Or.inr ⟨v, rfl, by simp [hrole]⟩, Or.inr ⟨hnull, rfl⟩⟩
  | optional default =>
    simp only [hrole] at h ⊢
    rcases F.hasType_option.mp h with rfl | ⟨w, rfl, hw⟩
    · have hnull := F.write_absent
      exact ⟨.absent, by rw [hnull, F.read_null], Or.inl rfl, Or.inl ⟨hnull, rfl⟩⟩
    · by_cases hnull : F.write (.present w) = F.null
      · exact ⟨.absent, by rw [hnull, F.read_null], Or.inl rfl, Or.inl ⟨hnull, rfl⟩⟩
      · exact ⟨.present w, F.read_write h hnull, Or.inr ⟨w, rfl, by simp [hrole]⟩,
          Or.inr ⟨hnull, rfl⟩⟩
  | list element default =>
    simp only [hrole] at h ⊢
    obtain ⟨vs, rfl⟩ := F.hasType_list h
    have hlist := F.write_list vs
    exact ⟨.present (.list vs), hpresent h hlist, Or.inr ⟨_, rfl, fun _ _ _ => ⟨vs, rfl⟩⟩,
      Or.inr ⟨hlist, rfl⟩⟩

/-- The value is not lost: if it is written as `null`, it is the one that the member has when
nothing is read. -/
def Survives (F : Format D) (given : Tokens → Value D) (m : Member) (v : Value D) : Prop :=
  F.write v = F.null →
    match m.role with
    | .single none => False
    | .single (some e) => v = given e.tokens
    | .optional _ => v = .absent
    | .list _ _ => True

/-- The builder holds the value exactly if it is not lost. -/
theorem survives_iff {given : Tokens → Value D} {r : Value D} (h : F.HasType m.valueField.2 v)
    (hr : F.ReadsBack m v r) :
    m.filled (m.initialValue given) r = (if m.isRequired then .present v else v) ↔
      F.Survives given m v := by
  have hrequired : m.isRequired = true ↔ m.role = .single none := Member.isRequired_iff
  unfold Survives Member.filled Member.initialValue
  rcases hr with ⟨hnull, rfl⟩ | ⟨hnull, rfl⟩
  · -- nothing is read
    rcases hrole : m.role with (_ | e) | default | ⟨element, default⟩
    · simp [hrole, hrequired, hnull]
    · simp [hrole, hrequired, hnull, eq_comm]
    · simp [hrole, hrequired, hnull, eq_comm]
    · simp only [Member.valueField, Member.storageType, hrole] at h
      obtain ⟨vs, rfl⟩ := F.hasType_list h
      exact absurd hnull (F.write_list vs)
  · rcases hrole : m.role with (_ | e) | default | ⟨element, default⟩ <;>
      simp [hrole, hrequired, hnull]

end Members

end Format

/-! ## Numbers and options of numbers -/

/-- What is inside of an option that has a value. -/
def Meaning.Value.core : Value D → Value D
  | .present v => v.core
  | v => v

/-- The values of a type, if the user wrote numbers and options of numbers. -/
def HasPlainType : TypeExpr → Value Unit → Prop
  | .given ty, v =>
    if ty.isOption then v = .absent ∨ ∃ n, v = .present (.number n) else ∃ n, v = .number n
  | .apply path t, v =>
    if path = ["core", "option", "Option"] then
      v = .absent ∨ ∃ w, v = .present w ∧ HasPlainType t w
    else ∃ ns : List Nat, v = .list (ns.map .number)
  | _, _ => False

/-- The option of a value, unless `null` was written. -/
def Meaning.Value.unlessNull : Value D → Value D → Value D
  | .absent, _ => .absent
  | _, v => .present v

theorem Meaning.Value.unlessNull_of_ne {w v : Value D} (h : w ≠ .absent) :
    w.unlessNull v = .present v := by
  unfold unlessNull
  split
  · exact absurd rfl h
  · rfl

/-- What is read at a type: at an option, all but `null` is its value. -/
def readPlain : TypeExpr → Value Unit → Value Unit
  | .given ty, w => if ty.isOption then w.unlessNull w else w
  | .apply path t, w =>
    if path = ["core", "option", "Option"] then w.unlessNull (readPlain t w) else w
  | _, w => w

theorem readPlain_core {t : TypeExpr} {v : Value Unit} (h : HasPlainType t v)
    (hnull : v.core ≠ .absent) : readPlain t v.core = v := by
  induction t generalizing v with
  | given ty =>
    unfold HasPlainType at h
    unfold readPlain
    split at h <;> rename_i hoption
    · rcases h with rfl | ⟨n, rfl⟩
      · exact absurd rfl hnull
      · rw [if_pos hoption]
        rfl
    · obtain ⟨n, rfl⟩ := h
      rw [if_neg hoption]
      rfl
  | apply path t ih =>
    unfold HasPlainType at h
    unfold readPlain
    split at h <;> rename_i hoption
    · rcases h with rfl | ⟨w, rfl, hw⟩
      · exact absurd rfl hnull
      · rw [if_pos hoption, Value.unlessNull_of_ne hnull]
        exact congrArg Value.present (ih hw hnull)
    · obtain ⟨ns, rfl⟩ := h
      rw [if_neg hoption]
      rfl
  | _ => exact absurd h (by simp [HasPlainType])

/-- Numbers and lists are written as they are, and options as what they hold. -/
def plainFormat : Format Unit where
  Written := Value Unit
  null := .absent
  write := Value.core
  read t w := .ok (readPlain t w)
  HasType := HasPlainType
  hasType_option := Iff.rfl
  hasType_list h := by
    obtain ⟨ns, hns⟩ := h
    exact ⟨_, hns⟩
  write_absent := rfl
  write_present _ := rfl
  write_list _ h := by cases h
  read_null _ := rfl
  read_write h hnull := by rw [readPlain_core h hnull]

end TraitBuilder
