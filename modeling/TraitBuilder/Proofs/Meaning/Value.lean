import TraitBuilder.Code.Library
import TraitBuilder.Code.TypeExpr

/-!
# Values of generated code

What terms of generated code evaluate to.  The values of the user's own types are not looked into;
all else is built from them as the generated code builds it.  References are not told from what they
refer to: a method that changes its receiver hands back the receiver it leaves behind.

* `Fields.get?_set`: a field that is set holds what it was set to, and no other field changes.
* `Fields.exists_mapM`: fields that are computed one after the other.
* `Value.IsOption`, `Value.IsList`: what the values of a type look like.
-/

namespace TraitBuilder.Meaning

open Code

/-- What a record is an instance of. -/
inductive Kind where
  | builder
  | value
  | partialType
  | buildError
  /-- What is written of a value: its fields under their labels. -/
  | written
  /-- What a value is read into. -/
  | shadow
  deriving DecidableEq, Repr

/-- A value; `D` are the values of the user's own types. -/
inductive Value (D : Type) where
  | data (d : D)
  | unit
  | truth (b : Bool)
  | number (n : Nat)
  | text (s : String)
  /-- The option without a value. -/
  | absent
  | present (v : Value D)
  | list (vs : List (Value D))
  /-- A variant of the enumeration of the required properties. -/
  | variant (x : Ident)
  /-- A set of variants, in the order of their declaration. -/
  | set (xs : List Ident)
  /-- An instance of a generated type. -/
  | record (kind : Kind) (fields : List (Ident × Value D))
  /-- An instance of a type that implements the user's trait, with the answers of its getters; one
  without an answer does not return. -/
  | foreign (answers : List (Ident × Value D))
  | success (v : Value D)
  | failure (v : Value D)
  /-- A library function that is handed over. -/
  | function (f : Library)

/-- Why the evaluation of a term has no value. -/
inductive Stop (D : Type) where
  /-- The function at hand returns early. -/
  | returned (v : Value D)
  | panic (message : String)
  /-- The term has no meaning here: it would not compile. -/
  | stuck

/-- A result of evaluation. -/
abbrev Answer (D α : Type) := Except (Stop D) α

@[simp] theorem Answer.ok_bind {D α β : Type} (a : α) (f : α → Answer D β) :
    ((Except.ok a : Answer D α) >>= f) = f a := rfl

@[simp] theorem Answer.error_bind {D α β : Type} (e : Stop D) (f : α → Answer D β) :
    ((Except.error e : Answer D α) >>= f) = Except.error e := rfl

@[simp] theorem Answer.pure_eq {D α : Type} (a : α) : (pure a : Answer D α) = Except.ok a := rfl

@[simp] theorem Answer.ok_map {D α β : Type} (a : α) (f : α → β) :
    (f <$> (Except.ok a : Answer D α)) = Except.ok (f a) := rfl

/-! ## Fields -/

/-- Fields, or variables, with their values.  A raw name and a plain one are the same field. -/
abbrev Fields (D : Type) := List (Ident × Value D)

namespace Fields

variable {D : Type}

/-- The value of a field. -/
def get? (fs : Fields D) (x : Ident) : Option (Value D) :=
  (fs.find? fun f => f.1.name = x.name).map (·.2)

/-- The fields with another value for one of them. -/
def set (fs : Fields D) (x : Ident) (v : Value D) : Fields D :=
  fs.map fun f => if f.1.name = x.name then (f.1, v) else f

@[simp] theorem get?_nil (x : Ident) : Fields.get? ([] : Fields D) x = none := rfl

theorem get?_cons (f : Ident × Value D) (fs : Fields D) (x : Ident) :
    Fields.get? (f :: fs) x = if f.1.name = x.name then some f.2 else fs.get? x := by
  unfold get?
  by_cases h : f.1.name = x.name <;> simp [h]

@[simp] theorem get?_cons_self (x : Ident) (v : Value D) (fs : Fields D) :
    Fields.get? ((x, v) :: fs) x = some v := by
  simp [get?_cons]

theorem get?_eq_none_iff {fs : Fields D} {x : Ident} :
    fs.get? x = none ↔ x.name ∉ fs.map (·.1.name) := by
  simp [get?]

/-- A field is found by its name if the fields have different names. -/
theorem get?_of_mem {fs : Fields D} {x : Ident} {v : Value D}
    (h : (fs.map (·.1.name)).Nodup) (hmem : (x, v) ∈ fs) : fs.get? x = some v := by
  induction fs with
  | nil => cases hmem
  | cons f fs ih =>
    rw [List.map_cons, List.nodup_cons] at h
    rw [get?_cons]
    rcases List.mem_cons.mp hmem with rfl | hmem
    · simp
    · have hne : f.1.name ≠ x.name := by
        intro heq
        exact h.1 (heq ▸ List.mem_map.mpr ⟨(x, v), hmem, rfl⟩)
      rw [if_neg hne, ih h.2 hmem]

theorem nodup_of_map_fst {fs : Fields D} {xs : List Ident} (h : fs.map (·.1) = xs)
    (hxs : (xs.map (·.name)).Nodup) : (fs.map (·.1.name)).Nodup := by
  rw [← h, List.map_map] at hxs
  exact hxs

/-- Fields of different names are told by their order and by what they hold. -/
theorem eq_of_get? {fs gs : Fields D} (hnodup : (fs.map (·.1.name)).Nodup)
    (hnames : fs.map (·.1) = gs.map (·.1)) (h : ∀ x ∈ fs.map (·.1), fs.get? x = gs.get? x) :
    fs = gs := by
  induction fs generalizing gs with
  | nil => exact (List.map_eq_nil_iff.mp hnames.symm).symm
  | cons f fs ih =>
    obtain ⟨g, gs, rfl⟩ := List.exists_cons_of_ne_nil (l := gs) (by rintro rfl; simp at hnames)
    rw [List.map_cons, List.map_cons, List.cons_eq_cons] at hnames
    obtain ⟨hname, hnames⟩ := hnames
    rw [List.map_cons, List.nodup_cons] at hnodup
    have hvalue := h f.1 List.mem_cons_self
    rw [get?_cons, if_pos rfl, get?_cons, if_pos (by rw [hname]), Option.some.injEq] at hvalue
    have hrest : fs = gs := by
      refine ih hnodup.2 hnames fun x hx => ?_
      have hne : f.1.name ≠ x.name := by
        intro heq
        obtain ⟨f', hf', rfl⟩ := List.mem_map.mp hx
        exact hnodup.1 (heq ▸ List.mem_map.mpr ⟨f', hf', rfl⟩)
      have hx' := h x (List.mem_cons_of_mem f.1 hx)
      rwa [get?_cons, if_neg hne, get?_cons, if_neg (by rwa [← hname])] at hx'
    rw [hrest, Prod.ext hname hvalue]

theorem get?_set (fs : Fields D) (x y : Ident) (v : Value D) :
    (fs.set x v).get? y =
      if y.name = x.name then (fs.get? y).map fun _ => v else fs.get? y := by
  induction fs with
  | nil => simp [set]
  | cons f fs ih =>
    have hset : Fields.set (f :: fs) x v =
        (if f.1.name = x.name then (f.1, v) else f) :: Fields.set fs x v := rfl
    rw [hset, get?_cons, get?_cons, ih]
    by_cases hf : f.1.name = x.name
    · rw [if_pos hf]
      by_cases hy : f.1.name = y.name
      · have hyx : y.name = x.name := hy.symm.trans hf
        simp [hy, hyx]
      · simp [hy]
    · rw [if_neg hf]
      by_cases hy : f.1.name = y.name
      · have hyx : ¬ y.name = x.name := fun hyx => hf (hy.trans hyx)
        simp [hy, hyx]
      · simp [hy]

theorem get?_set_self {fs : Fields D} {x : Ident} (h : fs.get? x ≠ none) (v : Value D) :
    (fs.set x v).get? x = some v := by
  obtain ⟨w, hw⟩ := Option.ne_none_iff_exists'.mp h
  simp [get?_set, hw]

theorem get?_set_of_ne {x y : Ident} (h : y.name ≠ x.name) (fs : Fields D) (v : Value D) :
    (fs.set x v).get? y = fs.get? y := by
  simp [get?_set, h]

/-- Nothing happens to a field that is not there. -/
theorem set_of_get?_eq_none {fs : Fields D} {x : Ident} (h : fs.get? x = none) (v : Value D) :
    fs.set x v = fs := by
  have hkeep : ∀ f ∈ fs, (if f.1.name = x.name then (f.1, v) else f) = id f := by
    intro f hf
    have hne : f.1.name ≠ x.name := by
      intro heq
      exact get?_eq_none_iff.mp h (heq ▸ List.mem_map.mpr ⟨f, hf, rfl⟩)
    rw [if_neg hne, id]
  rw [set, List.map_congr_left hkeep, List.map_id]

@[simp] theorem map_fst_set (fs : Fields D) (x : Ident) (v : Value D) :
    (fs.set x v).map (·.1) = fs.map (·.1) := by
  simp only [set, List.map_map]
  refine List.map_congr_left fun f _ => ?_
  simp only [Function.comp_apply]
  split <;> rfl

/-- Fields that are computed one after the other, each with what is known of its value. -/
theorem exists_mapM {ε α : Type} (name : α → Ident) {f : α → Except ε (Value D)}
    {P : α → Value D → Prop} {xs : List α} (h : ∀ x ∈ xs, ∃ v, f x = .ok v ∧ P x v) :
    ∃ fs : Fields D, (xs.mapM fun x => do return (name x, ← f x)) = Except.ok fs ∧
      fs.map (·.1) = xs.map name ∧ ∀ x ∈ xs, ∃ v, (name x, v) ∈ fs ∧ P x v := by
  induction xs with
  | nil => exact ⟨[], rfl, rfl, fun x hx => absurd hx List.not_mem_nil⟩
  | cons x xs ih =>
    obtain ⟨v, hv, hP⟩ := h x List.mem_cons_self
    obtain ⟨fs, hrun, hnames, hall⟩ := ih fun y hy => h y (List.mem_cons_of_mem x hy)
    refine ⟨(name x, v) :: fs, ?_, by rw [List.map_cons, List.map_cons, hnames], ?_⟩
    · rw [List.mapM_cons, hv, hrun]
      rfl
    · intro y hy
      rcases List.mem_cons.mp hy with rfl | hy
      · exact ⟨v, List.mem_cons_self, hP⟩
      · obtain ⟨w, hw, hPw⟩ := hall y hy
        exact ⟨w, List.mem_cons_of_mem _ hw, hPw⟩

end Fields

/-! ## Forms of values -/

namespace Value

variable {D : Type}

/-- The value is an option. -/
def IsOption (v : Value D) : Prop := v = .absent ∨ ∃ w, v = .present w

/-- The value is a list. -/
def IsList (v : Value D) : Prop := ∃ vs, v = .list vs

/-- The value of a field of a record. -/
def field (v : Value D) (x : Ident) : Answer D (Value D) :=
  match v with
  | .record _ fields =>
    match Fields.get? fields x with
    | some w => .ok w
    | none => .error .stuck
  | _ => .error .stuck

/-- The record with another value for a field that it has. -/
def setField (v : Value D) (x : Ident) (w : Value D) : Answer D (Value D) :=
  match v with
  | .record kind fields =>
    match Fields.get? fields x with
    | some _ => .ok (.record kind (Fields.set fields x w))
    | none => .error .stuck
  | _ => .error .stuck

theorem field_record {kind : Kind} {fs : Fields D} {x : Ident} {v : Value D}
    (h : fs.get? x = some v) : (record kind fs).field x = .ok v := by
  simp [field, h]

theorem setField_record {kind : Kind} {fs : Fields D} {x : Ident} (h : fs.get? x ≠ none)
    (v : Value D) : (record kind fs).setField x v = .ok (.record kind (fs.set x v)) := by
  obtain ⟨w, hw⟩ := Option.ne_none_iff_exists'.mp h
  simp [setField, hw]

end Value

end TraitBuilder.Meaning
