import TraitBuilder.Proofs.Builder.Readers
import TraitBuilder.Proofs.Code.Subterms

/-!
# Cleared builders are new

If a builder can be created from outside, then clearing leaves what the constructor makes, whatever
the builder held before.  The set of the unset properties need not be right, and the state need not
be one that a run leads to: all that is used is that the fields are those of the builder.  Only
their names have to differ; methods may share theirs, since clearing calls nothing but the
constructor, and that is the first function of the builder.

* `Fresh.unique`: all builders for which nothing has been set are the same.
* `Blueprint.resets_once`: the generated code assigns or empties every field of the builder once.
* `Blueprint.clear_restoresInitial`: a cleared builder is a new one, and clearing it again changes
  nothing.
-/

namespace TraitBuilder

open Code Meaning

variable {D : Type}

/-! ## The fields that are reset -/

namespace Code

/-- The field of the receiver that a statement assigns or empties. -/
def Statement.resetField? : Statement → Option Ident
  | .assign (.field (.var x) name) _ => if x = selfVar then some name else none
  | .run (.method (.field (.var x) name) method []) =>
    if x = selfVar ∧ method = plain "clear" then some name else none
  | _ => none

@[simp] theorem resetField?_assign (name : Ident) (t : Term) :
    (Statement.assign (.ownField name) t).resetField? = some name := rfl

@[simp] theorem resetField?_emptied (name : Ident) :
    (Member.emptied (.ownField name)).resetField? = some name := rfl

@[simp] theorem resetField?_bind (isMut : Bool) (x : Ident) (t : Term) :
    (Statement.bind isMut x t).resetField? = none := rfl

end Code

namespace Member

/-- Clearing a member is a single statement that resets it.  A single value is reset only because it
asks for a template. -/
theorem clear_resets (m : Member) :
    ∃ s : Statement, m.clear (if m.needsTemplate then some templateVar else none) = [s] ∧
      s.resetField? = some m.name := by
  unfold clear needsTemplate
  rcases hrole : m.role with (_ | e) | (_ | e) | ⟨element, _ | e⟩
  all_goals exact ⟨_, rfl, rfl⟩

theorem filterMap_resetField?_clear (m : Member) :
    (m.clear (if m.needsTemplate then some templateVar else none)).filterMap
      Statement.resetField? = [m.name] := by
  obtain ⟨s, hclear, hreset⟩ := m.clear_resets
  rw [hclear, List.filterMap_cons_some hreset, List.filterMap_nil]

end Member

namespace Blueprint

section Once

variable {b : Blueprint}

/-- The fields that clearing resets are those of the builder, in the same order. -/
theorem filterMap_resetField?_clearStatements (b : Blueprint) :
    b.clearStatements.filterMap Statement.resetField? = b.builderFields.map (·.1) := by
  have hbind : (if b.needsTemplate then [.bind false templateVar b.newBuilder] else []).filterMap
      Statement.resetField? = [] := by
    split <;> rfl
  have hunset : (if b.hasRequired then [.assign Member.ownUnset templateUnset] else []).filterMap
      Statement.resetField? = (if b.hasRequired then [(unsetField, b.unsetType)] else []).map
        (·.1) := by
    split <;> rfl
  rw [clearStatements, List.filterMap_append, List.filterMap_append, hbind, hunset,
    List.filterMap_flatMap, builderFields, List.map_append, List.map_map, List.nil_append]
  simp only [Member.filterMap_resetField?_clear]
  rw [← List.map_eq_flatMap]
  rfl

theorem resets_or_binds {s : Statement} (hs : s ∈ b.clearStatements) :
    s.resetField?.isSome = true ∨ s = .bind false templateVar b.newBuilder := by
  rw [clearStatements, List.mem_append, List.mem_append] at hs
  rcases hs with (hs | hs) | hs
  · split at hs
    · exact Or.inr (List.mem_singleton.mp hs)
    · cases hs
  · obtain ⟨m, -, hs⟩ := List.mem_flatMap.mp hs
    obtain ⟨s', hclear, hreset⟩ := m.clear_resets
    rw [hclear, List.mem_singleton] at hs
    left
    rw [hs, hreset]
    rfl
  · split at hs
    · left
      rw [List.mem_singleton.mp hs]
      rfl
    · cases hs

/-- The generated code resets each field of the builder once, and does nothing else except for
making a new builder to take values from. -/
structure ResetsOnce (b : Blueprint) : Prop where
  statements : b.clearFunction.body.statements = b.clearStatements
  fields : b.clearStatements.filterMap Statement.resetField? = b.builderFields.map (·.1)
  distinct : (b.clearStatements.filterMap Statement.resetField?).Nodup
  others : ∀ s ∈ b.clearStatements, s.resetField?.isSome = true ∨
    s = .bind false templateVar b.newBuilder

theorem resets_once (hn : b.DistinctFields) (hfactory : b.builderFactory = true) :
    b.ResetsOnce where
  statements := by
    rw [clearFunction, if_pos hfactory]
    rfl
  fields := b.filterMap_resetField?_clearStatements
  distinct := by
    rw [filterMap_resetField?_clearStatements]
    refine List.Nodup.of_map Ident.name ?_
    rw [List.map_map]
    exact hn
  others _ := resets_or_binds

end Once

/-! ## The state that clearing leaves behind -/

section Restoring

variable {b : Blueprint} {given : Tokens → Value D} {fs gs : Fields D}

/-- The initial values and the set of a new builder leave no choice. -/
theorem Fresh.unique (hn : b.DistinctFields) (hfs : b.Fresh given fs) (hgs : b.Fresh given gs) :
    fs = gs := by
  have hnodup : (fs.map (·.1.name)).Nodup := by
    refine Fields.nodup_of_map_fst hfs.names ?_
    rw [List.map_map]
    exact hn
  refine Fields.eq_of_get? hnodup (hfs.names.trans hgs.names.symm) fun x hx => ?_
  rw [hfs.names, builderFields, List.map_append, List.mem_append] at hx
  rcases hx with hx | hx
  · rw [List.map_map] at hx
    obtain ⟨m, hm, rfl⟩ := List.mem_map.mp hx
    exact (hfs.initial m hm).trans (hgs.initial m hm).symm
  · split at hx
    · rename_i hreq
      obtain rfl : x = unsetField := List.mem_singleton.mp hx
      exact (hfs.unset hreq).trans (hgs.unset hreq).symm
    · cases hx

/-- What clearing does to a builder that holds `fs`. -/
structure ClearsToNew (b : Blueprint) (given : Tokens → Value D) (fs : Fields D) : Prop where
  /-- The constructor returns, clearing returns, and what it leaves behind is what the constructor
  made: all fields are the same, that of the unset properties included. -/
  restores : ∀ n : Nat, ∃ new,
    (b.link given (n + 1)).associated b.builder (plain "new") [] = .ok (builderOf new) ∧
      Leaves (runFunction (b.context given .builder (b.link given (n + 1))) b.clearFunction
        (builderOf fs) []) new
  /-- Clearing once more leaves the same. -/
  twice : ∀ (n : Nat) (gs : Fields D),
    Leaves (runFunction (b.context given .builder (b.link given (n + 1))) b.clearFunction
      (builderOf fs) []) gs →
    Leaves (runFunction (b.context given .builder (b.link given (n + 1))) b.clearFunction
      (builderOf gs) []) gs
  once : b.ResetsOnce

/-- Clearing restores the initial state, if a builder can be created from outside. -/
theorem clear_restoresInitial (hn : b.DistinctFields) (hfactory : b.builderFactory = true)
    (hdefaults : b.DefaultsFit given) (h : b.Laid fs) : b.ClearsToNew given fs where
  restores n := by
    obtain ⟨new, hnew, hfresh⟩ := new_fresh hn hdefaults n
    obtain ⟨cleared, hclear, hcleared⟩ := clear_fresh hn hdefaults n hfactory h
    obtain rfl := hcleared.unique hn hfresh
    exact ⟨cleared, hnew, hclear⟩
  twice n gs hgs := by
    obtain ⟨cleared, hclear, hcleared⟩ := clear_fresh hn hdefaults n hfactory h
    rw [Leaves, hclear] at hgs
    cases hgs
    obtain ⟨again, hagain, hfresh⟩ := clear_fresh hn hdefaults n hfactory hcleared.toLaid
    obtain rfl := hfresh.unique hn hcleared
    exact hagain
  once := resets_once hn hfactory

end Restoring

end Blueprint

/-! ## Books -/

/-- A builder of books that no run leads to: the width is set, but the set says otherwise. -/
def strayBook : Fields Unit := boundBook.set unsetField (.set [plain "Width"])

theorem strayBook_laid : bookBlueprint.Laid strayBook := by
  have hsound := boundBook_reachable.sound bookBlueprint_declarable.toWellNamed
  exact hsound.toLaid.set_unset bookBlueprint_declarable.distinctFields rfl _

theorem strayBook_clearsToNew : bookBlueprint.DistinctFields ∧
    bookBlueprint.builderFactory = true ∧
    bookBlueprint.DefaultsFit (fun _ => (.list [.number 7] : Value Unit)) ∧
    bookBlueprint.Laid strayBook ∧
    bookBlueprint.ClearsToNew (fun _ => .list [.number 7]) strayBook :=
  ⟨bookBlueprint_declarable.distinctFields, rfl, bookBlueprint_defaultsFit, strayBook_laid,
    Blueprint.clear_restoresInitial bookBlueprint_declarable.distinctFields rfl
      bookBlueprint_defaultsFit strayBook_laid⟩

example : Leaves (runFunction (bookBlueprint.context (fun _ => .list [.number 7]) .builder
    (bookBlueprint.link (fun _ => .list [.number 7]) 1)) bookBlueprint.clearFunction
      (builderOf strayBook) []) blankBook :=
  rfl

end TraitBuilder
