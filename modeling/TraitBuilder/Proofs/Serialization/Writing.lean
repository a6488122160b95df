import TraitBuilder.Generated.Serialization
import TraitBuilder.Proofs.Meaning.Execution

/-!
# Writing a value

A value is written field by field, in the order of the members, each under the label of its member.

* `run_serialize`: the function that writes a value writes all fields.
-/

namespace TraitBuilder

open Code Meaning

variable {D : Type}

/-- The fields of a value under the labels of the members. -/
def labelled (ms : List Member) (gs : Fields D) : Fields D :=
  ms.filterMap fun m => (gs.get? m.name).map fun v => (plain m.label, v)

theorem mem_labelled {ms : List Member} {gs : Fields D} {m : Member} (hm : m ∈ ms) {v : Value D}
    (hv : gs.get? m.name = some v) : (plain m.label, v) ∈ labelled ms gs :=
  List.mem_filterMap.mpr ⟨m, hm, by rw [hv, Option.map_some]⟩

/-- The labels that are written are labels of members. -/
theorem labelled_sublist (ms : List Member) (gs : Fields D) :
    ((labelled ms gs).map (·.1.name)).Sublist (ms.map (·.name.name)) := by
  induction ms with
  | nil => exact List.Sublist.slnil
  | cons m ms ih =>
    rw [labelled, List.filterMap_cons, List.map_cons]
    cases gs.get? m.name with
    | none => exact ih.cons _
    | some v => exact ih.cons_cons _

namespace Blueprint

variable {b : Blueprint} {k : Context D} {gs : Fields D} {s : Value D}

/-- While a value is being written: what has been written so far. -/
def writing (gs : Fields D) (s : Value D) (entries : Fields D) : Env D :=
  ⟨.record .value gs, [(writtenVar, .record .written entries), (serializerVar, s)]⟩

theorem execute_serializeMember {m : Member} {v : Value D} (hv : gs.get? m.name = some v)
    (entries : Fields D) :
    execute k (serializeMember m) (writing gs s entries) =
      .ok (writing gs s (entries ++ [(plain m.label, v)])) := by
  have hplace : evaluate k (writing gs s entries) (.borrow true (.var writtenVar)) =
      .ok (.record .written entries) := by
    rw [evaluate]
    exact evaluate_var (by decide) rfl
  have hfield : evaluate k (writing gs s entries) (.ownFieldRef m.name) = .ok v :=
    evaluate_ownFieldRef rfl hv
  have hassign (w : Fields D) :
      assign k (writing gs s entries) (.borrow true (.var writtenVar)) (.record .written w) =
        .ok (writing gs s w) := rfl
  have hperform : perform k (writing gs s entries) (.orReturn (.apply .serializeField
      [.borrow true (.var writtenVar), .text m.label, .ownFieldRef m.name])) =
        .ok (.unit, writing gs s (entries ++ [(plain m.label, v)])) := by
    rw [Term.apply, perform, hplace, hfield, evaluate]
    simp only [Answer.ok_bind, hassign]
    rfl
  exact execute_run k hperform

theorem executeAll_serializeMember (ms : List Member)
    (h : ∀ m ∈ ms, ∃ v, gs.get? m.name = some v) (entries : Fields D) :
    executeAll k (ms.map serializeMember) (writing gs s entries) =
      .ok (writing gs s (entries ++ labelled ms gs)) := by
  induction ms generalizing entries with
  | nil => simp [executeAll, labelled]
  | cons m ms ih =>
    obtain ⟨v, hv⟩ := h m List.mem_cons_self
    rw [List.map_cons, executeAll, execute_serializeMember hv, Answer.ok_bind,
      ih (fun m' hm' => h m' (List.mem_cons_of_mem m hm'))]
    simp [labelled, hv]

/-- The function that writes a value writes the fields of all members. -/
theorem run_serialize (k : Context D) (s : Value D)
    (h : ∀ m ∈ b.members, ∃ v, gs.get? m.name = some v) :
    runFunction k b.serializeFunction (.record .value gs) [s] =
      .ok (.success (.record .written (labelled b.members gs)), .record .value gs) := by
  let start : Env D := ⟨.record .value gs, [(serializerVar, s)]⟩
  have hserializer : evaluate k start (.var serializerVar) = .ok s :=
    evaluate_var (by decide) rfl
  have hbegin : evaluate k start (.orReturn (.apply .serializeStruct
      [.var serializerVar, .text b.typeName.spelling, .size b.members.length])) =
        .ok (.record .written []) := by
    have harguments : evaluateAll k start
        [.var serializerVar, .text b.typeName.spelling, .size b.members.length] =
          .ok [s, .text b.typeName.spelling, .number b.members.length] := by
      rw [evaluateAll, hserializer]
      rfl
    rw [Term.apply, evaluate, evaluate, harguments]
    rfl
  have hstatements : executeAll k b.serializeFunction.body.statements start =
      .ok (writing gs s (labelled b.members gs)) := by
    simp only [serializeFunction, serializeBody, executeAll_append, executeAll, execute, hbegin,
      Answer.ok_bind, Answer.pure_eq]
    exact executeAll_serializeMember b.members h []
  have hfinish : finish k (writing gs s (labelled b.members gs)) b.serializeFunction.body.outcome =
      .ok (.success (.record .written (labelled b.members gs)),
        writing gs s (labelled b.members gs)) := by
    have hwritten : evaluate k (writing gs s (labelled b.members gs)) (.var writtenVar) =
        .ok (.record .written (labelled b.members gs)) := evaluate_var (by decide) rfl
    simp only [serializeFunction, serializeBody, finish, Term.apply, perform]
    rw [evaluate, evaluateAll, hwritten]
    rfl
  exact runFunction_of_finish rfl hstatements hfinish

end Blueprint

end TraitBuilder
