import TraitBuilder.Proofs.Builder.Building
import TraitBuilder.Proofs.Naming.Accepted

/-!
# Tracking of unset properties

A run creates a builder and calls methods that may change it, one after the other.  Builders that
are handed over are results of runs themselves; all other arguments need only have the form that
the parameters ask for.  What the user wrote may have another value at every call.

* `method_sound`: every method that may change the builder returns and keeps its state as it should
  be.
* `Reachable.sound`: the state of a builder is as it should be after every run.
* `reachable_tracksUnset`: hence the set contains exactly what is unset, and a build fails exactly
  if something is.
-/

namespace TraitBuilder

open Code Meaning

variable {D : Type}

namespace Blueprint

/-! ## Single calls -/

/-- A call of a method that may change the builder, with arguments of the form that its parameters
ask for. -/
structure Changes (b : Blueprint) (given : Tokens → Value D) (n : Nat) (f : Function)
    (arguments : List (Value D)) : Prop where
  function : f ∈ b.builderFunctions
  receiver : f.receiver = .mutable
  defaults : b.DefaultsFit given
  arguments : List.Forall₂ (Fits (b.Implements (b.link given (n + 1))))
    (f.parameters.map (·.2)) arguments

section Step

variable {b : Blueprint} {given : Tokens → Value D} {n : Nat} {f : Function} {fs : Fields D}
  {arguments : List (Value D)}

/-- A method that may change the builder belongs to a single member, or it merges or clears. -/
theorem Changes.cases (h : b.Changes given n f arguments) :
    (∃ m ∈ b.members, f ∈ m.accessors b) ∨ f = b.mergeFromFunction ∨
      f = b.mergeFromBuilderFunction ∨ f = b.clearFunction := by
  have hf := h.function
  have hmut := h.receiver
  simp only [builderFunctions, List.mem_append, List.mem_cons, List.not_mem_nil, or_false] at hf
  rcases hf with (rfl | hf) | rfl | rfl | rfl | rfl | rfl
  · cases hmut
  · exact Or.inl (List.mem_flatMap.mp hf)
  · rw [b.header_buildFunction.2.1] at hmut
    cases hmut
  · exact Or.inr (Or.inl rfl)
  · exact Or.inr (Or.inr (Or.inl rfl))
  · exact Or.inr (Or.inr (Or.inr rfl))
  · cases hmut

/-- Every method that may change the builder returns, hands back the builder, and keeps its state as
it should be. -/
theorem method_sound (hn : b.WellNamed) (hcall : b.Changes given n f arguments)
    (hbuilders : ∀ as, builderOf as ∈ arguments → b.Sound as) (h : b.Sound fs) :
    ∃ gs, Leaves ((b.link given (n + 2)).method true (builderOf fs) f.name arguments) gs ∧
      b.Sound gs := by
  rw [method_builder hn hcall.function (Or.inr ⟨hcall.receiver, rfl⟩)]
  have hargs := hcall.arguments
  rcases hcall.cases with ⟨m, hm, hf⟩ | rfl | rfl | rfl
  · exact accessor_sound given n hn hm hf hcall.receiver h hargs
  · cases hargs with
    | cons hv hnil =>
      cases hnil
      exact mergeFrom_sound given n hn hv h
  · cases hargs with
    | cons hv hnil =>
      cases hnil
      obtain ⟨as, rfl⟩ := hv
      exact mergeFromBuilder_sound given n hn (hbuilders as List.mem_cons_self) h
  · rw [b.header_clearFunction.2.2] at hargs
    cases hargs
    exact clear_sound hn hcall.defaults n h

end Step

/-! ## Runs -/

/-- The states that a builder can be in after a run. -/
inductive Reachable (b : Blueprint) : Fields D → Prop
  | new {given : Tokens → Value D} {n : Nat} {fs : Fields D} (defaults : b.DefaultsFit given)
      (call : (b.link given (n + 1)).associated b.builder (plain "new") [] = .ok (builderOf fs)) :
      Reachable b fs
  | step {given : Tokens → Value D} {n : Nat} {f : Function} {arguments : List (Value D)}
      {fs gs : Fields D} {result : Value D} (before : Reachable b fs)
      (changes : b.Changes given n f arguments)
      (builders : ∀ as, builderOf as ∈ arguments → Reachable b as)
      (call : (b.link given (n + 2)).method true (builderOf fs) f.name arguments =
        .ok (result, builderOf gs)) :
      Reachable b gs

section Run

variable {b : Blueprint} {fs : Fields D}

/-- The state of a builder is as it should be after every run. -/
theorem Reachable.sound (hn : b.WellNamed) (h : b.Reachable fs) : b.Sound fs := by
  induction h with
  | new defaults call =>
    obtain ⟨gs, hgs, hfresh⟩ := new_fresh hn.distinctFields defaults _
    rw [call] at hgs
    cases hgs
    exact hfresh.toSound
  | step before changes builders call ih ihbuilders =>
    obtain ⟨gs, hgs, hsound⟩ := method_sound hn changes ihbuilders ih
    rw [Leaves, call] at hgs
    cases hgs
    exact hsound

/-- A run can go on with every call. -/
theorem Reachable.progress (hn : b.WellNamed) (h : b.Reachable fs) {given : Tokens → Value D}
    {n : Nat} {f : Function} {arguments : List (Value D)}
    (hcall : b.Changes given n f arguments)
    (hbuilders : ∀ as, builderOf as ∈ arguments → b.Reachable as) :
    ∃ gs, Leaves ((b.link given (n + 2)).method true (builderOf fs) f.name arguments) gs ∧
      b.Reachable gs := by
  obtain ⟨gs, hgs, -⟩ := method_sound hn hcall (fun as has => (hbuilders as has).sound hn)
    (h.sound hn)
  exact ⟨gs, hgs, h.step hcall hbuilders hgs⟩

/-- A required member has no value exactly if its variant is in the set. -/
theorem Sound.absent_iff (hn : b.WellNamed) (h : b.Sound fs) {m : Member} (hm : m ∈ b.required) :
    fs.get? m.name = some .absent ↔
      ∃ xs, fs.get? unsetField = some (.set xs) ∧ m.property.variant ∈ xs := by
  rw [h.tracked (hasRequired_of_mem hm), ← variant_mem_unsetIn hn hm]
  constructor
  · intro hmem
    exact ⟨b.unsetIn fs, rfl, hmem⟩
  · rintro ⟨xs, hxs, hmem⟩
    cases hxs
    exact hmem

theorem built_ne_failure (b : Blueprint) (gs : Fields D) (e : Value D) :
    b.built gs ≠ .failure e := by
  unfold built
  split <;> simp

/-- A build returns.  It fails exactly if a required member has no value, with an error that names
all such members, and otherwise makes a value that holds what the builder holds. -/
theorem Sound.build (hn : b.WellNamed) (h : b.Sound fs) (given : Tokens → Value D) (n : Nat) :
    ∃ r, (b.link given (n + 3)).method false (builderOf fs) (plain "build") [] =
      .ok (r, builderOf fs) ∧
        ((∃ e, r = .failure e) ↔ ∃ m ∈ b.required, fs.get? m.name = some .absent) ∧
        (r = .failure (b.unsetError fs) ∨ ∃ gs, r = b.built gs ∧ b.Carries fs gs) := by
  by_cases hunset : ∃ m ∈ b.required, fs.get? m.name = some .absent
  · refine ⟨_, build_unset given n hn h hunset, ⟨fun _ => hunset, fun _ => ⟨_, rfl⟩⟩, Or.inl rfl⟩
  · have hset : ∀ m ∈ b.required, fs.get? m.name ≠ some .absent :=
      fun m hm habsent => hunset ⟨m, hm, habsent⟩
    obtain ⟨gs, hbuild, hcarries⟩ := build_set given n hn h hset
    refine ⟨_, hbuild, ⟨?_, fun hunset' => absurd hunset' hunset⟩, Or.inr ⟨gs, rfl, hcarries⟩⟩
    rintro ⟨e, he⟩
    exact absurd he (b.built_ne_failure gs e)

/-- What is known of a builder without a look at how it came about. -/
structure TracksUnset (b : Blueprint) (fs : Fields D) : Prop where
  /-- A required member has no value exactly if its variant is in the set. -/
  absent_iff : ∀ m ∈ b.required, fs.get? m.name = some .absent ↔
    ∃ xs, fs.get? unsetField = some (.set xs) ∧ m.property.variant ∈ xs
  /-- A build returns, and it fails exactly if a required member has no value; the error names all
  such members, and a value holds what the builder holds. -/
  build : ∀ (given : Tokens → Value D) (n : Nat),
    ∃ r, (b.link given (n + 3)).method false (builderOf fs) (plain "build") [] =
      .ok (r, builderOf fs) ∧
        ((∃ e, r = .failure e) ↔ ∃ m ∈ b.required, fs.get? m.name = some .absent) ∧
        (r = .failure (b.unsetError fs) ∨ ∃ gs, r = b.built gs ∧ b.Carries fs gs)
  /-- Every method that may change the builder returns, and what it leaves behind is reachable. -/
  progress : ∀ (given : Tokens → Value D) (n : Nat) (f : Function) (arguments : List (Value D)),
    b.Changes given n f arguments → (∀ as, builderOf as ∈ arguments → b.Reachable as) →
      ∃ gs, Leaves ((b.link given (n + 2)).method true (builderOf fs) f.name arguments) gs ∧
        b.Reachable gs

/-- The set of the unset properties is right after every run, so a build fails exactly if a required
member is unset. -/
theorem reachable_tracksUnset (hn : b.WellNamed) (h : b.Reachable fs) : b.TracksUnset fs where
  absent_iff _ hm := (h.sound hn).absent_iff hn hm
  build := (h.sound hn).build hn
  progress _ _ _ _ hcall hbuilders := h.progress hn hcall hbuilders

end Run

end Blueprint

/-! ## A run -/

/-- Getters of the names `width` and `height`. -/
def sizeTrait : TraitDecl :=
  .ofGetters (plain "Size") [(plain "width", .number), (plain "height", .number)]

/-- What is generated for the trait of two getters. -/
def sizeBlueprint : Blueprint := sizeTrait.blueprint {}

theorem sizeBlueprint_wellNamed : sizeBlueprint.WellNamed := by
  constructor <;> decide

/-- The builder for which nothing has been set. -/
def emptyBuilder : Fields Unit := [
  (plain "width", .absent),
  (plain "height", .absent),
  (unsetField, .set [plain "Width", plain "Height"])]

/-- The builder whose width has been set. -/
def wideBuilder : Fields Unit := [
  (plain "width", .present (.number 3)),
  (plain "height", .absent),
  (unsetField, .set [plain "Height"])]

/-- The member that the getter of the width is. -/
def widthMember : Member := ⟨⟨plain "width", .number, .number, .owned, []⟩, .single none⟩

theorem sizeBlueprint_defaultsFit : sizeBlueprint.DefaultsFit fun _ => (.list [] : Value Unit) :=
  fun _ _ _ _ _ => ⟨[], rfl⟩

theorem widthMember_changes :
    sizeBlueprint.Changes (fun _ => .list []) 1 (widthMember.setterMethod sizeBlueprint)
      [(.number 3 : Value Unit)] where
  function := by
    have hm : widthMember ∈ sizeBlueprint.members := by decide
    exact Blueprint.accessor_mem_builderFunctions hm List.mem_cons_self
  receiver := rfl
  defaults := sizeBlueprint_defaultsFit
  arguments := .cons trivial .nil

theorem wideBuilder_reachable : sizeBlueprint.Reachable wideBuilder := by
  have hnew : sizeBlueprint.Reachable emptyBuilder := .new (n := 0) sizeBlueprint_defaultsFit rfl
  refine hnew.step widthMember_changes (fun as has => ?_) rfl
  simp at has

theorem wideBuilder_tracksUnset : sizeBlueprint.WellNamed ∧
    sizeBlueprint.Reachable wideBuilder ∧ sizeBlueprint.TracksUnset wideBuilder :=
  ⟨sizeBlueprint_wellNamed, wideBuilder_reachable,
    Blueprint.reachable_tracksUnset sizeBlueprint_wellNamed wideBuilder_reachable⟩

end TraitBuilder
