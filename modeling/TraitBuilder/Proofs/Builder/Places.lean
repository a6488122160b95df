import TraitBuilder.Proofs.Builder.Accessors

/-!
# Builders in places

The receiver of a method and a variable are places where a builder is kept.  The generated code
changes a builder member by member wherever it is kept, and a statement that belongs to a member
leaves all others alone, so what the statements do to single members can be told one by one.

* `Place.ofReceiver`, `Place.ofVariable`: the places.
* `Place.execute_call`: a method is called on the builder in its place.
* `executeAll_members`: what the statements of all members do, by what those of each do.
-/

namespace TraitBuilder

open Code Meaning

variable {D : Type}

namespace Meaning

/-- The term is where a builder is kept; `env fs` is the environment if its fields are `fs`. -/
structure Place (k : Context D) (t : Term) (env : Fields D → Env D) : Prop where
  evaluate (fs : Fields D) : evaluate k (env fs) t = .ok (builderOf fs)
  assign (fs gs : Fields D) : assign k (env fs) t (builderOf gs) = .ok (env gs)

namespace Place

variable {k : Context D} {t : Term} {env : Fields D → Env D} {fs gs : Fields D}

/-- The receiver. -/
theorem ofReceiver (k : Context D) (locals : Fields D) :
    Place k .self fun fs => ⟨builderOf fs, locals⟩ where
  evaluate _ := evaluate_self
  assign _ _ := assign_self _

/-- A variable, if no other has its name. -/
theorem ofVariable (k : Context D) (self : Value D) {x : Ident} (hx : x ≠ plain "self")
    {locals : Fields D} (hlocals : locals.get? x = none) :
    Place k (.var x) fun fs => ⟨self, (x, builderOf fs) :: locals⟩ where
  evaluate _ := evaluate_var hx (by simp)
  assign fs gs := by
    have hset : Fields.set ((x, builderOf fs) :: locals) x (builderOf gs) =
        (x, builderOf gs) :: locals.set x (builderOf gs) := by
      simp [Fields.set]
    simp [Meaning.assign, Env.set, hx, hset, Fields.set_of_get?_eq_none hlocals]

/-- A variable stays a place where another one is bound. -/
theorem bound {x : Ident} (h : Place k (.var x) env) (hx : x ≠ plain "self") {y : Ident}
    (hne : y.name ≠ x.name) (v : Value D) : Place k (.var x) fun fs => (env fs).bind y v where
  evaluate fs := by
    have hlocal := h.evaluate fs
    simp only [Meaning.evaluate, Env.get, hx, if_false] at hlocal ⊢
    rwa [Env.bind, Fields.get?_cons, if_neg hne]
  assign fs gs := by
    have hassign := h.assign fs gs
    simp only [Meaning.assign, Env.set, hx, if_false] at hassign ⊢
    rw [Env.bind, Fields.get?_cons, if_neg hne]
    split at hassign
    · rename_i hthere
      have hafter : env gs = { env fs with locals := (env fs).locals.set x (builderOf gs) } :=
        (Except.ok.inj hassign).symm
      simp [hafter, Fields.set, hne, Env.bind]
    · cases hassign

theorem execute_call (h : Place k t env) {name : Ident} {arguments : List Term}
    {vs : List (Value D)} (harguments : evaluateAll k (env fs) arguments = .ok vs)
    (hcall : Leaves (k.link.method true (builderOf fs) name vs) gs) :
    execute k (.run (.method t name arguments)) (env fs) = .ok (env gs) := by
  have hperform : perform k (env fs) (.method t name arguments) = .ok (builderOf gs, env gs) := by
    simp [perform, harguments, h.evaluate, callMethod, hcall, h.assign]
  exact execute_run k hperform

theorem execute_emptied (h : Place k t env) {x : Ident} {vs : List (Value D)}
    (hx : fs.get? x = some (.list vs)) :
    execute k (Member.emptied (.field t x)) (env fs) = .ok (env (fs.set x (.list []))) := by
  have hfield : Meaning.evaluate k (env fs) (.field t x) = .ok (.list vs) :=
    evaluate_field (h.evaluate fs) hx
  have hassign : Meaning.assign k (env fs) (.field t x) (.list []) =
      .ok (env (fs.set x (.list []))) := by
    rw [Meaning.assign, h.evaluate, Answer.ok_bind, Value.setField_record (by simp [hx]),
      Answer.ok_bind, h.assign]
  have hperform : perform k (env fs) (.method (.field t x) (plain "clear") []) =
      .ok (.unit, env (fs.set x (.list []))) := by
    simp [perform, evaluateAll, hfield, callMethod, readBuiltin, changeBuiltin, plain, hassign]
  exact execute_run k hperform

end Place

end Meaning

/-! ## One member after the other -/

/-- What is left of the value of a member when its list, if it is one, is emptied. -/
def Member.emptiedValue (m : Member) (v : Value D) : Value D :=
  match m.role with
  | .list _ _ => .list []
  | _ => v

namespace Blueprint

section Members

variable {b : Blueprint} {k : Context D} {env : Fields D → Env D} {fs : Fields D}

/-- What the statements that belong to single members do to a builder, if those of each member touch
no other and keep an invariant: `effect` relates the values of the member before and after. -/
theorem executeAll_members (hn : b.DistinctFields) {Inv : Fields D → Prop}
    (hlaid : ∀ fs, Inv fs → b.Laid fs) (env : Fields D → Env D) (block : Member → List Statement)
    (effect : Member → Value D → Value D → Prop)
    (hstep : ∀ m ∈ b.members, ∀ fs v, Inv fs → fs.get? m.name = some v →
      ∃ w gs, executeAll k (block m) (env fs) = .ok (env gs) ∧ Inv gs ∧ b.Updates m w fs gs ∧
        effect m v w)
    (h : Inv fs) :
    ∃ gs, executeAll k (b.members.flatMap block) (env fs) = .ok (env gs) ∧ Inv gs ∧
      ∀ m ∈ b.members, ∃ v w, fs.get? m.name = some v ∧ gs.get? m.name = some w ∧
        effect m v w := by
  -- the induction is on the members that are left; those that are not among them stay as they are
  suffices hrun : ∀ ms : List Member, (ms.map (·.name.name)).Nodup → (∀ m ∈ ms, m ∈ b.members) →
      ∀ fs, Inv fs → ∃ gs, executeAll k (ms.flatMap block) (env fs) = .ok (env gs) ∧ Inv gs ∧
        ∀ m ∈ b.members, ∃ v w, fs.get? m.name = some v ∧ gs.get? m.name = some w ∧
          if m ∈ ms then effect m v w else w = v by
    obtain ⟨gs, hgs, hinv, hall⟩ := hrun b.members hn.members_nodup (fun m hm => hm) fs h
    refine ⟨gs, hgs, hinv, fun m hm => ?_⟩
    obtain ⟨v, w, hv, hw, heffect⟩ := hall m hm
    exact ⟨v, w, hv, hw, by rwa [if_pos hm] at heffect⟩
  intro ms hnodup hms
  induction ms with
  | nil =>
    intro fs h
    refine ⟨fs, by rw [List.flatMap_nil, executeAll], h, fun m hm => ?_⟩
    obtain ⟨v, hv, -⟩ := (hlaid fs h).members m hm
    exact ⟨v, v, hv, hv, by simp⟩
  | cons m ms ih =>
    intro fs h
    rw [List.map_cons, List.nodup_cons] at hnodup
    have hm : m ∈ b.members := hms m List.mem_cons_self
    obtain ⟨v, hv, -⟩ := (hlaid fs h).members m hm
    obtain ⟨w, gs₁, hrun₁, hinv₁, hupdates, heffect⟩ := hstep m hm fs v h hv
    obtain ⟨gs, hrun, hinv, hall⟩ :=
      ih hnodup.2 (fun m' hm' => hms m' (List.mem_cons_of_mem m hm')) gs₁ hinv₁
    refine ⟨gs, ?_, hinv, fun m' hm' => ?_⟩
    · rw [List.flatMap_cons, executeAll_append, hrun₁, Answer.ok_bind, hrun]
    obtain ⟨v', w', hv', hw', heffect'⟩ := hall m' hm'
    by_cases hname : m'.name.name = m.name.name
    · obtain rfl := hn.eq_of_name hm' hm hname
      have hnot : m' ∉ ms := fun hmem => hnodup.1 (List.mem_map.mpr ⟨m', hmem, rfl⟩)
      obtain rfl : w = v' := Option.some.inj (hupdates.own.symm.trans hv')
      rw [if_neg hnot] at heffect'
      exact ⟨v, w', hv, hw', by simpa [heffect'] using heffect⟩
    · have hne : m' ≠ m := fun heq => hname (by rw [heq])
      rw [hupdates.others m' hm' hname] at hv'
      exact ⟨v', w', hv', hw', by simpa [hne] using heffect'⟩

/-- Clearing a member as far as that is possible without a fresh builder empties its list. -/
theorem executeAll_partialClear (hn : b.WellNamed) {t : Term} (hplace : Place k t env)
    {m : Member} (hm : m ∈ b.members) {v : Value D} (h : b.Sound fs)
    (hv : fs.get? m.name = some v) :
    ∃ gs, executeAll k (m.partialClear t) (env fs) = .ok (env gs) ∧ b.Sound gs ∧
      b.Updates m (m.emptiedValue v) fs gs := by
  have hnothing : executeAll k [] (env fs) = .ok (env fs) := by rw [executeAll]
  unfold Member.partialClear Member.emptiedValue
  cases hrole : m.role with
  | list element default =>
    obtain ⟨vs, hvs⟩ := h.isList hm hrole
    exact ⟨_, executeAll_single (hplace.execute_emptied hvs), h.set_list hn hm hrole [],
      Updates.set_field h.toLaid hm _⟩
  | single default => exact ⟨fs, hnothing, h, Updates.refl hv⟩
  | optional default => exact ⟨fs, hnothing, h, Updates.refl hv⟩

theorem executeAll_partialClear_members (hn : b.WellNamed) {t : Term} (hplace : Place k t env)
    (h : b.Sound fs) :
    ∃ gs, executeAll k (b.members.flatMap (·.partialClear t)) (env fs) = .ok (env gs) ∧
      b.Sound gs ∧ ∀ m ∈ b.members, gs.get? m.name = (fs.get? m.name).map m.emptiedValue := by
  obtain ⟨gs, hrun, hgs, hall⟩ := executeAll_members hn.distinctFields (fun _ h => h.toLaid) env
    (·.partialClear t) (fun m v w => w = m.emptiedValue v)
    (fun m hm fs v (hfs : b.Sound fs) hv => by
      obtain ⟨gs, hrun, hgs, hupdates⟩ := executeAll_partialClear hn hplace hm hfs hv
      exact ⟨m.emptiedValue v, gs, hrun, hgs, hupdates, rfl⟩) h
  refine ⟨gs, hrun, hgs, fun m hm => ?_⟩
  obtain ⟨v, w, hv, hw, rfl⟩ := hall m hm
  rw [hv, hw, Option.map_some]

end Members

end Blueprint

end TraitBuilder
