import TraitBuilder.Proofs.Builder.Tracking
import TraitBuilder.Proofs.Loading.Defaults

/-!
# Copying a value into a builder

Merging a value adds the elements of its lists to those that are there and overwrites all else, so a
copy is exact if the lists are empty before.  This is what both ways of copying see to: a new
builder, whose lists may have initial elements, and a builder that has been used are cleared first.

* `IsCopy`: the builder holds what the value holds, and building gives it back.
* `mergeFrom_isCopy`: merging into a builder whose lists are empty makes a copy.
* `copies_value`: `to_builder`, or clearing and merging, makes a copy.
-/

namespace TraitBuilder

open Code Meaning

variable {D : Type}

namespace Blueprint

/-! ## Values -/

/-- The names that the generated code needs to compile: they differ where they must, and no getter
is named like the receiver, which is a keyword. -/
structure Declarable (b : Blueprint) : Prop extends b.WellNamed where
  receiver : ∀ m ∈ b.members, m.name ≠ plain "self"

/-- The fields are those of a value: the lists among them are lists. -/
structure ValueLaid (b : Blueprint) (gs : Fields D) : Prop where
  names : gs.map (·.1) = b.valueFields.map (·.1)
  lists : ∀ m ∈ b.members, ∀ element e, m.role = .list element e →
    ∃ vs, gs.get? m.name = some (.list vs)

section Values

variable {b : Blueprint} {gs : Fields D} (given : Tokens → Value D) (n : Nat)

theorem ValueLaid.exists_field (h : b.ValueLaid gs) {m : Member} (hm : m ∈ b.members) :
    ∃ v, gs.get? m.name = some v := by
  refine Option.ne_none_iff_exists'.mp fun hnone => Fields.get?_eq_none_iff.mp hnone ?_
  have hmem : m.name ∈ gs.map (·.1) := by
    rw [h.names, valueFields, List.map_map]
    exact List.mem_map.mpr ⟨m, hm, rfl⟩
  obtain ⟨f, hf, hname⟩ := List.mem_map.mp hmem
  exact List.mem_map.mpr ⟨f, hf, by rw [hname]⟩

/-- The getter of a value hands back what the value holds. -/
theorem call_valueGetter (hn : b.WellNamed) {m : Member} (hm : m ∈ b.members) {v : Value D}
    (hv : gs.get? m.name = some v) :
    (b.link given (n + 1)).associated b.typeName m.name [.record .value gs] = .ok v := by
  let k : Context D := b.context given .value (b.link given n)
  have hnames : (b.valueGetters.map (·.name.name)).Nodup := by
    rw [valueGetters, List.map_map]
    exact hn.distinctFields.members_nodup
  have hmem : traitGetter m m.readStored ∈ b.valueGetters := List.mem_map.mpr ⟨m, hm, rfl⟩
  have hfind : findFunction b.valueGetters m.name = some (traitGetter m m.readStored) :=
    findFunction_of_mem hnames hmem
  have hfinish : finish k ⟨.record .value gs, []⟩ (traitGetter m m.readStored).body.outcome =
      .ok (v, ⟨.record .value gs, []⟩) :=
    perform_read_ownField rfl hv
  have hrun : runFunction k (traitGetter m m.readStored) (.record .value gs) [] =
      .ok (v, .record .value gs) :=
    runFunction_of_finish rfl rfl hfinish
  simp only [link, callOf, if_true, runNamed, traitGettersOf, hfind]
  rw [hrun]
  rfl

theorem ValueLaid.implements (hn : b.WellNamed) (h : b.ValueLaid gs) :
    b.Implements (b.link given (n + 1)) (.record .value gs) := by
  intro m hm
  obtain ⟨v, hv⟩ := h.exists_field hm
  refine ⟨v, call_valueGetter given n hn hm hv, fun element e hrole => ?_⟩
  obtain ⟨vs, hvs⟩ := h.lists m hm element e hrole
  exact ⟨vs, Option.some.inj (hv.symm.trans hvs)⟩

end Values

/-! ## Copies -/

/-- The builder is a copy of the value. -/
structure IsCopy (b : Blueprint) (gs fs : Fields D) : Prop where
  /-- The getters of both hand back the same. -/
  getters : ∀ (given : Tokens → Value D) (n : Nat), ∀ m ∈ b.members, ∃ v,
    gs.get? m.name = some v ∧
      (b.link given (n + 1)).associated b.typeName m.name [.record .value gs] = .ok v ∧
      (b.link given (n + 1)).method false (builderOf fs) m.name [] = .ok (v, builderOf fs)
  /-- A build succeeds, and what is built holds what the value holds. -/
  build : ∀ (given : Tokens → Value D) (n : Nat), ∃ rs,
    (b.link given (n + 3)).method false (builderOf fs) (plain "build") [] =
      .ok (b.built rs, builderOf fs) ∧ ∀ m ∈ b.members, rs.get? m.name = gs.get? m.name

section Copies

variable {b : Blueprint} {fs gs : Fields D}

/-- Two values that a builder carries hold the same. -/
theorem Carries.get?_eq {rs : Fields D} (hrs : b.Carries fs rs) (hgs : b.Carries fs gs)
    {m : Member} (hm : m ∈ b.members) : rs.get? m.name = gs.get? m.name := by
  obtain ⟨v, hv, hfs⟩ := hrs m hm
  obtain ⟨w, hw, hfs'⟩ := hgs m hm
  have hsame := hfs.symm.trans hfs'
  rw [hv, hw]
  split at hsame <;> simp_all

theorem Carries.isCopy (hd : b.Declarable) (h : b.Sound fs) (hcarries : b.Carries fs gs) :
    b.IsCopy gs fs where
  getters given n m hm := by
    obtain ⟨v, hv, hfs⟩ := hcarries m hm
    refine ⟨v, hv, call_valueGetter given n hd.toWellNamed hm hv, ?_⟩
    by_cases hreq : m.isRequired = true
    · rw [if_pos hreq] at hfs
      obtain ⟨w, heq, hcall⟩ :=
        call_getter_required given n hd.toWellNamed (mem_required.mpr ⟨hm, hreq⟩) hfs
      rw [hcall, heq (hd.receiver m hm)]
    · rw [if_neg hreq] at hfs
      exact call_getter_stored given n hd.toWellNamed hm (by simpa using hreq) hfs
  build given n := by
    -- what the value holds of a required member is there, so nothing is unset
    have hset : ∀ m ∈ b.required, fs.get? m.name ≠ some .absent := by
      intro m hm habsent
      obtain ⟨hmem, hreq⟩ := mem_required.mp hm
      obtain ⟨v, -, hfs⟩ := hcarries m hmem
      rw [habsent, if_pos hreq] at hfs
      cases hfs
    obtain ⟨rs, hbuild, hbuilt⟩ := build_set given n hd.toWellNamed h hset
    exact ⟨rs, hbuild, fun m hm => hbuilt.get?_eq hcarries hm⟩

theorem mergeFrom_isCopy (given : Tokens → Value D) (n : Nat) (hd : b.Declarable)
    (hv : b.ValueLaid gs) (h : b.Sound fs)
    (hempty : ∀ m ∈ b.members, ∀ element e, m.role = .list element e →
      fs.get? m.name = some (.list [])) :
    ∃ fs', Leaves ((b.link given (n + 2)).method true (builderOf fs) (plain "merge_from")
      [.record .value gs]) fs' ∧ b.IsCopy gs fs' := by
  have hmem : b.mergeFromFunction ∈ b.builderFunctions := by simp [builderFunctions]
  obtain ⟨fs', hrun, hsound, hall⟩ :=
    mergeFrom_merges given n hd.toWellNamed (hv.implements given n hd.toWellNamed) h
  refine ⟨fs', ?_, Carries.isCopy hd hsound fun m hm => ?_⟩
  · rw [Leaves, show plain "merge_from" = b.mergeFromFunction.name from rfl,
      method_builder hd.toWellNamed hmem (Or.inr ⟨rfl, rfl⟩)]
    exact hrun
  obtain ⟨u, w, hu, hw, r, hr, hmerged⟩ := hall m hm
  obtain ⟨v, hgs⟩ := hv.exists_field hm
  obtain rfl : r = v :=
    Except.ok.inj (hr.symm.trans (call_valueGetter given n hd.toWellNamed hm hgs))
  refine ⟨r, hgs, ?_⟩
  rw [hw, hmerged (hd.receiver m hm), Member.merged_empty fun element e hrole => ⟨?_, ?_⟩]
  · exact Option.some.inj (hu.symm.trans (hempty m hm element e hrole))
  · obtain ⟨vs, hvs⟩ := hv.lists m hm element e hrole
    exact ⟨vs, Option.some.inj (hgs.symm.trans hvs)⟩

theorem emptied_list {fs' : Fields D} (h : b.Sound fs)
    (hemptied : ∀ m ∈ b.members, fs'.get? m.name = (fs.get? m.name).map m.emptiedValue) :
    ∀ m ∈ b.members, ∀ element e, m.role = .list element e →
      fs'.get? m.name = some (.list []) := by
  intro m hm element e hrole
  obtain ⟨v, hv, -⟩ := h.members m hm
  rw [hemptied m hm, hv, Option.map_some, Member.emptiedValue, hrole]

end Copies

/-! ## The ways of copying -/

section Ways

variable {b : Blueprint} {fs gs : Fields D}

/-- Clearing and then merging makes a copy, whatever the builder held before, if no builder can be
created from outside. -/
theorem clear_mergeFrom_isCopy (given : Tokens → Value D) (n : Nat) (hd : b.Declarable)
    (hfactory : b.builderFactory = false) (hv : b.ValueLaid gs) (h : b.Sound fs) :
    ∃ cleared copy, Leaves ((b.link given (n + 2)).method true (builderOf fs) (plain "clear") [])
      cleared ∧ Leaves ((b.link given (n + 2)).method true (builderOf cleared) (plain "merge_from")
        [.record .value gs]) copy ∧ b.IsCopy gs copy := by
  have hmem : b.clearFunction ∈ b.builderFunctions := by simp [builderFunctions]
  obtain ⟨hname, hreceiver, -⟩ := b.header_clearFunction
  obtain ⟨cleared, hclear, hsound, hemptied⟩ := clear_emptied given n hd.toWellNamed hfactory h
  obtain ⟨copy, hmerge, hcopy⟩ := mergeFrom_isCopy given n hd hv hsound (emptied_list h hemptied)
  refine ⟨cleared, copy, ?_, hmerge, hcopy⟩
  rw [Leaves, ← hname, method_builder hd.toWellNamed hmem (Or.inr ⟨hreceiver, rfl⟩)]
  exact hclear

/-- The function that creates a builder with all members of the value makes a copy. -/
theorem toBuilder_isCopy {given : Tokens → Value D} (n : Nat) (hd : b.Declarable)
    (hfactory : b.builderFactory = true) (hdefaults : b.DefaultsFit given)
    (hv : b.ValueLaid gs) :
    ∃ copy, (b.link given (n + 3)).method false (.record .value gs) (plain "to_builder") [] =
      .ok (builderOf copy, .record .value gs) ∧ b.IsCopy gs copy := by
  let k : Context D := b.context given .value (b.link given (n + 2))
  let env (fs : Fields D) : Env D := ⟨.record .value gs, [(builderVar, builderOf fs)]⟩
  have hplace : Place k (.var builderVar) env :=
    Place.ofVariable k (.record .value gs) (by decide) rfl
  -- the lists of a new builder may have initial elements, so they are emptied before the merge
  obtain ⟨fresh, hnew, hfresh⟩ := new_fresh hd.distinctFields hdefaults (n + 1)
  obtain ⟨cleared, hclear, hsound, hemptied⟩ :=
    executeAll_partialClear_members hd.toWellNamed hplace hfresh.toSound
  obtain ⟨copy, hmerge, hcopy⟩ :=
    mergeFrom_isCopy given n hd hv hsound (emptied_list hfresh.toSound hemptied)
  have hbind : executeAll k [.bind true builderVar b.newBuilder] ⟨.record .value gs, []⟩ =
      .ok (env fresh) := by
    have hcall : evaluate k ⟨.record .value gs, []⟩ b.newBuilder = .ok (builderOf fresh) := by
      rw [newBuilder, evaluate_call_associated rfl]
      exact hnew
    simp [executeAll, execute, hcall, Env.bind, env]
  have hself : evaluateAll k (env cleared) [.self] = .ok [.record .value gs] := by
    rw [evaluateAll, evaluate_self]
    rfl
  have hstatements : executeAll k b.valueToBuilder.body.statements ⟨.record .value gs, []⟩ =
      .ok (env copy) := by
    rw [valueToBuilder, executeAll_append, executeAll_append, hbind, Answer.ok_bind, hclear,
      Answer.ok_bind]
    exact executeAll_single (hplace.execute_call hself hmerge)
  have hfinish : finish k (env copy) b.valueToBuilder.body.outcome =
      .ok (builderOf copy, env copy) := by
    simp [valueToBuilder, finish, perform, hplace.evaluate]
  have hfind : findFunction ((b.functionsOf .value).filter fun f =>
      f.receiver = .shared || (f.receiver = .mutable && false)) (plain "to_builder") =
        some b.valueToBuilder := by
    simp [functionsOf, valueFunctions, hfactory, findFunction, valueNew, valueBuilder,
      valueToBuilder]
  refine ⟨copy, ?_, hcopy⟩
  simp only [link, callOn, runNamed, hfind]
  exact runFunction_of_finish rfl hstatements hfinish

/-- A value can be copied into a builder. -/
structure Copies (b : Blueprint) (gs : Fields D) : Prop where
  /-- A builder that is made from the value is a copy of it, whatever the initial values are. -/
  toBuilder : b.builderFactory = true → ∀ (given : Tokens → Value D) (n : Nat),
    b.DefaultsFit given → ∃ copy,
      (b.link given (n + 3)).method false (.record .value gs) (plain "to_builder") [] =
        .ok (builderOf copy, .record .value gs) ∧ b.IsCopy gs copy
  /-- A builder that is cleared before the value is merged is a copy of it, whatever it held. -/
  clearMerge : b.builderFactory = false → ∀ (given : Tokens → Value D) (n : Nat) (fs : Fields D),
    b.Reachable fs → ∃ cleared copy,
      Leaves ((b.link given (n + 2)).method true (builderOf fs) (plain "clear") []) cleared ∧
      Leaves ((b.link given (n + 2)).method true (builderOf cleared) (plain "merge_from")
        [.record .value gs]) copy ∧ b.IsCopy gs copy

/-- Every value can be copied into a builder. -/
theorem copies_value (hd : b.Declarable) (hv : b.ValueLaid gs) : b.Copies gs where
  toBuilder hfactory _ n hdefaults := toBuilder_isCopy n hd hfactory hdefaults hv
  clearMerge hfactory given n _ h :=
    clear_mergeFrom_isCopy given n hd hfactory hv (h.sound hd.toWellNamed)

end Ways

end Blueprint

/-! ## Values of a trait -/

/-- The attribute `#[builder(default = [7])]`. -/
def listAttribute : Attribute :=
  .builder [.ident (plain "default"), .punct '=' false, .group .bracket [.literal "7"]]

/-- The getter `width`, the getter `age` with a default value, the optional getter `owner`, and the
list `pages` whose default value has an element. -/
def bookTrait : TraitDecl :=
  { TraitDecl.ofGetters (plain "Book") [] with
    items := [
      .method [] (.getter (plain "width") .number) none,
      .method [defaultAttribute] (.getter (plain "age") .number) none,
      .method [] (.getter (plain "owner") (.applied (.ofIdent (plain "Option"))
        [.punct '<' false] .number [.punct '>' false])) none,
      .method [listAttribute] (.getter (plain "pages") (.reference none false (.slice .number)))
        none] }

/-- Its blueprint without arguments. -/
def bookBlueprint : Blueprint := bookTrait.blueprint {}

theorem bookBlueprint_declarable : bookBlueprint.Declarable where
  fields := by decide
  methods := by decide
  variants := by decide
  receiver := by decide

/-- A book without an owner. -/
def bookFields : Fields Unit := [
  (plain "width", .number 3),
  (plain "age", .number 1),
  (plain "owner", .absent),
  (plain "pages", .list [.number 5, .number 6])]

theorem bookFields_laid : bookBlueprint.ValueLaid bookFields where
  names := by decide
  lists m hm element e hrole := by
    have hpages : ∀ m ∈ bookBlueprint.members, m.layout = .list → m.name = plain "pages" := by
      decide
    rw [hpages m hm (by rw [Member.layout, hrole])]
    exact ⟨_, rfl⟩

theorem bookBlueprint_defaultsFit :
    bookBlueprint.DefaultsFit fun _ => (.list [.number 7] : Value Unit) :=
  fun _ _ _ _ _ => ⟨_, rfl⟩

theorem bookFields_copies : bookBlueprint.Declarable ∧ bookBlueprint.ValueLaid bookFields ∧
    bookBlueprint.Copies bookFields ∧ ∃ copy,
      (bookBlueprint.link (fun _ => .list [.number 7]) 3).method false (.record .value bookFields)
        (plain "to_builder") [] = .ok (builderOf copy, .record .value bookFields) ∧
      bookBlueprint.IsCopy bookFields copy := by
  have hcopies : bookBlueprint.Copies bookFields :=
    Blueprint.copies_value bookBlueprint_declarable bookFields_laid
  exact ⟨bookBlueprint_declarable, bookFields_laid, hcopies,
    hcopies.toBuilder rfl _ 0 bookBlueprint_defaultsFit⟩

end TraitBuilder
