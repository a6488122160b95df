import TraitBuilder.Proofs.Serialization.RoundTrip

/-!
# Missing fields

Data may lack the fields of some members.  Nothing is read of these, so that the builder to which
the fields are applied should keep what a new builder holds, and building it should name all that is
required.  It is so for every member but one that is optional and has a default value: its setter is
called in any case, and makes it absent.

* `Blueprint.KeepsDefaults`: the members that data lack are as in a new builder, or an error names
  them.
* `Blueprint.keepsDefaults_iff`: it is so exactly if the data lack no optional member with a default
  value.
-/

namespace TraitBuilder

open Code Meaning

variable {D : Type}

/-- The data have no field for the member. -/
def Format.Lacks (F : Format D) (data : List (String × F.Written)) (m : Member) : Prop :=
  ∀ field ∈ data, field.1 ≠ m.label

instance (F : Format D) (data : List (String × F.Written)) (m : Member) :
    Decidable (F.Lacks data m) :=
  inferInstanceAs (Decidable (∀ _ ∈ _, _))

theorem Format.Lacks.readField_eq {F : Format D} {data : List (String × F.Written)} {m : Member}
    (h : F.Lacks data m) : F.readField data m.name m.serializedType = .ok .absent := by
  have hnone : data.filter (·.1 = m.name.name) = [] := by
    refine List.filter_eq_nil_iff.mpr fun field hfield => ?_
    have hne : field.1 ≠ m.name.name := h field hfield
    simpa using hne
  rw [Format.readField, hnone]

namespace Member

/-- What is absent leaves a member as it is, unless the member is optional. -/
theorem filled_absent_eq_iff (m : Member) (given : Tokens → Value D) :
    m.filled (m.initialValue given) .absent = m.initialValue given ↔
      ∀ e, m.role ≠ .optional (some e) := by
  unfold filled initialValue
  rcases hrole : m.role with (_ | e) | (_ | e) | ⟨element, _ | e⟩ <;> simp

end Member

namespace Blueprint

/-- Each field of a member that is there can be read. -/
def Readable (b : Blueprint) (F : Format D) (data : List (String × F.Written)) : Prop :=
  ∀ m ∈ b.members, ¬ F.Lacks data m →
    ∃ r, F.readField data m.name m.serializedType = .ok r ∧ m.Reads r

/-- What comes of the members that data lack: `new` is a new builder, `fs` the builder to which the
fields were applied, and `r` the result. -/
structure HandlesMissing (b : Blueprint) (F : Format D) (given : Tokens → Value D)
    (data : List (String × F.Written)) (new fs : Fields D) (r : Value D) : Prop where
  /-- A new builder holds the default value, or else nothing or the empty list. -/
  initial : ∀ m ∈ b.members, new.get? m.name = some (m.initialValue given)
  /-- What is not required is kept. -/
  kept : ∀ m ∈ b.members, F.Lacks data m → m.isRequired = false → fs.get? m.name = new.get? m.name
  /-- What is required is named in the error. -/
  named : ∀ m ∈ b.required, F.Lacks data m → ∃ xs : List Ident, m.property.variant ∈ xs ∧
    r = .failure (.record .buildError [(errorField, .list (xs.map .variant))])

/-- Reading the data does with what they lack as it should. -/
def KeepsDefaults (b : Blueprint) (F : Format D) (given : Tokens → Value D) (n : Nat)
    (data : List (String × F.Written)) : Prop :=
  ∃ (new fs : Fields D) (env : Env D) (r : Value D),
    (b.link given n).associated b.builder (plain "new") [] = .ok (builderOf new) ∧
    executeAll (b.context given .value (b.link given n)) b.deserializeFunction.body.statements
      ⟨.unit, [(deserializerVar, F.readFields data b.shadowStructure.fields)]⟩ = .ok env ∧
    env.locals.get? builderVar = some (builderOf fs) ∧
    b.runSerialization given n (plain "deserialize") .unit
      (F.readFields data b.shadowStructure.fields) = .ok (r, .unit) ∧
    b.HandlesMissing F given data new fs r

section Missing

variable {b : Blueprint} {F : Format D} {given : Tokens → Value D}
  {data : List (String × F.Written)}

/-- All fields can be read, and nothing is read of those that are missing. -/
theorem Readable.exists_fields (hn : b.WellNamed) (h : b.Readable F data) :
    ∃ rs : Fields D, F.readFields data b.shadowStructure.fields = .success (.record .shadow rs) ∧
      ∀ m ∈ b.members, ∃ r, rs.get? m.name = some r ∧ m.Reads r ∧
        (F.Lacks data m → r = .absent) := by
  refine exists_readFields hn fun m hm => ?_
  by_cases hlacks : F.Lacks data m
  · exact ⟨.absent, hlacks.readField_eq, Or.inl rfl, fun _ => rfl⟩
  · obtain ⟨r, hr, hreads⟩ := h m hm hlacks
    exact ⟨r, hr, hreads, fun h => absurd h hlacks⟩

/-- The runs that are about the data, with what the builder holds in the end. -/
theorem exists_runs (n : Nat) (hserde : b.serde = true) (hd : b.Declarable)
    (hdefaults : b.DefaultsFit given) (hdata : b.Readable F data) :
    ∃ (new fs : Fields D) (env : Env D) (r : Value D),
      (b.link given (n + 3)).associated b.builder (plain "new") [] = .ok (builderOf new) ∧
      executeAll (b.context given .value (b.link given (n + 3)))
        b.deserializeFunction.body.statements
          ⟨.unit, [(deserializerVar, F.readFields data b.shadowStructure.fields)]⟩ = .ok env ∧
      env.locals.get? builderVar = some (builderOf fs) ∧
      b.runSerialization given (n + 3) (plain "deserialize") .unit
        (F.readFields data b.shadowStructure.fields) = .ok (r, .unit) ∧
      b.Fresh given new ∧
      (∀ m ∈ b.members, F.Lacks data m →
        fs.get? m.name = some (m.filled (m.initialValue given) .absent)) ∧
      ((∃ m ∈ b.required, fs.get? m.name = some .absent) → r = .failure (b.unsetError fs)) := by
  obtain ⟨-, hfind⟩ := findFunction_serialization hserde
  obtain ⟨rs, hfields, hall⟩ := hdata.exists_fields hd.toWellNamed
  obtain ⟨new, hnew, hfresh⟩ := new_fresh hd.distinctFields hdefaults (n + 2)
  obtain ⟨fs, happlied, hsound, hfilled⟩ := executeAll_deserialize n hd hdefaults
    fun m hm => (hall m hm).imp fun r hr => ⟨hr.1, hr.2.1⟩
  obtain ⟨r, hrun, houtcome⟩ := run_deserialize_of_applied n hd hsound happlied
  refine ⟨new, fs, _, r, hnew, by rw [hfields]; exact happlied, rfl, ?_, hfresh, ?_, ?_⟩
  · simp only [runSerialization, runNamed, hfind, hfields]
    exact hrun
  · intro m hm hlacks
    obtain ⟨r, hr, -, habsent⟩ := hall m hm
    obtain ⟨r', hr', hfs⟩ := hfilled m hm
    obtain rfl : r = r' := Option.some.inj (hr.symm.trans hr')
    rw [hfs, habsent hlacks]
  · rintro ⟨m, hm, hunset⟩
    rcases houtcome with ⟨hfailure, -⟩ | ⟨gs, -, hcarries⟩
    · exact hfailure
    -- a value carries a value of every required member
    · obtain ⟨hmem, hreq⟩ := mem_required.mp hm
      obtain ⟨v, -, hv⟩ := hcarries m hmem
      rw [hunset, if_pos hreq] at hv
      cases hv

theorem role_ne_of_keepsDefaults (n : Nat) (hserde : b.serde = true) (hd : b.Declarable)
    (hdefaults : b.DefaultsFit given) (hdata : b.Readable F data)
    (h : b.KeepsDefaults F given (n + 3) data) {m : Member} (hm : m ∈ b.members)
    (hlacks : F.Lacks data m) (e : Expr) : m.role ≠ .optional (some e) := by
  obtain ⟨-, fs, env, -, -, happlied, hbuilder, -, -, hmissing, -⟩ :=
    exists_runs n hserde hd hdefaults hdata
  obtain ⟨new, fs', env', r, -, happlied', hbuilder', -, hhandles⟩ := h
  obtain rfl : env = env' := Except.ok.inj (happlied.symm.trans happlied')
  obtain rfl : fs = fs' := by
    injection Option.some.inj (hbuilder.symm.trans hbuilder')
  intro hrole
  have hoptional : m.isRequired = false := by simp [Member.isRequired, Member.need, hrole]
  have hkept := hhandles.kept m hm hlacks hoptional
  rw [hhandles.initial m hm, hmissing m hm hlacks, Option.some.injEq] at hkept
  exact (m.filled_absent_eq_iff given).mp hkept e hrole

theorem keepsDefaults_of_role_ne (n : Nat) (hserde : b.serde = true) (hd : b.Declarable)
    (hdefaults : b.DefaultsFit given) (hdata : b.Readable F data)
    (h : ∀ m ∈ b.members, F.Lacks data m → ∀ e, m.role ≠ .optional (some e)) :
    b.KeepsDefaults F given (n + 3) data := by
  obtain ⟨new, fs, env, r, hnew, happlied, hbuilder, hrun, hfresh, hmissing, hfailure⟩ :=
    exists_runs n hserde hd hdefaults hdata
  have hinitial : ∀ m ∈ b.members, F.Lacks data m →
      fs.get? m.name = some (m.initialValue given) := by
    intro m hm hlacks
    rw [hmissing m hm hlacks, (m.filled_absent_eq_iff given).mpr (h m hm hlacks)]
  refine ⟨new, fs, env, r, hnew, happlied, hbuilder, hrun, hfresh.initial, ?_, ?_⟩
  · intro m hm hlacks _
    rw [hinitial m hm hlacks, hfresh.initial m hm]
  · intro m hm hlacks
    obtain ⟨hmem, hreq⟩ := mem_required.mp hm
    have hunset : fs.get? m.name = some .absent := by
      rw [hinitial m hmem hlacks, Member.initialValue_of_required hreq]
    exact ⟨b.unsetIn fs, (variant_mem_unsetIn hd.toWellNamed hm).mpr hunset,
      hfailure ⟨m, hm, hunset⟩⟩

/-- Reading data does as it should with what they lack exactly if no optional member with a default
value is among it. -/
theorem keepsDefaults_iff (n : Nat) (hserde : b.serde = true) (hd : b.Declarable)
    (hdefaults : b.DefaultsFit given) (hdata : b.Readable F data) :
    b.KeepsDefaults F given (n + 3) data ↔
      ∀ m ∈ b.members, F.Lacks data m → ∀ e, m.role ≠ .optional (some e) :=
  ⟨fun h _ hm hlacks e => role_ne_of_keepsDefaults n hserde hd hdefaults hdata h hm hlacks e,
    keepsDefaults_of_role_ne n hserde hd hdefaults hdata⟩

end Missing

end Blueprint

/-! ## Data that keep all that they lack -/

/-- The data of a book of which only the width is given. -/
def bareBook : List (String × plainFormat.Written) := [("width", (.number 3 : Value Unit))]

theorem bareBook_readable : writtenBook.Readable plainFormat bareBook := by
  have hwidth : ∀ m ∈ writtenBook.members, ¬ plainFormat.Lacks bareBook m →
      m.name = plain "width" ∧ m.serializedType = .option (.given .number) ∧
        m.layout ≠ .list := by
    decide
  intro m hm hthere
  obtain ⟨hname, htype, hlayout⟩ := hwidth m hm hthere
  rw [hname, htype]
  refine ⟨.present (.number 3), rfl, Or.inr ⟨_, rfl, fun element e hrole => ?_⟩⟩
  rw [Member.layout, hrole] at hlayout
  exact absurd rfl hlayout

/-- The default values of the age and of the pages are kept, and that there is no owner. -/
theorem bareBook_keepsDefaults : writtenBook.serde = true ∧ writtenBook.Declarable ∧
    writtenBook.DefaultsFit (fun _ => (.list [.number 7] : Value Unit)) ∧
    writtenBook.Readable plainFormat bareBook ∧
    writtenBook.KeepsDefaults plainFormat (fun _ => .list [.number 7]) 3 bareBook := by
  have hdefaults : writtenBook.DefaultsFit (fun _ => (.list [.number 7] : Value Unit)) :=
    fun _ _ _ _ _ => ⟨_, rfl⟩
  refine ⟨rfl, writtenBook_declarable, hdefaults, bareBook_readable,
    (Blueprint.keepsDefaults_iff 0 rfl writtenBook_declarable hdefaults bareBook_readable).mpr ?_⟩
  have hoptional : ∀ m ∈ writtenBook.members, m.layout = .optional → m.role.default = none := by
    decide
  intro m hm _ e hrole
  have hnone := hoptional m hm (by rw [Member.layout, hrole])
  rw [hrole] at hnone
  cases hnone

/-! ## Data that lose a default value -/

/-- The getter `x`, which is optional and has a default value. -/
def eagerTrait : TraitDecl :=
  { TraitDecl.ofGetters (plain "T") [] with
    items := [.method [defaultAttribute] (.getter (plain "x") (.applied (.ofIdent (plain "Option"))
      [.punct '<' false] .number [.punct '>' false])) none] }

/-- What is generated for it if it can be written and read. -/
def eagerBlueprint : Blueprint := eagerTrait.blueprint { serde := true }

theorem eagerBlueprint_declarable : eagerBlueprint.Declarable where
  fields := by decide
  methods := by decide
  variants := by decide
  receiver := by decide

/-- The empty data lack `x`, and the builder has no value for it although a new builder has the
default value. -/
theorem eagerTrait_not_keepsDefaults :
    eagerTrait.Accepted [Token.word "serde"] { serde := true } ∧ eagerBlueprint.Declarable ∧
      eagerBlueprint.Readable plainFormat [] ∧
      ¬ eagerBlueprint.KeepsDefaults plainFormat (fun _ => .number 18) 3 [] := by
  have hreadable : eagerBlueprint.Readable plainFormat [] := fun _ _ hthere => absurd nofun hthere
  have hdefaults : eagerBlueprint.DefaultsFit (fun _ => (.number 18 : Value Unit)) := by
    intro m hm element e hrole
    have hlayout : ∀ m ∈ eagerBlueprint.members, m.layout ≠ .list := by decide
    exact absurd (by rw [Member.layout, hrole]) (hlayout m hm)
  refine ⟨⟨by decide, rfl, by decide⟩, eagerBlueprint_declarable, hreadable, fun h => ?_⟩
  have hrole : ∃ m ∈ eagerBlueprint.members,
      m.role = .optional (some ⟨.literal (.token false "18"), [.literal "18"]⟩) := by
    decide
  obtain ⟨m, hm, hrole⟩ := hrole
  exact Blueprint.role_ne_of_keepsDefaults 0 rfl eagerBlueprint_declarable hdefaults hreadable h hm
    nofun _ hrole

end TraitBuilder
