import TraitBuilder.Proofs.Serialization.Format
import TraitBuilder.Proofs.Serialization.Writing

/-!
# Writing a value and reading it back

The two functions agree on the names, the order and the types of the fields, so a value is read back
as it was written but for what the format writes as `null`.  That is taken for a missing field: a
required member is then unset, one with an initial value keeps that, and an optional one is absent.

* `roundTrips_iff`: a value is read back as it was exactly if no member of it is lost.
* `maybeTrait_not_roundTrips`: a reference to an option without a value is lost.
-/

namespace TraitBuilder

open Code Meaning

variable {D : Type}

namespace Code

/-- The functions of an item. -/
def Item.functions : Item → List Function
  | .implementation i | .hidden _ i => i.functions
  | _ => []

end Code

namespace Blueprint

/-- The functions that write and read values, if they are wanted. -/
def serializationFunctions (b : Blueprint) : List Function :=
  b.serializationItems.flatMap Item.functions

/-- The outcome of a function that writes or reads values. -/
def runSerialization (b : Blueprint) (given : Tokens → Value D) (n : Nat) (name : Ident)
    (receiver argument : Value D) : Answer D (Value D × Value D) :=
  b.runNamed given .value (b.link given n) b.serializationFunctions name receiver [argument]

variable {b : Blueprint} {given : Tokens → Value D} {n : Nat}

theorem findFunction_serialization (h : b.serde = true) :
    findFunction b.serializationFunctions (plain "serialize") = some b.serializeFunction ∧
      findFunction b.serializationFunctions (plain "deserialize") = some b.deserializeFunction := by
  rw [serializationFunctions, serializationItems, if_pos h]
  exact ⟨rfl, rfl⟩

/-- What is written of a value reads back as a value that holds the same. -/
def RoundTrips (b : Blueprint) (F : Format D) (given : Tokens → Value D) (n : Nat)
    (gs : Fields D) : Prop :=
  ∃ entries rs : Fields D,
    b.runSerialization given n (plain "serialize") (.record .value gs) .unit =
      .ok (.success (.record .written entries), .record .value gs) ∧
    b.runSerialization given n (plain "deserialize") .unit
      (F.readFields (F.encode entries) b.shadowStructure.fields) =
        .ok (.success (.record .value rs), .unit) ∧
    ∀ m ∈ b.members, rs.get? m.name = gs.get? m.name

/-- The fields of a value hold values of their types. -/
def Typed (b : Blueprint) (F : Format D) (gs : Fields D) : Prop :=
  ∀ f ∈ b.valueFields, ∃ v, gs.get? f.1 = some v ∧ F.HasType f.2 v

theorem Typed.exists_value {F : Format D} {gs : Fields D} (h : b.Typed F gs) {m : Member}
    (hm : m ∈ b.members) : ∃ v, gs.get? m.name = some v ∧ F.HasType m.valueField.2 v :=
  h m.valueField (List.mem_map.mpr ⟨m, hm, rfl⟩)

/-- No value of a member is lost. -/
def Lossless (b : Blueprint) (F : Format D) (given : Tokens → Value D) (gs : Fields D) : Prop :=
  ∀ m ∈ b.members, ∀ v, gs.get? m.name = some v → F.Survives given m v

section RoundTrip

variable {F : Format D} {gs : Fields D}

/-- If the field of every member can be read, then so can the structure of all fields. -/
theorem exists_readFields {data : List (String × F.Written)} {P : Member → Value D → Prop}
    (hn : b.WellNamed)
    (h : ∀ m ∈ b.members, ∃ r, F.readField data m.name m.serializedType = .ok r ∧ P m r) :
    ∃ rs : Fields D, F.readFields data b.shadowStructure.fields =
      .success (.record .shadow rs) ∧ ∀ m ∈ b.members, ∃ r, rs.get? m.name = some r ∧ P m r := by
  obtain ⟨rs, hrun, hnames, hall⟩ := Fields.exists_mapM Member.name h
  have hnodup : (rs.map (·.1.name)).Nodup := by
    refine Fields.nodup_of_map_fst hnames ?_
    rw [List.map_map]
    exact hn.distinctFields.members_nodup
  refine ⟨rs, ?_, fun m hm => ?_⟩
  · simp only [Format.readFields, shadowStructure, List.mapM_map, Function.comp_def]
    rw [hrun]
  · obtain ⟨r, hmem, hr⟩ := hall m hm
    exact ⟨r, Fields.get?_of_mem hnodup hmem, hr⟩

/-- The fields that are read of what was written are there, each with what is read back of it. -/
theorem readFields_labelled (hn : b.WellNamed) (hv : b.Typed F gs) :
    ∃ rs : Fields D, F.readFields (F.encode (labelled b.members gs)) b.shadowStructure.fields =
      .success (.record .shadow rs) ∧ ∀ m ∈ b.members, ∃ r, rs.get? m.name = some r ∧
        ∃ v, gs.get? m.name = some v ∧ F.HasType m.valueField.2 v ∧ m.Reads r ∧
          F.ReadsBack m v r := by
  have hlabels : ((labelled b.members gs).map (·.1.name)).Nodup :=
    (labelled_sublist b.members gs).nodup hn.distinctFields.members_nodup
  refine exists_readFields hn fun m hm => ?_
  obtain ⟨v, hgs, htype⟩ := hv.exists_value hm
  obtain ⟨r, hr, hreads, hback⟩ := F.read_serializedType htype
  have hfound : F.readField (F.encode (labelled b.members gs)) (plain m.label)
      m.serializedType = F.read m.serializedType (F.write v) :=
    F.readField_encode hlabels (mem_labelled hm hgs) m.serializedType
  exact ⟨r, hfound.trans hr, v, hgs, htype, hreads, hback⟩

/-- Writing a value and reading it back makes a builder that holds what is not lost, and gives what
this builder builds. -/
theorem exists_readBack (n : Nat) (hserde : b.serde = true) (hd : b.Declarable)
    (hdefaults : b.DefaultsFit given) (hv : b.Typed F gs) :
    ∃ (fs : Fields D) (r : Value D),
      b.runSerialization given (n + 3) (plain "serialize") (.record .value gs) .unit =
        .ok (.success (.record .written (labelled b.members gs)), .record .value gs) ∧
      b.runSerialization given (n + 3) (plain "deserialize") .unit
        (F.readFields (F.encode (labelled b.members gs)) b.shadowStructure.fields) =
          .ok (r, .unit) ∧
      (∀ m ∈ b.members, ∃ v, gs.get? m.name = some v ∧
        (fs.get? m.name = some (if m.isRequired then .present v else v) ↔
          F.Survives given m v)) ∧
      (r = .failure (b.unsetError fs) ∧ (∃ m ∈ b.required, fs.get? m.name = some .absent) ∨
        ∃ rs : Fields D, r = .success (.record .value rs) ∧ b.Carries fs rs) := by
  obtain ⟨hfindWrite, hfindRead⟩ := findFunction_serialization hserde
  obtain ⟨rs, hfields, hall⟩ := readFields_labelled hd.toWellNamed hv
  have hreads : ∀ m ∈ b.members, ∃ r, rs.get? m.name = some r ∧ m.Reads r := by
    intro m hm
    obtain ⟨r, hr, -, -, -, hread, -⟩ := hall m hm
    exact ⟨r, hr, hread⟩
  have hthere : ∀ m ∈ b.members, ∃ v, gs.get? m.name = some v := by
    intro m hm
    obtain ⟨v, hgs, -⟩ := hv.exists_value hm
    exact ⟨v, hgs⟩
  obtain ⟨fs, r, hfilled, hrun, houtcome⟩ := run_deserialize n hd hdefaults hreads
  refine ⟨fs, r, ?_, ?_, fun m hm => ?_, houtcome⟩
  · simp only [runSerialization, runNamed, hfindWrite]
    exact run_serialize _ .unit hthere
  · simp only [runSerialization, runNamed, hfindRead, hfields]
    exact hrun
  · obtain ⟨r', hr', v, hgs, htype, -, hback⟩ := hall m hm
    obtain ⟨r'', hr'', hfs⟩ := hfilled m hm
    obtain rfl : r' = r'' := Option.some.inj (hr'.symm.trans hr'')
    refine ⟨v, hgs, ?_⟩
    rw [hfs, Option.some.injEq]
    exact F.survives_iff htype hback

theorem roundTrips_of_lossless (n : Nat) (hserde : b.serde = true) (hd : b.Declarable)
    (hdefaults : b.DefaultsFit given) (hv : b.Typed F gs) (h : b.Lossless F given gs) :
    b.RoundTrips F given (n + 3) gs := by
  obtain ⟨fs, r, hwrite, hread, hkept, houtcome⟩ := exists_readBack n hserde hd hdefaults hv
  have hcarries : b.Carries fs gs := by
    intro m hm
    obtain ⟨v, hgs, hiff⟩ := hkept m hm
    exact ⟨v, hgs, hiff.mpr (h m hm v hgs)⟩
  rcases houtcome with ⟨-, m, hm, habsent⟩ | ⟨rs, rfl, hbuilt⟩
  · -- what is required is not lost, so it is not unset
    obtain ⟨hmem, hreq⟩ := mem_required.mp hm
    obtain ⟨v, -, hfs⟩ := hcarries m hmem
    rw [habsent, if_pos hreq] at hfs
    cases hfs
  · exact ⟨_, rs, hwrite, hread, fun m hm => hbuilt.get?_eq hcarries hm⟩

theorem lossless_of_roundTrips (n : Nat) (hserde : b.serde = true) (hd : b.Declarable)
    (hdefaults : b.DefaultsFit given) (hv : b.Typed F gs)
    (h : b.RoundTrips F given (n + 3) gs) : b.Lossless F given gs := by
  obtain ⟨fs, r, hwrite, hread, hkept, houtcome⟩ := exists_readBack n hserde hd hdefaults hv
  obtain ⟨entries, rs, hwrite', hread', hsame⟩ := h
  rw [hwrite] at hwrite'
  cases hwrite'
  rw [hread] at hread'
  cases hread'
  -- reading succeeded, so the builder held what was read, which is what the value holds
  rcases houtcome with ⟨hfailure, -⟩ | ⟨rs', hsuccess, hbuilt⟩
  · cases hfailure
  cases hsuccess
  intro m hm v hgs
  obtain ⟨v', hgs', hiff⟩ := hkept m hm
  obtain rfl : v = v' := Option.some.inj (hgs.symm.trans hgs')
  obtain ⟨w, hw, hfs⟩ := hbuilt m hm
  obtain rfl : w = v := Option.some.inj (hw.symm.trans ((hsame m hm).trans hgs))
  exact hiff.mp hfs

/-- A value is read back as it was exactly if no value of a member is lost. -/
theorem roundTrips_iff (n : Nat) (hserde : b.serde = true) (hd : b.Declarable)
    (hdefaults : b.DefaultsFit given) (hv : b.Typed F gs) :
    b.RoundTrips F given (n + 3) gs ↔ b.Lossless F given gs :=
  ⟨lossless_of_roundTrips n hserde hd hdefaults hv, roundTrips_of_lossless n hserde hd hdefaults hv⟩

end RoundTrip

end Blueprint

/-! ## A value that is kept -/

/-- What is generated for the book if it can be written and read. -/
def writtenBook : Blueprint := bookTrait.blueprint { serde := true }

theorem writtenBook_declarable : writtenBook.Declarable where
  fields := by decide
  methods := by decide
  variants := by decide
  receiver := by decide

theorem bookFields_typed : writtenBook.Typed plainFormat bookFields := by
  have hfields : writtenBook.valueFields = [
      (plain "width", .given .number), (plain "age", .given .number),
      (plain "owner", .option (.given .number)), (plain "pages", .list (.given .number))] := by
    decide
  rw [Blueprint.Typed, hfields]
  simp only [List.mem_cons, List.not_mem_nil, or_false, forall_eq_or_imp, forall_eq]
  refine ⟨⟨.number 3, rfl, 3, rfl⟩, ⟨.number 1, rfl, 1, rfl⟩, ⟨.absent, rfl, Or.inl rfl⟩, _, rfl,
    [5, 6], rfl⟩

/-- Only that the book has no owner is written as `null`, and `owner` is optional. -/
theorem bookFields_lossless (given : Tokens → Value Unit) :
    writtenBook.Lossless plainFormat given bookFields := by
  intro m hm v hv hnull
  have hmember : ∀ m ∈ writtenBook.members, m.role = .optional none ∨
      m.name = plain "width" ∨ m.name = plain "age" ∨ m.name = plain "pages" := by
    decide
  rcases hmember m hm with hrole | hname | hname | hname
  · have hname : ∀ m ∈ writtenBook.members, m.role = .optional none → m.name = plain "owner" := by
      decide
    rw [hname m hm hrole] at hv
    cases hv
    rw [hrole]
  all_goals
    rw [hname] at hv
    cases hv
    cases hnull

theorem bookFields_roundTrips : writtenBook.serde = true ∧ writtenBook.Declarable ∧
    writtenBook.DefaultsFit (fun _ => (.list [.number 7] : Value Unit)) ∧
    writtenBook.Typed plainFormat bookFields ∧
    writtenBook.RoundTrips plainFormat (fun _ => .list [.number 7]) 3 bookFields :=
  ⟨rfl, writtenBook_declarable, fun _ _ _ _ _ => ⟨_, rfl⟩, bookFields_typed,
    (Blueprint.roundTrips_iff 0 rfl writtenBook_declarable (fun _ _ _ _ _ => ⟨_, rfl⟩)
      bookFields_typed).mpr (bookFields_lossless _)⟩

/-! ## A value that is lost -/

/-- The getter `x`, which returns a reference to an option. -/
def maybeTrait : TraitDecl :=
  .ofGetters (plain "T") [(plain "x", .reference none false
    (.applied (.ofIdent (plain "Option")) [.punct '<' false] .number [.punct '>' false]))]

/-- What is generated for it if it can be written and read. -/
def maybeBlueprint : Blueprint := maybeTrait.blueprint { serde := true }

theorem maybeBlueprint_declarable : maybeBlueprint.Declarable where
  fields := by decide
  methods := by decide
  variants := by decide
  receiver := by decide

/-- The value of which `x` is the option without a value. -/
def maybeFields : Fields Unit := [(plain "x", .absent)]

theorem maybeTrait_not_roundTrips :
    maybeTrait.Accepted [Token.word "serde"] { serde := true } ∧ maybeBlueprint.Declarable ∧
      maybeBlueprint.Typed plainFormat maybeFields ∧
      ¬ maybeBlueprint.RoundTrips plainFormat (fun _ => .list []) 3 maybeFields := by
  have htyped : maybeBlueprint.Typed plainFormat maybeFields := by
    have hfields : maybeBlueprint.valueFields = [(plain "x", .given (.applied
        (.ofIdent (plain "Option")) [.punct '<' false] .number [.punct '>' false]))] := by
      decide
    rw [Blueprint.Typed, hfields]
    simp only [List.mem_singleton, forall_eq]
    exact ⟨.absent, rfl, Or.inl rfl⟩
  refine ⟨⟨by decide, rfl, by decide⟩, maybeBlueprint_declarable, htyped, fun h => ?_⟩
  have hlossless := Blueprint.lossless_of_roundTrips 0 rfl maybeBlueprint_declarable
    (fun _ _ _ _ _ => ⟨_, rfl⟩) htyped h
  -- `x` is required, and written as `null`
  have hrequired : ∃ m ∈ maybeBlueprint.members, m.name = plain "x" ∧ m.role = .single none := by
    decide
  obtain ⟨m, hm, hname, hrole⟩ := hrequired
  have hlost := hlossless m hm .absent (by rw [hname]; rfl) rfl
  rw [hrole] at hlost
  exact hlost

end TraitBuilder
