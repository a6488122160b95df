import TraitBuilder.Proofs.Naming.BuilderItems
import TraitBuilder.Proofs.Text.Words

/-!
# Labels that can be tracked

An identifier is made for every name that is derived from the trait's name or from a label.  Where
something precedes the label, the result is an identifier since the label is one; but the name in
camel case drops what precedes the first letter or number, so it may be empty or begin with a
character that begins no identifier.

* `ofString?_eq_ok_iff`: which texts are identifiers.
* `variant?_eq_ok_iff`: a label has a name in camel case if its first letter or number may begin an
  identifier.
* `untrackable_iff`: the expansion of a trait breaks off exactly if the trait is accepted and has a
  required label without such a name; all other derived names are identifiers.
-/

namespace TraitBuilder

open Code Text Text.CamelCase

/-! ## Texts that are identifiers -/

theorem not_isDigit_of_start {c : Char} (h : isIdentifierStart c = true) : c.isDigit = false := by
  by_cases hc : c.toNat < 128
  · exact ascii_forall (P := fun c => isIdentifierStart c = true → c.isDigit = false)
      (by decide +kernel) hc h
  · rw [← Bool.not_eq_true]
    intro hdigit
    simp only [Char.isDigit, Bool.and_eq_true, decide_eq_true_eq, UInt32.le_iff_toNat_le,
      ← Char.toNat_val] at hdigit hc
    have hnine : '9'.val.toNat = 57 := rfl
    omega

theorem Ident.ofString?_eq_ok_iff {text : String} {x : Ident} :
    Ident.ofString? text = .ok x ↔ validChars text.toList = true ∧ x = ⟨text, false⟩ := by
  unfold ofString?
  cases hchars : text.toList with
  | nil => simp [validChars]
  | cons c rest =>
    by_cases hvalid : validChars (c :: rest) = true
    · have hstart : isIdentifierStart c = true := (Bool.and_eq_true_iff.mp hvalid).1
      simp [hvalid, not_isDigit_of_start hstart, eq_comm]
    · simp only [hvalid, List.isEmpty_cons, Bool.false_eq_true, if_false, false_and, iff_false]
      split <;> simp

theorem validChars_iff {cs : List Char} :
    Ident.validChars cs = true ↔ cs.head?.any isIdentifierStart = true ∧
      ∀ c ∈ cs, isIdentifierContinue c = true := by
  cases cs with
  | nil => simp [Ident.validChars]
  | cons c rest =>
    simp only [Ident.validChars, Bool.and_eq_true, List.all_eq_true, List.head?_cons,
      Option.any_some, List.forall_mem_cons]
    constructor
    · rintro ⟨hstart, hrest⟩
      exact ⟨hstart, isIdentifierContinue_of_start hstart, hrest⟩
    · rintro ⟨hstart, -, hrest⟩
      exact ⟨hstart, hrest⟩

/-- An identifier stays one when characters of identifiers are put behind it. -/
theorem validChars_append {xs ys : List Char} (hxs : Ident.validChars xs = true)
    (hys : ∀ c ∈ ys, isIdentifierContinue c = true) : Ident.validChars (xs ++ ys) = true := by
  rw [validChars_iff] at hxs ⊢
  obtain ⟨hhead, hall⟩ := hxs
  refine ⟨?_, ?_⟩
  · cases xs with
    | nil => cases hhead
    | cons c rest => exact hhead
  · intro c hc
    rcases List.mem_append.mp hc with hc | hc
    · exact hall c hc
    · exact hys c hc

/-! ## Labels with a name in camel case -/

/-- The first letter or number of the label may begin an identifier, or is the combining mark whose
uppercase text is a letter. -/
def Nameable (label : String) : Prop :=
  ∃ c, (label.toList.filter isAlphanumeric).head? = some c ∧
    (isIdentifierStart c = true ∨ c = combiningIota)

theorem variant?_eq_ok_iff {label : String}
    (h : ∀ c ∈ label.toList, isIdentifierContinue c = true) :
    (∃ x, variant? label = .ok x) ↔ Nameable label := by
  have hall : ∀ d ∈ (upperCamelCase label).toList, isIdentifierContinue d = true :=
    fun d hd => isIdentifierContinue_of_mem_upperCamelCase hd h
  simp only [variant?, Ident.ofString?_eq_ok_iff, exists_and_left, exists_eq, and_true,
    validChars_iff, Nameable]
  rw [and_iff_left hall, upperCamelCase_head?]
  cases hfirst : (label.toList.filter isAlphanumeric).head? with
  | none => simp
  | some c =>
    have hc : isIdentifierContinue c = true :=
      h c (List.mem_of_mem_filter (List.mem_of_head? hfirst))
    obtain ⟨d, image, himage⟩ := List.exists_cons_of_ne_nil (upper_ne_nil c)
    have hd : (upper c).head? = some d := by rw [himage, List.head?_cons]
    simp only [Option.bind_some, hd, Option.any_some, Option.some.injEq, exists_eq_left']
    exact isIdentifierStart_head_upper_iff hd hc

/-! ## The expansion -/

/-- The names of the trait and of its methods are identifiers, as those of source text are. -/
structure TraitDecl.Spelled (t : TraitDecl) : Prop where
  name : Ident.validChars t.name.name.toList = true
  methods : ∀ attributes s body, .method attributes s body ∈ t.items →
    Ident.validChars s.name.name.toList = true

namespace TraitDecl

theorem spelled_ofGetters {name : Ident} {getters : List (Ident × Ty)}
    (hname : Ident.validChars name.name.toList = true)
    (hgetters : ∀ g ∈ getters, Ident.validChars g.1.name.toList = true) :
    (TraitDecl.ofGetters name getters).Spelled where
  name := hname
  methods := by
    intro attributes s body hmem
    obtain ⟨g, hg, heq⟩ := List.mem_map.mp hmem
    cases heq
    exact hgetters g hg

theorem Spelled.label_valid {t : TraitDecl} (h : t.Spelled) {m : Member} (hm : m ∈ t.members) :
    Ident.validChars m.label.toList = true := by
  obtain ⟨attributes, s, p, hmem, hp, rfl⟩ := mem_members_iff.mp hm
  rw [Member.label, classify_property, Property.label, Property.name_of_ofGetter? hp]
  exact h.methods attributes s none hmem

end TraitDecl

theorem Blueprint.invalidVariant?_eq_some_iff (b : Blueprint) :
    (∃ e, b.invalidVariant? = some e) ↔ ∃ m ∈ b.required, ¬ ∃ x, variant? m.label = .ok x := by
  simp only [invalidVariant?, ← Option.isSome_iff_exists, List.findSome?_isSome_iff]
  refine exists_congr fun m => and_congr_right fun _ => ?_
  cases variant? m.label <;> simp

/-- What is put behind the name of a trait in the names of its types. -/
def endings : List String := ["Builder", "Value", "Partial", "Property", "BuildError"]

/-- Of the names derived in an expansion, all but the variants are identifiers.  The expansion
breaks off exactly if the trait is accepted and a required label has no name in camel case. -/
theorem untrackable_iff {t : TraitDecl} (h : t.Spelled) (arguments : Tokens) :
    ((∃ e, expand arguments t = .error (.untrackable e)) ↔
      ∃ o, t.Accepted arguments o ∧
        ∃ m ∈ (t.blueprint o).required, ¬ Nameable m.label) ∧
    (∀ ending ∈ endings, Ident.ofString? (t.name.name ++ ending) =
      .ok ⟨t.name.name ++ ending, false⟩) ∧
    ∀ m ∈ t.members, ∀ lead ∈ leads, Ident.ofString? (lead ++ m.label) =
      .ok (m.property.derived lead) := by
  refine ⟨?_, ?_, ?_⟩
  · have hname : ∀ o, (∃ e, (t.blueprint o).invalidVariant? = some e) ↔
        ∃ m ∈ (t.blueprint o).required, ¬ Nameable m.label := by
      intro o
      rw [Blueprint.invalidVariant?_eq_some_iff]
      refine exists_congr fun m => and_congr_right fun hm => not_congr ?_
      have hlabel := h.label_valid (List.mem_of_mem_filter hm)
      exact variant?_eq_ok_iff (validChars_iff.mp hlabel).2
    constructor
    · rintro ⟨e, he⟩
      obtain ⟨o, ho, hinvalid⟩ := TraitDecl.accepted_of_untrackable he
      exact ⟨o, ho, (hname o).mp ((t.blueprint o).tokens?_eq_error_iff.mp ⟨e, hinvalid⟩)⟩
    · rintro ⟨o, ho, hm⟩
      obtain ⟨e, he⟩ := (t.blueprint o).tokens?_eq_error_iff.mpr ((hname o).mpr hm)
      exact ⟨e, by rw [TraitDecl.expand_of_accepted ho, he]⟩
  · intro ending hending
    have hall : ∀ ending ∈ endings, ending.toList.all isIdentifierContinue = true := by
      decide
    refine Ident.ofString?_eq_ok_iff.mpr ⟨?_, rfl⟩
    rw [String.toList_append]
    exact validChars_append h.name (List.all_eq_true.mp (hall ending hending))
  · intro m hm lead hlead
    have hvalid : ∀ lead ∈ leads, Ident.validChars lead.toList = true := by decide
    refine Ident.ofString?_eq_ok_iff.mpr ⟨?_, rfl⟩
    rw [String.toList_append]
    exact validChars_append (hvalid lead hlead) (validChars_iff.mp (h.label_valid hm)).2

/-- The getter `_1`, whose label has no letter before its digit. -/
def numberedTrait : TraitDecl := .ofGetters (plain "T") [(plain "_1", .number)]

theorem numberedTrait_untrackable_iff : numberedTrait.Spelled ∧
    ((∃ e, expand [] numberedTrait = .error (.untrackable e)) ↔
      ∃ o, numberedTrait.Accepted [] o ∧
        ∃ m ∈ (numberedTrait.blueprint o).required, ¬ Nameable m.label) ∧
    (∀ ending ∈ endings, Ident.ofString? (numberedTrait.name.name ++ ending) =
      .ok ⟨numberedTrait.name.name ++ ending, false⟩) ∧
    ∀ m ∈ numberedTrait.members, ∀ lead ∈ leads, Ident.ofString? (lead ++ m.label) =
      .ok (m.property.derived lead) :=
  have h : numberedTrait.Spelled := TraitDecl.spelled_ofGetters (by decide) (by decide)
  ⟨h, untrackable_iff h []⟩

/-- The getter `_1` has no fault, and the expansion breaks off. -/
theorem numberedTrait_untrackable : numberedTrait.Spelled ∧ numberedTrait.Accepted [] {} ∧
    expand [] numberedTrait = .error (.untrackable .number) := by
  have h : numberedTrait.Accepted [] {} := TraitDecl.accepted_ofGetters (by decide)
  refine ⟨TraitDecl.spelled_ofGetters (by decide) (by decide), h, ?_⟩
  rw [TraitDecl.expand_of_accepted h, Blueprint.tokens?,
    show (numberedTrait.blueprint {}).invalidVariant? = some .number by decide]

end TraitBuilder
