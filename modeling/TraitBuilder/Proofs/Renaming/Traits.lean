import TraitBuilder.Expansion
import TraitBuilder.Proofs.Loading.Defaults
import TraitBuilder.Proofs.Loading.Reemission
import TraitBuilder.Proofs.Loading.Returned
import TraitBuilder.Proofs.Renaming.Arguments
import TraitBuilder.Proofs.Renaming.Source

/-!
# Traits under a renaming

The types have names by default, made of the trait's name.  A renaming of these is harmless if the
trait does not mention them: neither in its own tokens nor in the expressions of the initial values,
which may come out of texts, and if no method of the builder and no variant bears such a name.

* `TraitDecl.typeRenaming`: the renaming of the default names.
* `TraitDecl.keepsWords_typeRenaming`: no word of generated code is a default name.
* `TraitDecl.kept_blueprint`: the renaming keeps everything but the three names.
-/

namespace TraitBuilder

open Code

/-! ## Default names -/

/-- How the name of the type ends by default. -/
def NamedType.ending : NamedType → String
  | .builder => "Builder"
  | .value => "Value"
  | .partialType => "Partial"

namespace TraitDecl

/-- The name of the type if none is given. -/
def defaultName (t : TraitDecl) (k : NamedType) : Ident := ⟨t.name.name ++ k.ending, false⟩

/-- The renaming of the default names to the given ones, all at once. -/
def typeRenaming (t : TraitDecl) (names : NamedType → Option Ident) : Renaming := fun x =>
  match NamedType.all.find? (t.defaultName · = x) with
  | some k => (names k).getD x
  | none => x

variable {t : TraitDecl} {names : NamedType → Option Ident}

theorem defaultName_injective : Function.Injective t.defaultName := by
  intro j k h
  have htexts : (t.name.name ++ j.ending).toList = (t.name.name ++ k.ending).toList :=
    congrArg (String.toList ∘ Ident.name) h
  rw [String.toList_append, String.toList_append, List.append_cancel_left_eq] at htexts
  cases j <;> cases k <;> simp [NamedType.ending] at htexts ⊢

theorem typeRenaming_defaultName (k : NamedType) :
    t.typeRenaming names (t.defaultName k) = (names k).getD (t.defaultName k) := by
  unfold typeRenaming
  split
  · rename_i j hj
    have hjk : t.defaultName j = t.defaultName k := by simpa using List.find?_some hj
    rw [defaultName_injective hjk]
  · rename_i hnone
    simpa using List.find?_eq_none.mp hnone k k.mem_all

/-- What is no default name of a type with a given name is kept. -/
theorem typeRenaming_eq_self {x : Ident} (h : ∀ k, names k ≠ none → x ≠ t.defaultName k) :
    t.typeRenaming names x = x := by
  unfold typeRenaming
  split
  · rename_i k hk
    have hx : t.defaultName k = x := by simpa using List.find?_some hk
    cases hname : names k with
    | none => rfl
    | some y => exact absurd hx.symm (h k (by simp [hname]))
  · rfl

/-- No word of generated code ends like a default name. -/
theorem vocabulary_endings :
    ∀ word ∈ vocabulary, ∀ k ∈ NamedType.all, ¬ k.ending.toList <:+ word.toList := by
  decide +kernel

theorem keepsWords_typeRenaming : KeepsWords (t.typeRenaming names) := by
  refine fixes_iff.mpr fun word hword => ?_
  apply typeRenaming_eq_self
  rintro k - heq
  apply vocabulary_endings word hword k k.mem_all
  have hname : word = t.name.name ++ k.ending := congrArg Ident.name heq
  rw [hname, String.toList_append]
  exact List.suffix_append _ _

end TraitDecl

/-! ## Types -/

section

variable {r : Renaming}

theorem keeps_unwrapped {ty : Ty} (h : Keeps r ty.tokens) : Keeps r ty.unwrapped.tokens := by
  induction ty with
  | paren inner ih => exact ih (by simpa [Ty.tokens] using h)
  | group inner ih => exact ih (by simpa [Ty.tokens] using h)
  | path | applied | reference | slice | soleBound | other => exact h

theorem keeps_firstArgument {ty argument : Ty} (harg : ty.firstArgument? = some argument)
    (h : Keeps r ty.tokens) : Keeps r argument.tokens := by
  have hunwrapped := keeps_unwrapped h
  unfold Ty.firstArgument? at harg
  split at harg
  · rename_i head opening first more hty
    cases harg
    rw [hty] at hunwrapped
    simp only [Ty.tokens, keeps_append] at hunwrapped
    exact hunwrapped.1.2
  · cases harg

theorem keeps_listElement {p : Property} {element : Ty} (he : p.listElement? = some element)
    (h : Keeps r p.ty.tokens) : Keeps r element.tokens := by
  unfold Property.listElement? at he
  split at he
  · split at he
    · exact keeps_firstArgument he h
    · cases he
  · cases he

theorem keeps_referent {lifetime : Option Ident} {isMut : Bool} {referent : Ty}
    (h : Keeps r (Ty.reference lifetime isMut referent).tokens) : Keeps r referent.tokens := by
  simp only [Ty.tokens, keeps_punct_cons, keeps_append] at h
  exact h.2

theorem keeps_inStd (hr : KeepsWords r) {modName name : String}
    (hmod : r (plain modName) = plain modName) (hname : r (plain name) = plain name) :
    Keeps r (PathHead.inStd modName name).tokens := by
  have hx : r ⟨name, false⟩ = ⟨name, false⟩ := hname
  simp [PathHead.inStd, PathHead.tokens, hr, hmod, hx]

theorem keeps_referentStorage (hr : KeepsWords r) {referent : Ty} (h : Keeps r referent.tokens) :
    Keeps r (referentStorage referent).1.tokens := by
  have htext : Keeps r (PathHead.inStd "string" "String").tokens :=
    keeps_inStd hr (by simp [hr]) (by simp [hr])
  have hlist : Keeps r (PathHead.inStd "vec" "Vec").tokens :=
    keeps_inStd hr (by simp [hr]) (by simp [hr])
  unfold referentStorage
  split
  · split
    · simp [Ty.ownedText, Ty.tokens, htext]
    · exact h
  · simp only [Ty.tokens, keeps_group_cons, keeps_nil, and_true] at h
    simp [Ty.ownedList, Ty.tokens, hlist, h]
  · exact h

theorem keeps_ofReference {lifetime : Option Ident} {isMut : Bool} {asIs stored result : Shape × Ty}
    (hresult : Shape.ofReference? lifetime isMut asIs stored = .ok result)
    (hasIs : Keeps r asIs.2.tokens) (hstored : Keeps r stored.2.tokens) :
    Keeps r result.2.tokens := by
  unfold Shape.ofReference? at hresult
  split at hresult
  · cases hresult
  · split at hresult
    · cases hresult
      exact hstored
    · split at hresult <;> cases hresult
      exact hasIs

theorem keeps_ofOptionArgument (hr : KeepsWords r) {argument : Ty} {result : Shape × Ty}
    (hresult : Shape.ofOptionArgument? argument = .ok result) (h : Keeps r argument.tokens) :
    Keeps r result.2.tokens := by
  unfold Shape.ofOptionArgument? at hresult
  split at hresult
  · exact keeps_ofReference hresult h (keeps_referentStorage hr (keeps_referent h))
  · cases hresult
    exact h

theorem keeps_ofReturnType (hr : KeepsWords r) {ty : Ty} {result : Shape × Ty}
    (hresult : Shape.ofReturnType? ty = .ok result) (h : Keeps r ty.tokens) :
    Keeps r result.2.tokens := by
  unfold Shape.ofReturnType? at hresult
  split at hresult
  · exact keeps_ofReference hresult h (keeps_referentStorage hr (keeps_referent h))
  · split at hresult
    · split at hresult
      · rename_i argument hargument
        exact keeps_ofOptionArgument hr hresult (keeps_firstArgument hargument h)
      · cases hresult
    · cases hresult
      exact h

/-! ## Items -/

@[simp] theorem keeps_outerTokens {attributes : List Attribute} :
    Keeps r (outerTokens attributes) ↔
      ∀ a ∈ attributes, a.inner = false → Keeps r a.tokens := by
  simp [outerTokens]

@[simp] theorem keeps_innerTokens {attributes : List Attribute} :
    Keeps r (innerTokens attributes) ↔
      ∀ a ∈ attributes, a.inner = true → Keeps r a.tokens := by
  simp [innerTokens]

theorem keeps_itemWithoutBuilder {item : TraitItem} (h : Keeps r item.tokens) :
    Keeps r item.withoutBuilder.tokens := by
  cases item with
  | method attributes s body =>
    have hsub : ∀ a ∈ withoutBuilder attributes, a ∈ attributes :=
      fun a ha => (List.mem_filter.mp ha).1
    cases body with
    | none =>
      simp only [TraitItem.tokens, keeps_append, keeps_outerTokens] at h
      obtain ⟨⟨hattributes, hs⟩, hend⟩ := h
      simp only [TraitItem.withoutBuilder, TraitItem.tokens, keeps_append, keeps_outerTokens]
      exact ⟨⟨fun a ha => hattributes a (hsub a ha), hs⟩, hend⟩
    | some body =>
      simp only [TraitItem.tokens, keeps_append, keeps_outerTokens, keeps_group_cons,
        keeps_innerTokens] at h
      obtain ⟨⟨hattributes, hs⟩, ⟨hinner, hbody⟩, hend⟩ := h
      simp only [TraitItem.withoutBuilder, TraitItem.tokens, keeps_append, keeps_outerTokens,
        keeps_group_cons, keeps_innerTokens]
      exact ⟨⟨fun a ha => hattributes a (hsub a ha), hs⟩,
        ⟨fun a ha => hinner a (hsub a ha), hbody⟩, hend⟩
  | constant | associatedType | macroCall | verbatim => exact h

theorem keeps_output {s : Signature} {ty : Ty} (hty : s.output = some ty) (h : Keeps r s.tokens) :
    Keeps r ty.tokens := by
  simp only [Signature.tokens, hty, keeps_append] at h
  exact h.1.2.2

end

namespace TraitDecl

section

variable {r : Renaming} {t : TraitDecl} (h : Keeps r t.tokens)

include h

theorem keeps_name : r t.name = t.name := by
  simp only [tokens, headTokens, keeps_append, keeps_word_cons, keeps_ident_cons] at h
  exact h.1.1.1.1.2.2.1

theorem keeps_visibility : Keeps r t.visibility := by
  simp only [tokens, headTokens, keeps_append] at h
  exact h.1.1.1.1.1.1.1.2

theorem keeps_item {item : TraitItem} (hitem : item ∈ t.items) : Keeps r item.tokens := by
  simp only [tokens, keeps_append, keeps_group_cons, keeps_flatMap] at h
  exact h.2.1.2 item hitem

theorem keeps_strip : Keeps r t.strip.tokens := by
  have hitems : ∀ item ∈ t.items, Keeps r item.withoutBuilder.tokens :=
    fun item hitem => keeps_itemWithoutBuilder (keeps_item h hitem)
  rw [strip_eq]
  simp only [tokens, withoutBuilder, keeps_append, keeps_group_cons, keeps_flatMap,
    List.forall_mem_map] at h ⊢
  exact ⟨h.1, ⟨h.2.1.1, hitems⟩, h.2.2⟩

end

/-- The trait does not mention the name where generated code would take it over. -/
structure Unmentioned (t : TraitDecl) (x : Ident) : Prop where
  tokens : x ∉ Token.identsOfAll t.tokens
  methods : ∀ m ∈ t.members, x ∉ m.builderMethods
  variants : ∀ m ∈ t.members, m.isRequired → x ≠ m.property.variant
  /-- Of the initial values, only those made from string literals are no tokens of the trait. -/
  initial : ∀ m ∈ t.members, ∀ e ∈ m.role.default, x ∉ Token.identsOfAll e.tokens

instance (t : TraitDecl) (x : Ident) : Decidable (t.Unmentioned x) :=
  decidable_of_iff
    (x ∉ Token.identsOfAll t.tokens ∧ ∀ m ∈ t.members, x ∉ m.builderMethods ∧
      (m.isRequired → x ≠ m.property.variant) ∧
      ∀ e ∈ m.role.default, x ∉ Token.identsOfAll e.tokens)
    ⟨fun h => ⟨h.1, fun m hm => (h.2 m hm).1, fun m hm => (h.2 m hm).2.1,
        fun m hm => (h.2 m hm).2.2⟩,
      fun h => ⟨h.tokens, fun m hm => ⟨h.methods m hm, h.variants m hm, h.initial m hm⟩⟩⟩

theorem listElement?_of_classify {invocations : List Invocation} {p : Property} {element : Ty}
    {default : Option Expr} (h : (classify invocations p).role = .list element default) :
    p.listElement? = some element := by
  unfold classify at h
  grind

theorem doc_of_ofGetter? {s : Signature} {attributes : List Attribute} {p : Property}
    (h : Property.ofGetter? s attributes = .ok p) : p.doc = docAttributes attributes := by
  unfold Property.ofGetter? at h
  grind

section

variable {t : TraitDecl} {names : NamedType → Option Ident}

theorem keeps_of_unmentioned {ts : Tokens}
    (h : ∀ k, names k ≠ none → t.defaultName k ∉ Token.identsOfAll ts) :
    Keeps (t.typeRenaming names) ts := by
  refine keeps_of_idents fun x hx => typeRenaming_eq_self fun k hk heq => ?_
  exact h k hk (heq ▸ hx)

theorem kept_member (houter : ∀ item ∈ t.items, Syntax.OuterOnly item)
    (h : ∀ k, names k ≠ none → t.Unmentioned (t.defaultName k)) {m : Member} (hm : m ∈ t.members) :
    m.Kept (t.typeRenaming names) := by
  have htokens := keeps_of_unmentioned fun k hk => (h k hk).tokens
  obtain ⟨attributes, s, p, hitem, hp, hclassify⟩ := mem_members_iff.mp hm
  have hproperty : m.property = p := by rw [hclassify, classify_property]
  obtain ⟨houtput, hshape⟩ := Property.shape_of_ofGetter? hp
  have hmethod := keeps_item htokens hitem
  simp only [TraitItem.tokens, keeps_append, keeps_outerTokens] at hmethod
  have hreturn := keeps_output houtput hmethod.1.2
  have hty := keeps_ofReturnType keepsWords_typeRenaming hshape hreturn
  refine ⟨fun x hx => typeRenaming_eq_self ?_, fun hrequired => typeRenaming_eq_self ?_,
    by rwa [hproperty], by rwa [hproperty], ?_, fun e he => ?_, ?_⟩
  · rintro k hk rfl
    exact (h k hk).methods m hm hx
  · intro k hk heq
    exact (h k hk).variants m hm hrequired heq.symm
  · intro element default hrole
    rw [hclassify] at hrole
    exact keeps_listElement (listElement?_of_classify hrole) hty
  · exact keeps_of_unmentioned fun k hk => (h k hk).initial m hm e he
  · intro a ha
    rw [hproperty, doc_of_ofGetter? hp] at ha
    have hgiven : a ∈ attributes :=
      (List.mem_filter.mp (List.mem_filter.mp (List.mem_filter.mp ha).1).1).1
    exact hmethod.1.1 a hgiven (houter _ hitem _ _ rfl a hgiven)

theorem kept_blueprint (houter : ∀ item ∈ t.items, Syntax.OuterOnly item)
    (h : ∀ k, names k ≠ none → t.Unmentioned (t.defaultName k)) (o : Options) :
    (t.blueprint o).Kept (t.typeRenaming names) := by
  have htokens := keeps_of_unmentioned fun k hk => (h k hk).tokens
  have hderived {ending : String} (hending : ∀ k : NamedType, k.ending ≠ ending) :
      t.typeRenaming names ⟨t.name.name ++ ending, false⟩ = ⟨t.name.name ++ ending, false⟩ := by
    refine typeRenaming_eq_self fun k _ heq => hending k ?_
    have htexts : (t.name.name ++ ending).toList = (t.name.name ++ k.ending).toList :=
      congrArg (String.toList ∘ Ident.name) heq
    rw [String.toList_append, String.toList_append, List.append_cancel_left_eq] at htexts
    exact (String.toList_injective htexts).symm
  exact {
    words := keepsWords_typeRenaming
    typeName := keeps_name htokens
    visibility := keeps_visibility htokens
    propertyEnum := hderived fun k => by cases k <;> decide
    buildError := hderived fun k => by cases k <;> decide
    members := fun m => kept_member houter h }

/-- Naming the types renames them in the blueprint. -/
theorem blueprint_withNames {o : Options} (ho : o.withNames (fun _ => none) = o) :
    t.blueprint (o.withNames names) = (t.blueprint o).rename (t.typeRenaming names) := by
  rw [← ho]
  have hnamed (k : NamedType) : t.typeRenaming names (t.defaultName k) =
      (names k).getD (t.defaultName k) := typeRenaming_defaultName k
  have hb := hnamed .builder
  have hv := hnamed .value
  have hp := hnamed .partialType
  simp only [defaultName, NamedType.ending] at hb hv hp
  simp [blueprint, Blueprint.rename, Options.withNames, hb, hv, hp]

end

end TraitDecl

end TraitBuilder
