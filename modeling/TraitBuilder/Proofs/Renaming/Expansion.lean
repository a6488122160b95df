import TraitBuilder.Proofs.Renaming.Traits

/-!
# Expansions under a renaming

Arguments may name the builder, the value and the partial.  The expansion of a trait that does not
mention the default names is then the one without such arguments, with the default names renamed
everywhere and with the builder's name in the documentation of the value.

* `TraitDecl.Renames`: what it is for one expansion to be the other one renamed.
* `TraitDecl.renames_of_naming`: naming the types renames the expansion.
* `TraitDecl.Renames.not_mem`: no default name is left if it does not come back in a given name.
-/

namespace TraitBuilder

open Code

namespace TraitDecl

/-- The expansion of the trait with the second arguments is the one with the first arguments after
the renaming.  Generated code has the renamed builder in the documentation of the value, and the
names that are made of the trait's alone are kept. -/
structure Renames (t : TraitDecl) (r : Renaming) (arguments renamed : Tokens) : Prop where
  typeName : r t.name = t.name
  propertyEnum : ∀ o, r (t.blueprint o).propertyEnum = (t.blueprint o).propertyEnum
  buildError : ∀ o, r (t.blueprint o).buildError = (t.blueprint o).buildError
  failed : ∀ failure, expand arguments t = .error failure → expand renamed t = .error failure
  reported : t.problems ≠ [] → ∀ code, expand arguments t = .ok code →
    expand renamed t = .ok (Token.renameAll r code)
  generated : t.problems = [] → ∀ o code, Options.ofTokens? arguments = .ok o →
    expand arguments t = .ok code →
      code = t.strip.tokens ++ (t.blueprint o).beforeValueDoc ++ (t.blueprint o).valueDoc ++
        (t.blueprint o).afterValueDoc ∧
      expand renamed t = .ok
        (Token.renameAll r (t.strip.tokens ++ (t.blueprint o).beforeValueDoc) ++
          ((t.blueprint o).rename r).valueDoc ++
          Token.renameAll r (t.blueprint o).afterValueDoc)

variable {t : TraitDecl} {names : NamedType → Option Ident} {arguments renamed : Tokens}
  {others entries : List Entry}

theorem options_of_naming (harguments : Entry.listOfTokens? arguments = .ok others)
    (hrenamed : Entry.listOfTokens? renamed = .ok entries)
    (hnaming : Entry.Naming names others entries) :
    Options.ofTokens? renamed = (Options.ofTokens? arguments).map (·.withNames names) := by
  simpa [Options.ofTokens?, harguments, hrenamed] using Options.ofEntries?_of_naming hnaming

theorem isPlain_of_expand {code : Tokens} (h : expand arguments t = .ok code) :
    t.generics.isPlain = true := by
  unfold expand at h
  split at h
  · cases h
  · split at h
    · cases h
    · rename_i hplain
      simpa using hplain

theorem keeps_compileErrors {r : Renaming} (hr : KeepsWords r) (messages : List String) :
    Keeps r (compileErrors messages) := by
  simp [compileErrors, compileError, hr]

section

variable (hoptions :
  Options.ofTokens? renamed = (Options.ofTokens? arguments).map (·.withNames names))

include hoptions

/-- A failure does not depend on the names of the types. -/
theorem expand_error_of_options {failure : ExpansionFailure}
    (he : expand arguments t = .error failure) : expand renamed t = .error failure := by
  cases ho : Options.ofTokens? arguments with
  | error faults =>
    rw [ho] at hoptions
    rw [expand, ho] at he
    rw [expand, hoptions]
    exact he
  | ok o =>
    rw [ho] at hoptions
    by_cases hplain : t.generics.isPlain = true
    · rw [expand_of_options ho hplain] at he
      rw [expand_of_options hoptions hplain]
      cases hcontinuation : t.continuation o with
      | error invalid =>
        obtain ⟨hproblems, hinvalid⟩ := continuation_eq_error_iff.mp hcontinuation
        have hsame : t.continuation (o.withNames names) = .error invalid :=
          continuation_eq_error_iff.mpr ⟨hproblems, hinvalid⟩
        rw [hcontinuation] at he
        rw [hsame]
        exact he
      | ok rest =>
        rw [hcontinuation] at he
        cases he
    · rw [expand, ho] at he
      rw [expand, hoptions]
      simpa [hplain, Except.map] using he

variable {r : Renaming} (hstrip : Keeps r t.strip.tokens)

include hstrip

/-- Reports do not depend on the names of the types. -/
theorem expand_reported (hr : KeepsWords r) (hproblems : t.problems ≠ []) {code : Tokens}
    (he : expand arguments t = .ok code) : expand renamed t = .ok (Token.renameAll r code) := by
  have hplain := isPlain_of_expand he
  cases ho : Options.ofTokens? arguments with
  | error faults =>
    rw [expand, ho] at he
    cases he
  | ok o =>
    rw [ho] at hoptions
    rw [expand_of_options ho hplain, continuation_of_problems hproblems] at he
    rw [expand_of_options hoptions hplain, continuation_of_problems hproblems]
    cases he
    rw [Token.renameAll_append, hstrip.eq, (keeps_compileErrors hr _).eq]

end

/-- Code for the blueprint with the types renamed. -/
theorem expand_generated {o : Options} {code : Tokens} {r : Renaming} (h : t.Accepted arguments o)
    (hstrip : Keeps r t.strip.tokens) (hkept : (t.blueprint o).Kept r) {o' : Options}
    (h' : t.Accepted renamed o') (ho' : t.blueprint o' = (t.blueprint o).rename r)
    (he : expand arguments t = .ok code) :
    code = t.strip.tokens ++ (t.blueprint o).beforeValueDoc ++ (t.blueprint o).valueDoc ++
        (t.blueprint o).afterValueDoc ∧
      expand renamed t = .ok
        (Token.renameAll r (t.strip.tokens ++ (t.blueprint o).beforeValueDoc) ++
          ((t.blueprint o).rename r).valueDoc ++
          Token.renameAll r (t.blueprint o).afterValueDoc) := by
  have hinvalid : (t.blueprint o').invalidVariant? = (t.blueprint o).invalidVariant? := rfl
  cases hvariant : (t.blueprint o).invalidVariant? with
  | some invalid =>
    rw [expand_of_accepted h, Blueprint.tokens?, hvariant] at he
    cases he
  | none =>
    rw [expand_of_valid h hvariant, Blueprint.tokens_eq] at he
    rw [expand_of_valid h' (hinvalid.trans hvariant), ho', Blueprint.tokens_eq,
      Token.renameAll_append, hstrip.eq, Blueprint.rename_beforeValueDoc hkept,
      Blueprint.rename_afterValueDoc hkept]
    simp [← Except.ok.inj he, List.append_assoc]

/-- Naming the builder, the value and the partial renames the expansion, unless the trait mentions
the names that they have by default. -/
theorem renames_of_naming {source : Tokens} (ht : TraitDecl.ofTokens? source = .ok t)
    (harguments : Entry.listOfTokens? arguments = .ok others)
    (hrenamed : Entry.listOfTokens? renamed = .ok entries)
    (hnaming : Entry.Naming names others entries)
    (h : ∀ k, names k ≠ none → t.Unmentioned (t.defaultName k)) :
    t.Renames (t.typeRenaming names) arguments renamed := by
  have hoptions := options_of_naming harguments hrenamed hnaming
  have hkept := kept_blueprint (outer_of_ofTokens? ht) h
  have hstrip : Keeps (t.typeRenaming names) t.strip.tokens :=
    keeps_strip (keeps_of_unmentioned fun k hk => (h k hk).tokens)
  refine ⟨(hkept {}).typeName, fun o => (hkept o).propertyEnum, fun o => (hkept o).buildError,
    fun _ => expand_error_of_options hoptions,
    fun hproblems _ => expand_reported hoptions hstrip keepsWords_typeRenaming hproblems, ?_⟩
  intro hproblems o code ho he
  have hplain := isPlain_of_expand he
  have hothers : ∀ e ∈ others, e.names? = none := by
    intro e hmem
    rw [← hnaming.others] at hmem
    simpa using (List.mem_filter.mp hmem).2
  have hread : Options.ofEntries? others = .ok o := by
    simpa [Options.ofTokens?, harguments] using ho
  have hbare : o.withNames (fun _ => none) = o := Options.names_of_ofEntries? hothers hread
  rw [ho] at hoptions
  exact expand_generated ⟨ho, hplain, hproblems⟩ hstrip (hkept o) ⟨hoptions, hplain, hproblems⟩
    (blueprint_withNames hbare) he

end TraitDecl

/-! ## A trait with two of its types named -/

/-- The trait `trait T { fn count(&self) -> u32; }`. -/
def countTrait : TraitDecl := .ofGetters (plain "T") [(plain "count", .number)]

/-- The value is to be called `V` and the builder `B`. -/
def shortNames : NamedType → Option Ident
  | .value => some (plain "V")
  | .builder => some (plain "B")
  | .partialType => none

/-- The arguments `value = V, serde, builder = "B"`. -/
def shortArguments : Tokens := [
  Token.word "value", .punct '=' false, Token.word "V", .punct ',' false, Token.word "serde",
  .punct ',' false, Token.word "builder", .punct '=' false, Token.string "B"]

/-- The entries of `value = V, serde, builder = "B"`. -/
def shortEntries : List Entry := [
  .named (.ofIdent (plain "value"))
    (.value ⟨.path ⟨.ofIdent (plain "V"), .plain [], true⟩, [Token.word "V"]⟩),
  .named (.ofIdent (plain "serde")) .word,
  .named (.ofIdent (plain "builder"))
    (.value ⟨.literal (.token false "\"B\""), [Token.string "B"]⟩)]

theorem countTrait_renamed :
    TraitDecl.ofTokens? countTrait.tokens = .ok countTrait ∧
    Entry.listOfTokens? [Token.word "serde"] = .ok [.named (.ofIdent (plain "serde")) .word] ∧
    Entry.listOfTokens? shortArguments = .ok shortEntries ∧
    Entry.Naming shortNames [.named (.ofIdent (plain "serde")) .word] shortEntries ∧
    (∀ k, shortNames k ≠ none → countTrait.Unmentioned (countTrait.defaultName k)) ∧
    countTrait.Renames (countTrait.typeRenaming shortNames) [Token.word "serde"]
      shortArguments := by
  have ht : TraitDecl.ofTokens? countTrait.tokens = .ok countTrait := by decide +kernel
  have harguments : Entry.listOfTokens? [Token.word "serde"] =
      .ok [.named (.ofIdent (plain "serde")) .word] := by decide +kernel
  have hrenamed : Entry.listOfTokens? shortArguments = .ok shortEntries := by decide +kernel
  have hnaming : Entry.Naming shortNames [.named (.ofIdent (plain "serde")) .word] shortEntries :=
    ⟨by decide +kernel, fun k => by cases k <;> decide +kernel⟩
  have hfree : ∀ k ∈ NamedType.all, countTrait.Unmentioned (countTrait.defaultName k) := by
    decide +kernel
  have h : ∀ k, shortNames k ≠ none → countTrait.Unmentioned (countTrait.defaultName k) :=
    fun k _ => hfree k k.mem_all
  exact ⟨ht, harguments, hrenamed, hnaming, h,
    TraitDecl.renames_of_naming ht harguments hrenamed hnaming h⟩

/-! ## What is left of the default names -/

namespace TraitDecl

variable {t : TraitDecl} {names : NamedType → Option Ident} {arguments renamed : Tokens}

/-- No identifier is renamed to the default name of a type that is named, if it is not given to
another type. -/
theorem typeRenaming_ne_defaultName {k : NamedType} (hk : names k ≠ none)
    (hgiven : ∀ j, names j ≠ some (t.defaultName k)) (x : Ident) :
    t.typeRenaming names x ≠ t.defaultName k := by
  intro hx
  unfold typeRenaming at hx
  split at hx
  · rename_i j hj
    have hjx : t.defaultName j = x := by simpa using List.find?_some hj
    cases hname : names j with
    | none =>
      rw [hname] at hx
      have hjk : j = k := defaultName_injective (hjx.trans hx)
      exact hk (hjk ▸ hname)
    | some y =>
      rw [hname] at hx
      exact hgiven j (hx ▸ hname)
  · rename_i hnone
    exact absurd hx.symm (by simpa using List.find?_eq_none.mp hnone k k.mem_all)

/-- No default name of a type that is named is left, if it is not given to another type. -/
theorem Renames.not_mem (h : t.Renames (t.typeRenaming names) arguments renamed) {k : NamedType}
    (hk : names k ≠ none) (hgiven : ∀ j, names j ≠ some (t.defaultName k)) {code : Tokens}
    (he : expand renamed t = .ok code) : t.defaultName k ∉ Token.identsOfAll code := by
  have hgone := typeRenaming_ne_defaultName hk hgiven
  have hrenamed (ts : Tokens) :
      t.defaultName k ∉ Token.identsOfAll (Token.renameAll (t.typeRenaming names) ts) := by
    rw [Token.identsOfAll_renameAll]
    simpa using fun x _ => hgone x
  have hdoc (b : Blueprint) : t.defaultName k ∉ Token.identsOfAll b.valueDoc := by
    have hkept : Keeps (t.typeRenaming names) b.valueDoc := keepsWords_typeRenaming.doc _
    rw [← hkept.eq]
    exact hrenamed _
  cases hfirst : expand arguments t with
  | error failure =>
    rw [h.failed failure hfirst] at he
    cases he
  | ok first =>
    by_cases hproblems : t.problems = []
    · cases ho : Options.ofTokens? arguments with
      | error faults =>
        rw [expand, ho] at hfirst
        cases hfirst
      | ok o =>
        obtain ⟨-, hcode⟩ := h.generated hproblems o first ho hfirst
        rw [hcode] at he
        cases he
        simp only [Token.identsOfAll_append, List.mem_append, not_or]
        exact ⟨⟨hrenamed _, hdoc _⟩, hrenamed _⟩
    · rw [h.reported hproblems first hfirst] at he
      cases he
      exact hrenamed _

end TraitDecl

/-! ## A trait whose initial value comes from a text -/

/-- The trait `trait T { #[builder(default = "TBuilder::new()")] fn x(&self) -> u32; }`.  The name
stands in a text, so it is no identifier of the trait.  But a string literal is not used as it is
written: its text becomes the code of the initial value, where the name is not renamed. -/
def quotingTrait : TraitDecl :=
  { TraitDecl.ofGetters (plain "T") [] with
    items := [
      .method [.builder [Token.word "default", .punct '=' false, Token.string "TBuilder::new()"]]
        (.getter (plain "x") .number) none] }

/-- The builder is to be called `B`. -/
def builderName : NamedType → Option Ident
  | .builder => some (plain "B")
  | .value | .partialType => none

/-- The arguments `builder = B`. -/
def builderArguments : Tokens := [Token.word "builder", .punct '=' false, Token.word "B"]

/-- The entries of `builder = B`. -/
def builderEntries : List Entry := [
  .named (.ofIdent (plain "builder"))
    (.value ⟨.path ⟨.ofIdent (plain "B"), .plain [], true⟩, [Token.word "B"]⟩)]

theorem quotingTrait_not_renamed :
    TraitDecl.ofTokens? quotingTrait.tokens = .ok quotingTrait ∧
    Entry.listOfTokens? [] = .ok [] ∧
    Entry.listOfTokens? builderArguments = .ok builderEntries ∧
    Entry.Naming builderName [] builderEntries ∧
    (∀ k ∈ NamedType.all,
      quotingTrait.defaultName k ∉ Token.identsOfAll quotingTrait.tokens ∧
      ∀ m ∈ quotingTrait.members, quotingTrait.defaultName k ∉ m.builderMethods ∧
        quotingTrait.defaultName k ≠ m.property.variant) ∧
    ¬ quotingTrait.Renames (quotingTrait.typeRenaming builderName) [] builderArguments := by
  have hnaming : Entry.Naming builderName [] builderEntries :=
    ⟨by decide +kernel, fun k => by cases k <;> decide +kernel⟩
  refine ⟨by decide +kernel, by decide +kernel, by decide +kernel, hnaming, by decide +kernel, ?_⟩
  intro h
  -- the initial value still calls the constructor of a builder with the default name
  have hleft : (expand builderArguments quotingTrait).toOption.any
      (fun code => quotingTrait.defaultName .builder ∈ Token.identsOfAll code) = true := by
    decide +kernel
  have hfresh : ∀ j, builderName j ≠ some (quotingTrait.defaultName .builder) := by
    intro j
    cases j <;> decide
  cases hexpansion : expand builderArguments quotingTrait with
  | error failure =>
    rw [hexpansion] at hleft
    cases hleft
  | ok code =>
    rw [hexpansion] at hleft
    exact h.not_mem (k := .builder) (by decide) hfresh hexpansion (of_decide_eq_true hleft)

end TraitBuilder
