import TraitBuilder.Proofs.Code.Subterms
import TraitBuilder.Proofs.Loading.Defaults
import TraitBuilder.Proofs.Syntax.LiteralForms

/-!
# Default values as they are written

The expression that a getter's attribute gives as default value is documented to be the argument of
the setter in the constructor.  It is, and what the builder's field holds in the beginning is made
of its tokens, unless it is a string literal: that is read as the text of an expression, and no
string literal is what its text is read as.

* `TraitDecl.HasGetter`, `GivesDefault`: a getter that is in order, and what its attribute gives.
* `Member.givens_initial`: what the user wrote of a field's initial value is the default value.
* `TraitDecl.usesAsWritten_iff`: a default value is used as it is written exactly if it is no string
  literal.
-/

namespace TraitBuilder

open Code

/-! ## What the user wrote -/

/-- The tokens of the user that a term consists of. -/
def Code.Term.given? : Term → Option Tokens
  | .given ts => Option.some ts
  | _ => Option.none

/-- The tokens of the user inside a term, piece by piece. -/
def Code.Term.givens (t : Term) : List Tokens := t.subterms.filterMap Term.given?

theorem givens_apply (f : Library) (t : Term) : (Term.apply f [t]).givens = t.givens := by
  have hterms : (Term.apply f [t]).subterms = .apply f [t] :: (t.subterms ++ []) := rfl
  rw [Term.givens, hterms, List.append_nil]
  rfl

theorem givens_setterConversion (ty : Ty) (ts : Tokens) :
    (setterConversion ty (.given ts)).givens = [ts] := by
  unfold setterConversion
  split
  · rfl
  · exact givens_apply _ _

/-- What the user wrote of the value that a field holds in the beginning is the default value. -/
theorem Member.givens_initial (m : Member) :
    m.initial.givens = (m.role.default.map Expr.tokens).toList := by
  unfold Member.initial
  split <;> rename_i hrole <;> rw [hrole]
  · rfl
  · rfl
  · exact givens_setterConversion _ _
  · exact (givens_apply _ _).trans (givens_setterConversion _ _)
  · rfl
  · rfl

/-! ## What attributes give -/

/-- The attributes addressed to the builder give the default value `e` and nothing else. -/
def GivesDefault (attributes : List Attribute) (e : Expr) : Prop :=
  ∃ a delimiter content path, builderAttributes attributes = [a] ∧
    a.body = .list delimiter content ∧
    Entry.listOfTokens? content = .ok [.named path (.value e)] ∧ path.joined = defaultName

/-- An expression is taken as it is, invisible groups apart, exactly if it is no string literal. -/
theorem EntryBody.expr?_value_iff (e : Expr) :
    (EntryBody.value e).expr? = .ok e.ungrouped ↔ e.ungrouped.text? = none := by
  cases htext : e.ungrouped.text? with
  | none =>
    have hexpr : (EntryBody.value e).expr? = .ok e.ungrouped := by
      simp [expr?, value?, Bind.bind, Except.bind, htext, Pure.pure, Except.pure]
    simp [hexpr]
  | some found =>
    have hexpr : (EntryBody.value e).expr? = readText Expr.ofTokens? found.1 found.2 := by
      simp [expr?, value?, Bind.bind, Except.bind, htext]
    simp [hexpr, readText_ne_of_text? htext]

theorem defaultOf?_of_givesDefault {attributes : List Attribute} {e : Expr}
    (h : GivesDefault attributes e) :
    defaultOf? (builderAttributes attributes) =
      ((EntryBody.value e).expr?.map some).mapError fun fault => [fault] := by
  obtain ⟨a, delimiter, content, path, hone, hbody, hentries, hname⟩ := h
  simp only [hone, defaultOf?, List.foldl_cons, List.foldl_nil, addAttribute, hbody, hentries,
    Reading.addAll, Reading.add, hname]
  rw [if_neg (by simp), if_neg (by simp [Reading.start])]
  have haccept : acceptDefault defaultName (.value e) none = (EntryBody.value e).expr?.map some :=
    rfl
  cases hvalue : (EntryBody.value e).expr? with
  | ok value => simp [haccept, hvalue, Reading.start, Reading.result, Except.map, Except.mapError]
  | error fault =>
    simp [haccept, hvalue, Reading.start, Reading.fail, Reading.result, Except.map, Except.mapError]

/-- The default value is the expression itself exactly if that is no string literal. -/
theorem ownDefault_eq_iff {attributes : List Attribute} {e : Expr}
    (h : GivesDefault attributes e) :
    ownDefault attributes = some e.ungrouped ↔ e.ungrouped.text? = none := by
  rw [← EntryBody.expr?_value_iff, ownDefault, defaultOf?_of_givesDefault h]
  cases (EntryBody.value e).expr? with
  | ok value => simp [Except.map, Except.mapError]
  | error fault => simp [Except.map, Except.mapError]

/-! ## Getters of a trait -/

/-- The trait has a getter that is in order, what its attributes give apart. -/
structure TraitDecl.HasGetter (t : TraitDecl) (attributes : List Attribute) (s : Signature)
    (p : Property) : Prop where
  item : .method attributes s none ∈ t.items
  property : Property.ofGetter? s (keptAttributes attributes) = .ok p
  distinct : collisions t.members = []

theorem TraitDecl.HasGetter.argumentOf?_setter {t : TraitDecl} {attributes : List Attribute}
    {s : Signature} {p : Property} (h : t.HasGetter attributes s p) :
    argumentOf? t.inventory.invocations p.setter = ownDefault attributes := by
  rw [TraitDecl.inventory, (Inventory.ofItems_declared t.items).2]
  refine argumentOf?_invocations (declared_label_nodup_of_collisions h.distinct) ?_
  exact List.mem_filterMap.mpr ⟨_, h.item, by simp [TraitItem.declared?, h.property]⟩

/-- The expression that a getter's attribute gives as default value is used as it is written. -/
structure TraitDecl.UsesAsWritten (t : TraitDecl) (o : Options) (attributes : List Attribute)
    (s : Signature) (p : Property) (e : Expr) : Prop where
  /-- Nothing is wrong with the getter. -/
  accepted : (Inventory.ofItem (.method attributes s none)).problems = []
  /-- The constructor gives the setter the expression itself. -/
  invoked : argumentOf? t.inventory.invocations p.setter = some e.ungrouped
  /-- What the user wrote of the field's value in the constructor are the tokens of the
  expression. -/
  initialized : ∃ initials initial, (t.blueprint o).builderNew.body.outcome = .record initials ∧
    (p.name, initial) ∈ initials ∧ initial.givens = [e.ungrouped.tokens]

theorem TraitDecl.HasGetter.usesAsWritten {t : TraitDecl} (o : Options)
    {attributes : List Attribute} {s : Signature} {p : Property} {e : Expr}
    (h : t.HasGetter attributes s p) (hgiven : GivesDefault attributes e)
    (hvalue : e.ungrouped.text? = none) : t.UsesAsWritten o attributes s p e := by
  have hinvoked : argumentOf? t.inventory.invocations p.setter = some e.ungrouped :=
    h.argumentOf?_setter.trans ((ownDefault_eq_iff hgiven).mpr hvalue)
  refine ⟨?_, hinvoked, _, (classify t.inventory.invocations p).initial, rfl, ?_, ?_⟩
  · have hdefault := defaultOf?_of_givesDefault hgiven
    rw [(EntryBody.expr?_value_iff e).mpr hvalue] at hdefault
    rw [Inventory.ofItem, Inventory.ofGetter, hdefault, h.property]
    rfl
  · refine List.mem_append_left _ (List.mem_map.mpr ⟨classify t.inventory.invocations p, ?_, ?_⟩)
    · exact TraitDecl.mem_members_iff.mpr ⟨attributes, s, p, h.item, h.property, rfl⟩
    · simp [Member.name]
  · simp [Member.givens_initial, classify_default, hinvoked]

/-- A default value is used as it is written exactly if it is no string literal. -/
theorem TraitDecl.usesAsWritten_iff {t : TraitDecl} (o : Options)
    {attributes : List Attribute} {s : Signature} {p : Property} {e : Expr}
    (h : t.HasGetter attributes s p) (hgiven : GivesDefault attributes e) :
    t.UsesAsWritten o attributes s p e ↔ e.ungrouped.text? = none := by
  constructor
  · intro hused
    exact (ownDefault_eq_iff hgiven).mp (h.argumentOf?_setter.symm.trans hused.invoked)
  · exact h.usesAsWritten o hgiven

/-- The number `18`. -/
def eighteen : Expr := ⟨.literal (.token false "18"), [.literal "18"]⟩

theorem agedTrait_usesAsWritten : ∃ p,
    agedTrait.HasGetter [defaultAttribute] (.getter (plain "age") .number) p ∧
      GivesDefault [defaultAttribute] eighteen ∧ eighteen.ungrouped.text? = none ∧
      agedTrait.UsesAsWritten {} [defaultAttribute] (.getter (plain "age") .number) p eighteen := by
  obtain ⟨p, hp⟩ : ∃ p,
      Property.ofGetter? (.getter (plain "age") .number) (keptAttributes [defaultAttribute]) =
        .ok p := ⟨_, rfl⟩
  have hgetter : agedTrait.HasGetter [defaultAttribute] (.getter (plain "age") .number) p :=
    ⟨by decide, hp, by decide⟩
  have hgiven : GivesDefault [defaultAttribute] eighteen :=
    ⟨defaultAttribute, _, _, .ofIdent (plain "default"), by decide, rfl, by decide, by decide⟩
  have hvalue : eighteen.ungrouped.text? = none := by decide
  exact ⟨p, hgetter, hgiven, hvalue, (agedTrait.usesAsWritten_iff {} hgetter hgiven).mpr hvalue⟩

/-! ## A string as default value -/

/-- The string literal that denotes `localhost`. -/
def hostLiteral : Expr := ⟨.literal (.token false "\"localhost\""), [.literal "\"localhost\""]⟩

/-- The attribute `#[builder(default = "localhost")]`. -/
def hostAttribute : Attribute :=
  .builder [.ident (plain "default"), .punct '=' false, .literal "\"localhost\""]

/-- The signature `fn host(&self) -> &str`. -/
def hostGetter : Signature :=
  .getter (plain "host") (.reference none false (.ofIdent (plain "str")))

/-- The getter `host` with the default value `"localhost"`. -/
def hostTrait : TraitDecl :=
  { TraitDecl.ofGetters (plain "T") [] with items := [.method [hostAttribute] hostGetter none] }

/-- The string `"localhost"` becomes the variable `localhost`. -/
theorem hostTrait_not_usesAsWritten : ∃ p,
    hostTrait.HasGetter [hostAttribute] hostGetter p ∧ GivesDefault [hostAttribute] hostLiteral ∧
      (argumentOf? hostTrait.inventory.invocations p.setter).map Expr.tokens =
        some [.ident (plain "localhost")] ∧
      ¬ hostTrait.UsesAsWritten {} [hostAttribute] hostGetter p hostLiteral := by
  obtain ⟨p, hp⟩ : ∃ p,
      Property.ofGetter? hostGetter (keptAttributes [hostAttribute]) = .ok p := ⟨_, rfl⟩
  have hgetter : hostTrait.HasGetter [hostAttribute] hostGetter p :=
    ⟨by decide, hp, by decide +kernel⟩
  have hgiven : GivesDefault [hostAttribute] hostLiteral :=
    ⟨hostAttribute, _, _, .ofIdent (plain "default"), by decide, rfl, by decide +kernel, by decide⟩
  have hargument : (argumentOf? hostTrait.inventory.invocations p.setter).map Expr.tokens =
      some [.ident (plain "localhost")] := by
    rw [hgetter.argumentOf?_setter]
    decide +kernel
  refine ⟨p, hgetter, hgiven, hargument, fun hused => ?_⟩
  rw [hused.invoked] at hargument
  exact absurd hargument (by decide)

end TraitBuilder
