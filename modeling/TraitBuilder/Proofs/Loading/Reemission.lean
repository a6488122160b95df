import TraitBuilder.Proofs.Loading.Reports

/-!
# The trait in its expansion

An expansion begins with the trait itself.  Each item is written back when it is walked over, on
every path through the walk, and only methods lose something: the attributes whose path is the plain
name `builder`.  Neither `r#builder` nor a longer path is taken for it.

* `Inventory.items_add`: what the walk does to one item, whatever was found before.
* `Inventory.items_foldl_add`: what it does to all of them.
* `reemitted_without_builder`: the trait at the head of its expansion, and how that trait is loaded.
-/

namespace TraitBuilder

/-! ## Attributes -/

/-- The plain name by which the builder is addressed. -/
def builderPath : NamePath := .ofIdent (Code.plain "builder")

theorem isBuilderAttribute_iff {a : Attribute} :
    isBuilderAttribute a = true ↔ a.path = builderPath := by
  obtain ⟨inner, ⟨rooted, names⟩, body⟩ := a
  cases rooted with
  | true => simp [isBuilderAttribute, Attribute.is, NamePath.is, builderPath, NamePath.ofIdent]
  | false =>
    match names with
    | [] => simp [isBuilderAttribute, Attribute.is, NamePath.is, builderPath, NamePath.ofIdent]
    | [x] =>
      obtain ⟨name, raw⟩ := x
      simp [isBuilderAttribute, Attribute.is, NamePath.is, Ident.is, builderPath, NamePath.ofIdent,
        Code.plain, and_comm]
    | _ :: _ :: _ =>
      simp [isBuilderAttribute, Attribute.is, NamePath.is, builderPath, NamePath.ofIdent]

/-- The attributes that have another path than `builder`. -/
def withoutBuilder (attributes : List Attribute) : List Attribute :=
  attributes.filter (·.path ≠ builderPath)

theorem keptAttributes_eq (attributes : List Attribute) :
    keptAttributes attributes = withoutBuilder attributes := by
  refine List.filter_congr fun a _ => ?_
  rw [Bool.eq_iff_iff, Bool.not_eq_true', ← Bool.not_eq_true, isBuilderAttribute_iff]
  simp

theorem builderAttributes_withoutBuilder (attributes : List Attribute) :
    builderAttributes (withoutBuilder attributes) = [] := by
  rw [builderAttributes, withoutBuilder, List.filter_filter, List.filter_eq_nil_iff]
  intro a _ ha
  obtain ⟨hbuilder, hpath⟩ := Bool.and_eq_true_iff.mp ha
  exact of_decide_eq_true hpath (isBuilderAttribute_iff.mp hbuilder)

theorem withoutBuilder_withoutBuilder (attributes : List Attribute) :
    withoutBuilder (withoutBuilder attributes) = withoutBuilder attributes := by
  simp [withoutBuilder]

/-! ## Items -/

/-- The item with all attributes of its own but those that have the path `builder`, if it is a
method; any other item as it is. -/
def TraitItem.withoutBuilder : TraitItem → TraitItem
  | .method attributes signature body =>
    .method (TraitBuilder.withoutBuilder attributes) signature body
  | item => item

theorem TraitItem.withoutBuilder_withoutBuilder (item : TraitItem) :
    item.withoutBuilder.withoutBuilder = item.withoutBuilder := by
  cases item with
  | method attributes signature body =>
    simp [TraitItem.withoutBuilder, TraitBuilder.withoutBuilder_withoutBuilder]
  | constant | associatedType | macroCall | verbatim => rfl

namespace Inventory

theorem items_ofItem_eq (item : TraitItem) : (ofItem item).items = [item.withoutBuilder] := by
  cases item with
  | method attributes signature body =>
    cases body with
    | none =>
      rw [ofItem, items_ofGetter, keptAttributes_eq]
      rfl
    | some body =>
      rw [ofItem, keptAttributes_eq]
      rfl
  | constant attributes name ty value => cases value <;> rfl
  | associatedType | macroCall | verbatim => rfl

/-- The walk writes an item back, with what was found before unchanged. -/
theorem items_add (found : Inventory) (item : TraitItem) :
    (found.add item).items = found.items ++ [item.withoutBuilder] := by
  rw [add_eq, append_def, items_ofItem_eq]

/-- The walk writes all items back in their order. -/
theorem items_foldl_add (found : Inventory) (items : List TraitItem) :
    (items.foldl add found).items = found.items ++ items.map TraitItem.withoutBuilder := by
  induction items generalizing found with
  | nil => simp
  | cons item rest ih =>
    rw [List.foldl_cons, ih, items_add, List.append_assoc]
    rfl

/-- An item that was written back has no more attributes that could be at fault. -/
theorem ofItem_withoutBuilder (item : TraitItem) :
    (ofItem item.withoutBuilder).invocations = [] ∧
      ∀ p ∈ (ofItem item.withoutBuilder).problems,
        p ≠ .attributeOnProvided ∧ ∀ fault, p ≠ .argument fault := by
  cases item with
  | method attributes signature body =>
    have hnone : builderAttributes (TraitBuilder.withoutBuilder attributes) = [] :=
      builderAttributes_withoutBuilder attributes
    have hdefault : defaultOf? [] = .ok none := rfl
    cases body with
    | none =>
      rw [TraitItem.withoutBuilder, ofItem, ofGetter, hnone, hdefault]
      cases Property.ofGetter? signature (keptAttributes (TraitBuilder.withoutBuilder attributes))
        with
      | error fault => simp
      | ok p => simp [invocationsFor]
    | some body =>
      rw [TraitItem.withoutBuilder, ofItem, hnone]
      exact ⟨rfl, List.forall_mem_nil _⟩
  | constant attributes name ty value =>
    cases value with
    | none => exact ⟨rfl, by simp [TraitItem.withoutBuilder, ofItem]⟩
    | some value => exact ⟨rfl, List.forall_mem_nil _⟩
  | associatedType => exact ⟨rfl, by simp [TraitItem.withoutBuilder, ofItem]⟩
  | macroCall | verbatim => exact ⟨rfl, List.forall_mem_nil _⟩

theorem ofItems_withoutBuilder (items : List TraitItem) :
    (ofItems (items.map TraitItem.withoutBuilder)).invocations = [] ∧
      ∀ p ∈ (ofItems (items.map TraitItem.withoutBuilder)).problems,
        p ≠ .attributeOnProvided ∧ ∀ fault, p ≠ .argument fault := by
  induction items with
  | nil => exact ⟨rfl, List.forall_mem_nil _⟩
  | cons item rest ih =>
    obtain ⟨hinvocations, hproblems⟩ := ofItem_withoutBuilder item
    rw [List.map_cons, ofItems, append_def]
    refine ⟨List.append_eq_nil_iff.mpr ⟨hinvocations, ih.1⟩, fun p hp => ?_⟩
    exact (List.mem_append.mp hp).elim (hproblems p) (ih.2 p)

end Inventory

/-! ## The trait -/

/-- The trait with all attributes of its methods but those that have the path `builder`. -/
def TraitDecl.withoutBuilder (t : TraitDecl) : TraitDecl :=
  { t with items := t.items.map TraitItem.withoutBuilder }

theorem TraitDecl.strip_eq (t : TraitDecl) : t.strip = t.withoutBuilder := by
  have hitems := Inventory.items_foldl_add {} t.items
  rw [Inventory.foldl_add, Inventory.nil_append] at hitems
  rw [strip, inventory, hitems]
  rfl

/-- The trait stands at the head of its expansion, without the attributes addressed to the builder
and with nothing else changed, and it has no more of them when it is loaded again. -/
structure TraitDecl.Reemitted (t : TraitDecl) (arguments : Tokens) : Prop where
  walked : (t.items.foldl Inventory.add {}).items = t.withoutBuilder.items
  /-- Only a label that cannot be tracked, in a trait that is otherwise in order, stops the
  expansion. -/
  head : (∃ rest, expand arguments t = .ok (t.withoutBuilder.tokens ++ rest)) ∨
    t.problems = [] ∧ ∃ invalid, expand arguments t = .error (.untrackable invalid)
  clean : ∀ attributes s body, .method attributes s body ∈ t.withoutBuilder.items →
    ∀ a ∈ attributes, a.path ≠ builderPath
  again : (t.withoutBuilder.items.foldl Inventory.add {}).items = t.withoutBuilder.items
  silent : (t.withoutBuilder.items.foldl Inventory.add {}).invocations = [] ∧
    ∀ p ∈ (t.withoutBuilder.items.foldl Inventory.add {}).problems,
      p ≠ .attributeOnProvided ∧ ∀ fault, p ≠ .argument fault

/-- A trait that is not generic is written back without the attributes addressed to the builder,
whatever is wrong with it. -/
theorem reemitted_without_builder {t : TraitDecl} {arguments : Tokens} {o : Options}
    (hoptions : Options.ofTokens? arguments = .ok o) (hplain : t.generics.isPlain = true) :
    t.Reemitted arguments where
  walked := by
    rw [Inventory.items_foldl_add]
    rfl
  head := by
    cases hcontinuation : t.continuation o with
    | ok rest =>
      refine Or.inl ⟨rest, ?_⟩
      rw [expand_of_options hoptions hplain, hcontinuation, t.strip_eq]
    | error invalid =>
      refine Or.inr ⟨(TraitDecl.continuation_eq_error_iff.mp hcontinuation).1, invalid, ?_⟩
      rw [expand_of_options hoptions hplain, hcontinuation]
  clean := by
    intro attributes s body hmem a ha
    obtain ⟨item, -, hitem⟩ := List.mem_map.mp hmem
    cases item with
    | method given s' body' =>
      obtain ⟨rfl, -, -⟩ := TraitItem.method.inj hitem
      simpa using (List.mem_filter.mp ha).2
    | constant | associatedType | macroCall | verbatim => cases hitem
  again := by
    rw [Inventory.items_foldl_add, TraitDecl.withoutBuilder, List.map_map]
    exact List.map_congr_left fun item _ => item.withoutBuilder_withoutBuilder
  silent := by
    rw [Inventory.foldl_add, Inventory.nil_append]
    exact Inventory.ofItems_withoutBuilder t.items

/-! ## A trait with attributes that look alike -/

/-- An asynchronous getter and a method with a body, both with attributes of the path `builder` and
with others that look like it, and an associated type. -/
def lookalikeTrait : TraitDecl :=
  { TraitDecl.ofGetters (Code.plain "T") [] with
    items := [
      .method [.builder [.literal "1"], ⟨false, .ofIdent ⟨"builder", true⟩, .word⟩]
        { Signature.getter (Code.plain "a") .number with isAsync := true } none,
      .method [⟨false, ⟨false, [Code.plain "builder", Code.plain "x"]⟩, .word⟩, .builder []]
        (.getter (Code.plain "b") .number) (some [.literal "1"]),
      .associatedType [.builder []] (Code.plain "A") []] }

theorem lookalikeTrait_reemitted : Options.ofTokens? [] = .ok {} ∧
    lookalikeTrait.generics.isPlain = true ∧
    lookalikeTrait.problems = [.argument .literalEntry, .getter .modified, .attributeOnProvided,
      .associatedType] ∧
    lookalikeTrait.withoutBuilder.items = [
      .method [⟨false, .ofIdent ⟨"builder", true⟩, .word⟩]
        { Signature.getter (Code.plain "a") .number with isAsync := true } none,
      .method [⟨false, ⟨false, [Code.plain "builder", Code.plain "x"]⟩, .word⟩]
        (.getter (Code.plain "b") .number) (some [.literal "1"]),
      .associatedType [.builder []] (Code.plain "A") []] ∧
    (expand [] lookalikeTrait).map (fun code => (Tokens.chunks code).map Tokens.text) = .ok [
      "trait T \x7b # [r#builder] async fn a (& self) -> u32 ; " ++
        "# [builder :: x] fn b (& self) -> u32 \x7b 1 \x7d # [builder ()] type A ; \x7d",
      ":: core :: compile_error ! \x7b \"Unexpected meta-item format `literal`\" \x7d",
      ":: core :: compile_error ! \x7b \"property getters must be plain, safe functions\" \x7d",
      ":: core :: compile_error ! " ++
        "\x7b \"`#[builder]` only applies to methods without a body\" \x7d",
      ":: core :: compile_error ! " ++
        "\x7b \"`free_builder` does not support associated types\" \x7d"] ∧
    lookalikeTrait.Reemitted [] :=
  ⟨rfl, rfl, by decide, by decide, by decide +kernel, reemitted_without_builder rfl rfl⟩

end TraitBuilder
