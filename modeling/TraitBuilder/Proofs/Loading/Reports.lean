import TraitBuilder.Proofs.Naming.Accepted
import TraitBuilder.Proofs.Token.Quoting
import TraitBuilder.Token.Chunk
import TraitBuilder.Token.Text

/-!
# Reports

What is wrong with a trait is found in one walk over its items, with one collector that every item
adds to.  An item adds the same whatever was found before, so the problems are those of the items
taken alone, one after the other; those of members that do not go together come last.  Either all of
them are reported after the trait and nothing is generated, or there is none.

* `Inventory.foldl_add`: the walk finds what the items yield alone, after what was found before.
* `exists_reports`: there is one report for each message, in order.
* `reports_accumulated`: what is reported for a trait that is not generic, and what is put out.
-/

namespace TraitBuilder

/-! ## The walk with one collector -/

/-- The value of a result that can fail for several reasons, and the problems found so far with all
of them.  A failure counts as the default. -/
def settleAll {α ε : Type} [Inhabited α] (result : Except (List ε) α) (found : List ε) :
    α × List ε :=
  match result with
  | .ok value => (value, found)
  | .error problems => (default, found ++ problems)

namespace Inventory

/-- What was found before with one more getter: its attributes come first, and their default value
is dropped with a getter that is none. -/
def addGetter (found : Inventory) (attributes : List Attribute) (signature : Signature) :
    Inventory :=
  let kept := keptAttributes attributes
  let (argument, problems) := settleAll
    ((defaultOf? (builderAttributes attributes)).mapError (·.map Problem.argument)) found.problems
  let (property, problems) := settle
    (((Property.ofGetter? signature kept).map some).mapError Problem.getter) problems
  let found := { found with
    problems := problems, items := found.items ++ [.method kept signature none] }
  match property, argument with
  | none, _ => found
  | some p, none => { found with properties := found.properties ++ [p] }
  | some p, some e => { found with
      properties := found.properties ++ [p]
      invocations := found.invocations ++ [⟨p.setter, e⟩] }

/-- What was found before with one more item. -/
def add (found : Inventory) (item : TraitItem) : Inventory :=
  match item with
  | .method attributes signature none => found.addGetter attributes signature
  | .method attributes signature (some body) => { found with
      problems := match builderAttributes attributes with
        | [] => found.problems
        | _ => found.problems ++ [.attributeOnProvided]
      items := found.items ++ [.method (keptAttributes attributes) signature (some body)] }
  | .constant _ _ _ none => { found with
      problems := found.problems ++ [.constantWithoutValue], items := found.items ++ [item] }
  | .associatedType _ _ _ => { found with
      problems := found.problems ++ [.associatedType], items := found.items ++ [item] }
  | item => { found with items := found.items ++ [item] }

theorem addGetter_eq (found : Inventory) (attributes : List Attribute) (s : Signature) :
    found.addGetter attributes s = found ++ ofGetter attributes s := by
  cases hd : defaultOf? (builderAttributes attributes) with
  | error faults =>
    cases hp : Property.ofGetter? s (keptAttributes attributes) <;>
      simp [addGetter, ofGetter, hd, hp, settleAll, settle, append_def, invocationsFor,
        Except.mapError, Except.map, Option.default_eq_none]
  | ok default =>
    cases hp : Property.ofGetter? s (keptAttributes attributes) with
    | error fault =>
      simp [addGetter, ofGetter, hd, hp, settleAll, settle, append_def, Except.mapError, Except.map,
        Option.default_eq_none]
    | ok p =>
      cases default <;>
        simp [addGetter, ofGetter, hd, hp, settleAll, settle, append_def, invocationsFor,
          Except.mapError, Except.map]

/-- An item adds what it yields alone. -/
theorem add_eq (found : Inventory) (item : TraitItem) : found.add item = found ++ ofItem item := by
  unfold add
  split
  · exact found.addGetter_eq _ _
  · rename_i attributes _ _
    cases h : builderAttributes attributes <;> simp [ofItem, append_def, h]
  · simp [ofItem, append_def]
  · simp [ofItem, append_def]
  · rename_i hgetter hprovided hconstant htype
    unfold ofItem
    split <;> simp_all [append_def]

theorem foldl_add (found : Inventory) (items : List TraitItem) :
    items.foldl add found = found ++ ofItems items := by
  induction items generalizing found with
  | nil => simp [ofItems, append_def]
  | cons item rest ih => rw [List.foldl_cons, ih, add_eq, append_assoc, ofItems]

/-! ## Items alone -/

theorem append_nil (a : Inventory) : a ++ ({} : Inventory) = a := by
  simp [append_def]

theorem ofItems_singleton (item : TraitItem) : ofItems [item] = ofItem item := by
  rw [ofItems, ofItems, append_nil]

/-- Whatever is read off an inventory part by part is that of the items alone, in order. -/
theorem flatMap_ofItems {α : Type} (part : Inventory → List α) (hnil : part {} = [])
    (happend : ∀ a b : Inventory, part (a ++ b) = part a ++ part b) (items : List TraitItem) :
    part (ofItems items) = items.flatMap fun item => part (ofItems [item]) := by
  induction items with
  | nil => exact hnil
  | cons item rest ih =>
    rw [ofItems, happend, ih, List.flatMap_cons, ofItems_singleton]

theorem problems_ofItems (items : List TraitItem) :
    (ofItems items).problems = items.flatMap fun item => (ofItems [item]).problems :=
  flatMap_ofItems (·.problems) rfl (fun _ _ => rfl) items

theorem properties_ofItems (items : List TraitItem) :
    (ofItems items).properties = items.flatMap fun item => (ofItems [item]).properties :=
  flatMap_ofItems (·.properties) rfl (fun _ _ => rfl) items

end Inventory

/-- What is wrong with the attributes of a getter. -/
def attributeFaults (attributes : List Attribute) : List ArgumentFault :=
  match defaultOf? (builderAttributes attributes) with
  | .ok _ => []
  | .error faults => faults

/-- What is wrong with a getter itself. -/
def getterFault? (attributes : List Attribute) (s : Signature) : Option GetterFault :=
  match Property.ofGetter? s (keptAttributes attributes) with
  | .ok _ => none
  | .error fault => some fault

/-- A getter alone: the faults of its attributes, then its own, of which there is at most one. -/
theorem Inventory.problems_ofGetter (attributes : List Attribute) (s : Signature) :
    (ofItems [.method attributes s none]).problems =
      (attributeFaults attributes).map Problem.argument ++
        (getterFault? attributes s).toList.map Problem.getter := by
  rw [ofItems_singleton, ofItem, attributeFaults, getterFault?]
  cases hd : defaultOf? (builderAttributes attributes) <;>
    cases hp : Property.ofGetter? s (keptAttributes attributes) <;> simp [ofGetter, hd, hp]

/-! ## Reports of messages -/

/-- The tokens are `::core::compile_error!` with a string literal that denotes the message. -/
def ReportsMessage (message : String) (report : Tokens) : Prop :=
  ∃ literal, Literal.denoted? literal = some (message, "") ∧
    report = [.punct ':' true, .punct ':' false, .ident ⟨"core", false⟩, .punct ':' true,
      .punct ':' false, .ident ⟨"compile_error", false⟩, .punct '!' false,
      .group .brace [.literal literal]]

theorem reportsMessage_compileError (message : String) :
    ReportsMessage message (compileError message) :=
  ⟨Text.quote message, Literal.denoted?_quote message, compileError_eq message⟩

/-- There is one report for each message, in order. -/
theorem exists_reports (messages : List String) :
    ∃ reports, List.Forall₂ ReportsMessage messages reports ∧
      compileErrors messages = reports.flatten := by
  refine ⟨messages.map compileError, ?_, List.flatMap_def⟩
  rw [List.forall₂_map_right_iff, List.forall₂_same]
  exact fun message _ => reportsMessage_compileError message

/-! ## What is reported and put out -/

/-- What is reported for a trait with readable arguments, and what is put out. -/
structure TraitDecl.Reports (t : TraitDecl) (arguments : Tokens) (o : Options) : Prop where
  /-- The walk with one collector finds what the items yield. -/
  collected : t.items.foldl Inventory.add {} = t.inventory
  /-- The problems are those of the items alone, in order, and then the collisions. -/
  problems : t.problems =
    (t.items.flatMap fun item => (Inventory.ofItems [item]).problems) ++ collisions t.members
  /-- Collisions are looked for among the properties that were found, in order. -/
  members : t.members.map (·.property) =
    t.items.flatMap fun item => (Inventory.ofItems [item]).properties
  /-- A getter alone has the faults of its attributes, then at most one of its own. -/
  getter : ∀ attributes s, TraitItem.method attributes s none ∈ t.items →
    (Inventory.ofItems [.method attributes s none]).problems =
      (attributeFaults attributes).map Problem.argument ++
        (getterFault? attributes s).toList.map Problem.getter
  /-- The items may be split anywhere. -/
  split : ∀ before after, t.items = before ++ after →
    t.inventory.properties =
        (Inventory.ofItems before).properties ++ (Inventory.ofItems after).properties ∧
      t.inventory.invocations =
        (Inventory.ofItems before).invocations ++ (Inventory.ofItems after).invocations ∧
      t.inventory.problems =
        (Inventory.ofItems before).problems ++ (Inventory.ofItems after).problems
  /-- If there is a problem, then the trait is followed by one report for each, in order, and no
  more. -/
  reported : t.problems ≠ [] → ∃ reports,
    List.Forall₂ ReportsMessage (t.problems.map Problem.message) reports ∧
      expand arguments t = .ok (t.strip.tokens ++ reports.flatten)
  /-- Otherwise the trait is followed by what is generated, and no more; where a label cannot be
  tracked, generating stops the expansion. -/
  generated : t.problems = [] → expand arguments t =
    ((t.blueprint o).tokens?.map (t.strip.tokens ++ ·)).mapError .untrackable

/-- What is reported for a trait that is not generic, with arguments that can be read. -/
theorem reports_accumulated {t : TraitDecl} {arguments : Tokens} {o : Options}
    (hoptions : Options.ofTokens? arguments = .ok o) (hplain : t.generics.isPlain = true) :
    t.Reports arguments o where
  collected := by
    rw [Inventory.foldl_add, Inventory.nil_append, TraitDecl.inventory]
  problems := by
    rw [TraitDecl.problems, TraitDecl.inventory, Inventory.problems_ofItems]
  members := by
    rw [← Inventory.properties_ofItems, TraitDecl.members, List.map_map, TraitDecl.inventory]
    simp [Function.comp_def]
  getter attributes s _ := Inventory.problems_ofGetter attributes s
  split before after hitems := by
    rw [TraitDecl.inventory, hitems, Inventory.ofItems_append]
    exact ⟨rfl, rfl, rfl⟩
  reported hproblems := by
    obtain ⟨reports, hreports, htokens⟩ := exists_reports (t.problems.map Problem.message)
    refine ⟨reports, hreports, ?_⟩
    rw [expand_of_options hoptions hplain, TraitDecl.continuation_of_problems hproblems, htokens]
  generated hproblems := by
    rw [expand_of_options hoptions hplain, TraitDecl.continuation_of_faultless hproblems]
    cases (t.blueprint o).tokens? <;> rfl

/-! ## A trait with problems -/

/-- The attribute `#[builder(content)]`. -/
def Attribute.builder (content : Tokens) : Attribute :=
  ⟨false, .ofIdent (Code.plain "builder"), .list .parenthesis content⟩

/-- A getter whose attribute has two faults and that is none itself, a method with a body and an
attribute, a constant without a value, an associated type, and two getters of which one is named
like the setter of the other. -/
def faultyTrait : TraitDecl :=
  { TraitDecl.ofGetters (Code.plain "T") [] with
    items := [
      .method [.builder [.literal "1", .punct ',' false, .ident (Code.plain "x")]]
        { Signature.getter (Code.plain "a") .number with isAsync := true } none,
      .method [.builder []] (.getter (Code.plain "c") .number) (some [.literal "1"]),
      .constant [] (Code.plain "C") .number none,
      .method [] (.getter (Code.plain "b") .number) none,
      .associatedType [] (Code.plain "A") [],
      .method [] (.getter (Code.plain "set_b") .number) none] }

theorem faultyTrait_reports : Options.ofTokens? [] = .ok {} ∧
    faultyTrait.generics.isPlain = true ∧
    faultyTrait.problems = [.argument .literalEntry, .argument (.unknownName "x" none),
      .getter .modified, .attributeOnProvided, .constantWithoutValue, .associatedType,
      .collision (Code.plain "set_b") (Code.plain "b")] ∧
    (expand [] faultyTrait).map (fun code => (Tokens.chunks code).map Tokens.text) = .ok [
      "trait T \x7b async fn a (& self) -> u32 ; fn c (& self) -> u32 \x7b 1 \x7d " ++
        "const C : u32 ; fn b (& self) -> u32 ; type A ; fn set_b (& self) -> u32 ; \x7d",
      ":: core :: compile_error ! \x7b \"Unexpected meta-item format `literal`\" \x7d",
      ":: core :: compile_error ! \x7b \"Unknown field: `x`\" \x7d",
      ":: core :: compile_error ! \x7b \"property getters must be plain, safe functions\" \x7d",
      ":: core :: compile_error ! " ++
        "\x7b \"`#[builder]` only applies to methods without a body\" \x7d",
      ":: core :: compile_error ! " ++
        "\x7b \"associated constants of a `free_builder` trait need a default value\" \x7d",
      ":: core :: compile_error ! " ++
        "\x7b \"`free_builder` does not support associated types\" \x7d",
      ":: core :: compile_error ! \x7b \"builder method `set_b` is also generated for `b`\" \x7d"] ∧
    faultyTrait.Reports [] {} :=
  ⟨rfl, rfl, by decide, by decide +kernel, reports_accumulated rfl rfl⟩

end TraitBuilder
