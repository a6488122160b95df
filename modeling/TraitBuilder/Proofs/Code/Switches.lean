import TraitBuilder.Proofs.Code.Implementations
import TraitBuilder.Proofs.Naming.FieldNames

/-!
# Switches

What is generated depends on the members and on some switches.  Generated code is cut into parts
such that each part depends on one switch at most.  So switches do not interfere: a change of one of
them leaves all other parts as they are, whatever the others are set to.

* `Blueprint.tokens_eq_assemble`: generated code consists of the parts.
* `Blueprint.part_set_of_ne`: a switch changes its own parts only.
* `Blueprint.switchesIndependent`: what the parts of each switch are, and that switches that are
  changed together act one by one.
-/

namespace TraitBuilder

open Code

/-- What generated code depends on besides names and members. -/
inductive Switch where
  | serde
  | debug
  /-- Who implements a standard trait. -/
  | standard (s : StandardTrait)
  | factory
  deriving DecidableEq, Repr

namespace Switch

/-- What a switch can be set to. -/
abbrev Value : Switch → Type
  | .serde | .debug | .factory => Bool
  | .standard _ => Provision

/-- All switches. -/
def all : List Switch :=
  [.serde, .debug, .standard .equality, .standard .hashing, .standard .display, .factory]

theorem mem_all (x : Switch) : x ∈ all := by
  cases x with
  | standard s => cases s <;> decide
  | serde | debug | factory => decide

end Switch

/-- A part of generated code. -/
inductive Part where
  /-- The enumeration of the required properties and the error. -/
  | tracking
  | builderStructure
  /-- What precedes the functions of the builder. -/
  | builderHead
  | joiner
  | builderNew
  /-- The accessors of the members, and the methods that build and merge. -/
  | methods
  | clear
  | buildPartial
  | builderDefault
  | valueStructure
  /-- What precedes the functions of the value. -/
  | valueHead
  | valueNew
  /-- The functions of the value that give builders. -/
  | conveniences
  /-- The getters of the value. -/
  | getters
  /-- The partial but for the standard traits. -/
  | partialType
  | standard (s : StandardTrait) (t : Target)
  | debug (t : Target)
  | serialization
  deriving DecidableEq, Repr

/-- The switch that a part depends on. -/
def Part.switch? : Part → Option Switch
  | .joiner => some (.standard .display)
  | .builderNew | .clear | .builderDefault | .conveniences => some .factory
  | .standard s _ => some (.standard s)
  | .debug _ => some .debug
  | .serialization => some .serde
  | _ => none

namespace Blueprint

/-! ## Setting switches -/

/-- What the switch is set to. -/
def get (b : Blueprint) : (x : Switch) → x.Value
  | .serde => b.serde
  | .debug => b.debugSupertrait
  | .standard s => b.standards.get s
  | .factory => b.builderFactory

/-- The same with another value of the switch. -/
def set (b : Blueprint) : (x : Switch) → x.Value → Blueprint
  | .serde, v => { b with serde := v }
  | .debug, v => { b with debugSupertrait := v }
  | .standard s, v => { b with standards := b.standards.set s v }
  | .factory, v => { b with builderFactory := v }

/-- The same with other values of all switches. -/
def setAll (b : Blueprint) (v : (x : Switch) → x.Value) : Blueprint :=
  { b with
    builderFactory := v .factory
    standards := ⟨v (.standard .equality), v (.standard .hashing), v (.standard .display)⟩
    debugSupertrait := v .debug
    serde := v .serde }

/-- The same with another value of each switch in a list, one after the other. -/
def setEach (b : Blueprint) (order : List Switch) (v : (x : Switch) → x.Value) : Blueprint :=
  order.foldl (fun b x => b.set x (v x)) b

/-- The values of all switches after those in a list are set. -/
def chosen (b : Blueprint) (order : List Switch) (v : (x : Switch) → x.Value) (x : Switch) :
    x.Value :=
  if x ∈ order then v x else b.get x

section Setting

variable (b : Blueprint)

@[simp] theorem get_set_self (x : Switch) (w : x.Value) : (b.set x w).get x = w := by
  cases x with
  | standard s => exact Standards.get_set_self _ s w
  | serde | debug | factory => rfl

theorem get_set_of_ne {x y : Switch} (h : y ≠ x) (w : x.Value) :
    (b.set x w).get y = b.get y := by
  cases x with
  | standard s =>
    cases y with
    | standard s' => exact Standards.get_set_of_ne _ (fun hs => h (congrArg Switch.standard hs)) w
    | serde | debug | factory => rfl
  | serde =>
    cases y with
    | serde => exact absurd rfl h
    | debug | factory | standard => rfl
  | debug =>
    cases y with
    | debug => exact absurd rfl h
    | serde | factory | standard => rfl
  | factory =>
    cases y with
    | factory => exact absurd rfl h
    | serde | debug | standard => rfl

theorem setAll_set (x : Switch) (w : x.Value) (v : (x : Switch) → x.Value) :
    (b.set x w).setAll v = b.setAll v := by
  cases x <;> rfl

/-- Switches that are set one after the other, in whatever order, are all set. -/
theorem setEach_eq (order : List Switch) (v : (x : Switch) → x.Value) :
    b.setEach order v = b.setAll (b.chosen order v) := by
  induction order generalizing b with
  | nil => rfl
  | cons x rest ih =>
    have hstep : b.setEach (x :: rest) v = (b.set x (v x)).setEach rest v := rfl
    rw [hstep, ih, setAll_set]
    congr 1
    funext y
    by_cases hrest : y ∈ rest
    · simp [chosen, hrest]
    · by_cases hy : y = x
      · subst hy
        simp [chosen, hrest]
      · simp [chosen, hrest, hy, b.get_set_of_ne hy]

end Setting

/-! ## Parts -/

/-- What precedes the braces of an implementation of functions of the type itself. -/
def ownHead (target : Ident) : Tokens := Token.word "impl" :: (TypeExpr.name target).tokens

/-- The functions of the value that give builders. -/
def conveniences (b : Blueprint) : List Function :=
  if b.builderFactory then [b.valueBuilder, b.valueToBuilder] else []

/-- The tokens of a part. -/
def part (b : Blueprint) : Part → Tokens
  | .tracking => b.trackingItems.flatMap Item.tokens
  | .builderStructure => b.builderStructure.tokens
  | .builderHead => ownHead b.builder
  | .joiner => b.joinerItems.flatMap AssociatedItem.tokens
  | .builderNew => b.builderNew.tokens
  | .methods => (b.accessorFunctions ++
      [b.buildFunction, b.mergeFromFunction, b.mergeFromBuilderFunction]).flatMap Function.tokens
  | .clear => b.clearFunction.tokens
  | .buildPartial => b.buildPartialFunction.tokens
  | .builderDefault => b.builderDefault.flatMap Item.tokens
  | .valueStructure => b.valueStructure.tokens
  | .valueHead => ownHead b.value
  | .valueNew => b.valueNew.tokens
  | .conveniences => b.conveniences.flatMap Function.tokens
  | .getters => (traitImplementation b.typeName b.value b.valueGetters).tokens
  | .partialType => b.partialItems.flatMap Item.tokens
  | .standard s t => (b.standardOf s t).flatMap Item.tokens
  | .debug t => (b.debugItems t).flatMap Item.tokens
  | .serialization => b.serializationItems.flatMap Item.tokens

end Blueprint

section Assembly

variable (part : Part → Tokens)

/-- The code of the builder that consists of the given parts. -/
def assembleBuilder : Tokens :=
  part .builderStructure ++ (part .builderHead ++
    [.group .brace (part .joiner ++ part .builderNew ++ part .methods ++ part .clear ++
      part .buildPartial)]) ++ part .builderDefault

/-- The code of the value but for the standard traits. -/
def assembleValue : Tokens :=
  part .valueStructure ++ (part .valueHead ++
    [.group .brace (part .valueNew ++ part .conveniences)]) ++ part .getters

/-- The code of the standard traits of a type. -/
def assembleStandard (t : Target) : Tokens :=
  part (.standard .equality t) ++ part (.standard .hashing t) ++ part (.standard .display t) ++
    part (.debug t)

/-- The code that consists of the given parts. -/
def assemble : Tokens :=
  part .tracking ++ assembleBuilder part ++ assembleValue part ++ part .partialType ++
    assembleStandard part .value ++ assembleStandard part .partialType ++ part .serialization

end Assembly

namespace Blueprint

theorem tokens_builderItems (b : Blueprint) :
    b.builderItems.flatMap Item.tokens = assembleBuilder b.part := by
  have hfunctions : (b.builderFunctions.map AssociatedItem.function).flatMap
      AssociatedItem.tokens =
        b.part .builderNew ++ b.part .methods ++ b.part .clear ++ b.part .buildPartial := by
    rw [List.flatMap_map]
    simp [builderFunctions, part, AssociatedItem.tokens]
  have himplementation : b.builderImplementation.tokens = b.part .builderHead ++
      [.group .brace (b.part .joiner ++ b.part .builderNew ++ b.part .methods ++ b.part .clear ++
        b.part .buildPartial)] := by
    simp [Implementation.tokens, builderImplementation, hfunctions, part, ownHead,
      Decoration.tokensOfAll, builderType]
  rw [assembleBuilder, ← himplementation, builderItems, List.flatMap_append]
  simp [part, Item.tokens]

theorem tokens_valueItems (b : Blueprint) :
    b.valueItems.flatMap Item.tokens = assembleValue b.part := by
  have hfunctions : (b.valueFunctions.map AssociatedItem.function).flatMap
      AssociatedItem.tokens = b.part .valueNew ++ b.part .conveniences := by
    rw [List.flatMap_map, valueFunctions, List.flatMap_append]
    simp [part, conveniences, AssociatedItem.tokens]
  have himplementation : (Implementation.own b.value b.valueFunctions).tokens =
      b.part .valueHead ++ [.group .brace (b.part .valueNew ++ b.part .conveniences)] := by
    simp [Implementation.tokens, Implementation.own, hfunctions, part, ownHead,
      Decoration.tokensOfAll]
  rw [assembleValue, ← himplementation, valueItems, List.flatMap_cons, List.flatMap_cons,
    List.flatMap_singleton, List.append_assoc]
  rfl

theorem tokens_standardItems (b : Blueprint) (t : Target) :
    (b.standardItems t).flatMap Item.tokens = assembleStandard b.part t := by
  simp only [standardItems_eq, List.flatMap_append, assembleStandard, part]

/-- The generated code consists of the parts. -/
theorem tokens_eq_assemble (b : Blueprint) : b.tokens = assemble b.part := by
  have htracking : b.trackingItems.flatMap Item.tokens = b.part .tracking := rfl
  have hpartial : b.partialItems.flatMap Item.tokens = b.part .partialType := rfl
  have hserialization : b.serializationItems.flatMap Item.tokens = b.part .serialization := rfl
  simp only [tokens, items, List.flatMap_append, tokens_builderItems, tokens_valueItems,
    tokens_standardItems, htracking, hpartial, hserialization, assemble]

/-- No switch has a say in how members are displayed.  The members are written one after the other,
so this does not hold by definition. -/
theorem displayMembers_set (b : Blueprint) (x : Switch) (v : x.Value) (t : Target) (index : Nat)
    (members : List Member) :
    (b.set x v).displayMembers t index members = b.displayMembers t index members := by
  have hmember : ∀ index m, (b.set x v).displayMember t index m = b.displayMember t index m := by
    intro index m
    cases x <;> rfl
  induction members generalizing index with
  | nil => rfl
  | cons m rest ih => rw [displayMembers, displayMembers, hmember, ih]

theorem displayBody_set (b : Blueprint) (x : Switch) (v : x.Value) (t : Target) :
    (b.set x v).displayBody t = b.displayBody t := by
  have hmembers : (b.set x v).members = b.members := by cases x <;> rfl
  rw [displayBody, displayStatements, hmembers, displayMembers_set]
  cases x <;> rfl

theorem displayItems_set_of_ne (b : Blueprint) {x : Switch} (v : x.Value) (t : Target)
    (h : x ≠ .standard .display) : (b.set x v).displayItems t = b.displayItems t := by
  have hprovision : (b.set x v).standards.display = b.standards.display := by
    cases x with
    | standard s =>
      have hs : .display ≠ s := fun heq => h (congrArg Switch.standard heq.symm)
      exact Standards.get_set_of_ne _ hs v
    | serde | debug | factory => rfl
  have hprovided : (b.set x v).providedDisplay = b.providedDisplay := by cases x <;> rfl
  have hstructural : (b.set x v).structuralDisplay t = b.structuralDisplay t := by
    rw [structuralDisplay, displayBody_set]
    cases x <;> rfl
  unfold displayItems
  rw [hprovision, hprovided]
  split
  · rfl
  · rfl
  · rw [hstructural]

/-- A switch changes its own parts only. -/
theorem part_set_of_ne (b : Blueprint) {x : Switch} (v : x.Value) {p : Part}
    (h : p.switch? ≠ some x) : (b.set x v).part p = b.part p := by
  cases p with
  | standard s t =>
    have hs : x ≠ .standard s := fun heq => h (congrArg some heq.symm)
    cases s with
    | display => exact congrArg (List.flatMap Item.tokens) (b.displayItems_set_of_ne v t hs)
    | equality =>
      cases x with
      | standard s =>
        cases s with
        | equality => exact absurd rfl hs
        | hashing | display => rfl
      | serde | debug | factory => rfl
    | hashing =>
      cases x with
      | standard s =>
        cases s with
        | hashing => exact absurd rfl hs
        | equality | display => rfl
      | serde | debug | factory => rfl
  | joiner =>
    cases x with
    | standard s =>
      cases s with
      | display => exact absurd rfl h
      | equality | hashing => rfl
    | serde | debug | factory => rfl
  | builderNew | clear | builderDefault | conveniences =>
    cases x with
    | factory => exact absurd rfl h
    | serde | debug | standard => rfl
  | debug t =>
    cases x with
    | debug => exact absurd rfl h
    | serde | factory | standard => rfl
  | serialization =>
    cases x with
    | serde => exact absurd rfl h
    | debug | factory | standard => rfl
  | tracking | builderStructure | builderHead | methods | buildPartial | valueStructure | valueHead
    | valueNew | getters | partialType => cases x <;> rfl

theorem part_setEach_of_not_mem (b : Blueprint) {order : List Switch}
    (v : (x : Switch) → x.Value) {p : Part} (h : ∀ x ∈ order, p.switch? ≠ some x) :
    (b.setEach order v).part p = b.part p := by
  induction order generalizing b with
  | nil => rfl
  | cons x rest ih =>
    have hstep : b.setEach (x :: rest) v = (b.set x (v x)).setEach rest v := rfl
    rw [hstep, ih _ fun y hy => h y (List.mem_cons_of_mem x hy),
      b.part_set_of_ne _ (h x List.mem_cons_self)]

/-- What a part is after its own switch only is set. -/
def partAfter (b : Blueprint) (v : (x : Switch) → x.Value) (p : Part) : Tokens :=
  match p.switch? with
  | some x => (b.set x (v x)).part p
  | none => b.part p

/-- Each part is as if only its own switch were set. -/
theorem part_setAll (b : Blueprint) (v : (x : Switch) → x.Value) (p : Part) :
    (b.setAll v).part p = b.partAfter v p := by
  have hall : b.setEach Switch.all v = b.setAll v := by
    rw [setEach_eq]
    congr 1
    funext x
    exact if_pos x.mem_all
  unfold partAfter
  split
  · next x hx =>
    -- the other switches are set after the one that matters
    have hothers : (b.set x (v x)).setEach (Switch.all.filter (· ≠ x)) v = b.setAll v := by
      rw [setEach_eq, setAll_set]
      congr 1
      funext y
      by_cases hy : y = x
      · subst hy
        simp [chosen]
      · simp [chosen, hy, Switch.mem_all]
    rw [← hothers]
    refine part_setEach_of_not_mem _ v fun y hy heq => ?_
    have hxy : x = y := Option.some.inj (hx.symm.trans heq)
    simp [hxy] at hy
  · next hnone =>
    rw [← hall]
    exact part_setEach_of_not_mem _ v fun y _ heq => by simp [hnone] at heq

/-! ## What the parts are -/

theorem tokens_eq_bare (f : Function) : f.tokens =
    Decoration.tokensOfAll f.decorations ++ (if f.isPublic then [Token.word "pub"] else []) ++
      { f with decorations := [], isPublic := false }.tokens := by
  simp [Function.tokens, Function.parameterTokens, Decoration.tokensOfAll]

theorem tokens_serde (b : Blueprint) : (b.set .serde true).tokens =
    (b.set .serde false).tokens ++ (b.serializeItem.tokens ++ b.deserializeItem.tokens) := by
  have hother : ∀ p, p ≠ .serialization →
      (b.set .serde true).part p = (b.set .serde false).part p := by
    intro p hp
    have hswitch : p.switch? ≠ some .serde := by
      cases p with
      | serialization => exact absurd rfl hp
      | _ => exact nofun
    rw [b.part_set_of_ne _ hswitch, b.part_set_of_ne _ hswitch]
  have htrue : (b.set .serde true).part .serialization =
      b.serializeItem.tokens ++ b.deserializeItem.tokens :=
    congrArg (b.serializeItem.tokens ++ ·) (List.append_nil _)
  have hfalse : (b.set .serde false).part .serialization = [] := rfl
  simp [tokens_eq_assemble, assemble, assembleBuilder, assembleValue, assembleStandard,
    hother, htrue, hfalse]

theorem part_debug (b : Blueprint) (t : Target) :
    b.part (.debug t) = if b.debugSupertrait then [] else (b.debugImplementation t).tokens := by
  rw [part, debugItems]
  split
  · rfl
  · exact List.append_nil _

theorem tokens_of_implementations {items : List Item}
    (h : ∀ item ∈ items, ∃ i, item = .implementation i) :
    items.flatMap Item.tokens =
      (items.flatMap Item.implementations).flatMap Implementation.tokens := by
  induction items with
  | nil => rfl
  | cons item items ih =>
    obtain ⟨i, rfl⟩ := h item List.mem_cons_self
    rw [List.flatMap_cons, List.flatMap_cons, List.flatMap_append,
      ih fun item hitem => h item (List.mem_cons_of_mem _ hitem)]
    simp [Item.implementations, Item.tokens]

/-- The part of a standard trait consists of its implementations. -/
theorem part_standard (b : Blueprint) (s : StandardTrait) (t : Target) :
    b.part (.standard s t) =
      ((b.standardOf s t).flatMap Item.implementations).flatMap Implementation.tokens := by
  refine tokens_of_implementations fun item hitem => ?_
  have hmem : item ∈ b.standardItems t := by
    rw [standardItems_eq]
    cases s <;> simp [hitem]
  obtain ⟨_, _, _, rfl⟩ := derivedImpl_of_mem_standardItems hmem
  exact ⟨_, rfl⟩

/-! ## All together -/

/-- The code, unless a required property has a label that gives no identifier. -/
def checked (b : Blueprint) (code : Tokens) : Except Ident.Invalid Tokens :=
  match b.invalidVariant? with
  | some e => .error e
  | none => .ok code

theorem tokens?_eq_checked (b : Blueprint) : b.tokens? = b.checked b.tokens := rfl

/-- Switches do not interfere. -/
structure SwitchesIndependent (b : Blueprint) : Prop where
  tokens : ∀ x v, (b.set x v).tokens? = b.checked (assemble (b.set x v).part)
  others : ∀ x v p, p.switch? ≠ some x → (b.set x v).part p = b.part p
  serde : (b.set .serde true).tokens =
    (b.set .serde false).tokens ++ (b.serializeItem.tokens ++ b.deserializeItem.tokens)
  debug : ∀ t : Target, ∃ i : Implementation,
    i.trait? = some debugTrait ∧ i.target = .name (t.name b) ∧
    ∀ v : Bool, (b.set .debug v).part (.debug t) = if v then [] else i.tokens
  standard : ∀ (s : StandardTrait) (v : Provision) (t : Target), ∃ is : List Implementation,
    (b.set (.standard s) v).part (.standard s t) = is.flatMap Implementation.tokens ∧
      ∀ i ∈ is, i.target = .name (t.name b) ∧
        (i.trait? = some s.type ∨ s = .equality ∧ i.trait? = some b.mixedTrait)
  joiner : ∀ v : Provision, (b.set (.standard .display) v).part .joiner =
    if 2 ≤ b.members.length ∧ v ≠ .final then (AssociatedItem.text commaJoiner ", ").tokens else []
  /-- Attributes aside, only the visibility of the builder's constructor changes. -/
  builderNew : ∀ v : Bool, ∃ decorations, (b.set .factory v).part .builderNew =
    Decoration.tokensOfAll decorations ++ (if v then [Token.word "pub"] else []) ++
      { b.builderNew with decorations := [], isPublic := false }.tokens
  builderDefault : ∃ i : Implementation, i.trait? = some (.library ["core", "default", "Default"]) ∧
    i.target = .name b.builder ∧
    ∀ v : Bool, (b.set .factory v).part .builderDefault = if v then i.tokens else []
  clear : ∀ v : Bool, ∃ f : Function,
    f.name = plain "clear" ∧ (b.set .factory v).part .clear = f.tokens
  conveniences : ∃ f g : Function, f.name = plain "builder" ∧ g.name = plain "to_builder" ∧
    ∀ v : Bool, (b.set .factory v).part .conveniences = if v then f.tokens ++ g.tokens else []
  /-- Switches that are changed one after the other, in whatever order, are changed together, and
  each of them does to its parts what it does alone. -/
  together : ∀ order v, b.setEach order v = b.setAll (b.chosen order v) ∧
    (b.setEach order v).part = b.partAfter (b.chosen order v) ∧
    (b.setEach order v).tokens? = b.checked (assemble (b.partAfter (b.chosen order v)))

/-- Turning a switch changes the parts of the code that belong to it and no others, in whatever
order several are turned. -/
theorem switchesIndependent (b : Blueprint) : b.SwitchesIndependent := by
  constructor
  case tokens =>
    intro x v
    have hvariants : (b.set x v).invalidVariant? = b.invalidVariant? := by cases x <;> rfl
    rw [tokens?_eq_checked, checked, hvariants, tokens_eq_assemble, checked]
  case others => exact fun x v p => b.part_set_of_ne v
  case serde => exact b.tokens_serde
  case debug =>
    intro t
    refine ⟨b.debugImplementation t, rfl, rfl, fun v => ?_⟩
    exact (b.set .debug v).part_debug t
  case standard =>
    intro s v t
    refine ⟨_, (b.set (.standard s) v).part_standard s t, fun i hi => ?_⟩
    have hheader := header_of_mem_standardOf hi
    cases s <;> cases t <;> exact hheader
  case joiner =>
    intro v
    have hneeds : (b.set (.standard .display) v).needsJoiner = true ↔
        2 ≤ b.members.length ∧ v ≠ .final := by
      have hdef : (b.set (.standard .display) v).needsJoiner =
          (decide (2 ≤ b.members.length) && v != .final) := rfl
      simp [hdef]
    rw [part, joinerItems]
    simp only [hneeds]
    split
    · exact List.append_nil _
    · rfl
  case builderNew =>
    intro v
    exact ⟨_, tokens_eq_bare (b.set .factory v).builderNew⟩
  case builderDefault =>
    refine ⟨.derived (.library ["core", "default", "Default"]) b.builder [{
      name := plain "default"
      receiver := .none
      result := some .self
      body := .term (.call (.associated (plain "Self") (plain "new")) [] false) }], rfl, rfl,
      fun v => ?_⟩
    cases v with
    | false => rfl
    | true => exact List.append_nil _
  case clear =>
    intro v
    exact ⟨_, (header_clearFunction _).1, rfl⟩
  case conveniences =>
    refine ⟨b.valueBuilder, b.valueToBuilder, rfl, rfl, fun v => ?_⟩
    cases v with
    | false => rfl
    | true => exact congrArg (b.valueBuilder.tokens ++ ·) (List.append_nil _)
  case together =>
    intro order v
    have hall := b.setEach_eq order v
    have hpart : (b.setEach order v).part = b.partAfter (b.chosen order v) := by
      rw [hall]
      exact funext (b.part_setAll _)
    have hvariants : (b.setEach order v).invalidVariant? = b.invalidVariant? := by
      rw [hall]
      rfl
    refine ⟨hall, hpart, ?_⟩
    rw [tokens?_eq_checked, checked, hvariants, tokens_eq_assemble, hpart, checked]

end Blueprint

end TraitBuilder
