import TraitBuilder.Syntax.Language

/-!
# What readers return

A property that a reader's values have whenever it succeeds is carried from its parts.  By this,
methods without a body carry only attributes that are written before them.

* `Reader.Returns.collect`: what is collected has the property of what is read at each step.
* `TraitDecl.outer_of_ofTokens?`: the attributes of methods without a body.
-/

namespace TraitBuilder

namespace Syntax

/-- Whatever the reader reads has the property. -/
def Reader.Returns {α : Type} (r : Reader α) (P : α → Prop) : Prop :=
  ∀ s value s', r s = .ok (value, s') → P value

namespace Reader.Returns

variable {α β : Type} {P : α → Prop}

theorem pure {value : α} (h : P value) : Reader.Returns (Pure.pure value) P := by
  intro s v s' hrun
  cases hrun
  exact h

theorem bind {Q : β → Prop} {r : Reader β} {f : β → Reader α} (hr : Reader.Returns r Q)
    (hf : ∀ b, Q b → Reader.Returns (f b) P) : Reader.Returns (r >>= f) P := by
  intro s value s' hrun
  simp only [Bind.bind, StateT.bind] at hrun
  cases hfirst : r s with
  | error e => simp [hfirst, Except.bind] at hrun
  | ok first =>
    obtain ⟨b, s₁⟩ := first
    rw [hfirst] at hrun
    exact hf b (hr s b s₁ hfirst) s₁ value s' hrun

/-- What follows has the property, whatever is read first. -/
theorem after {r : Reader β} {f : β → Reader α} (hf : ∀ b, Reader.Returns (f b) P) :
    Reader.Returns (r >>= f) P :=
  bind (Q := fun _ => True) (fun _ _ _ _ => trivial) fun b _ => hf b

theorem throw (e : SyntaxError) : Reader.Returns (throw e : Reader α) P := by
  intro s value s' hrun
  cases hrun

theorem expectedOneOf (wanted : List String) :
    Reader.Returns (Syntax.expectedOneOf α wanted) P :=
  after fun _ => throw _

theorem captured {r : Reader α} (h : Reader.Returns r P) :
    Reader.Returns (captured r) fun found => P found.1 := by
  refine after fun outer => after fun _ => bind h fun value hvalue => ?_
  exact after fun inner => after fun _ => pure hvalue

theorem withContent {r : Reader α} (h : Reader.Returns r P) (d : Delimiter)
    (content rest : Tokens) :
    Reader.Returns (withContent d content rest r) fun found => P found.1 := by
  refine after fun outer => after fun _ => bind h fun value hvalue => ?_
  exact after fun inner => after fun _ => pure hvalue

theorem inside {r : Reader α} (h : Reader.Returns r P) (d : Delimiter) :
    Reader.Returns (inside d r) P := by
  refine after fun ts => ?_
  split
  · refine bind (h.withContent d _ _) fun found hfound => ?_
    exact after fun _ => pure hfound
  · exact expectedOneOf _

theorem withSource {r : Reader α} (h : Reader.Returns r P) :
    Reader.Returns (withSource r) fun found => P found.1 := by
  refine after fun before => bind h.captured fun found hfound => ?_
  exact after fun _ => pure hfound

theorem iterate {step : α → Reader (Option α)}
    (hstep : ∀ value, P value → Reader.Returns (step value) fun found => ∀ v ∈ found, P v)
    {value : α} (hvalue : P value) : Reader.Returns (iterate step value) P := by
  refine after fun ts => ?_
  generalize Tokens.size ts + 2 = n
  induction n generalizing value with
  | zero => exact throw _
  | succ n ih =>
    refine bind (hstep value hvalue) fun found hfound => ?_
    cases found with
    | none => exact pure hvalue
    | some next => exact ih (hfound next rfl)

theorem collect {step : Reader (Option α)}
    (hstep : Reader.Returns step fun found => ∀ v ∈ found, P v) :
    Reader.Returns (collect step) fun values => ∀ v ∈ values, P v := by
  have hiterate : Reader.Returns (Syntax.iterate (fun found => return (← step).map (· :: found)) [])
      fun values => ∀ v ∈ values, P v := by
    refine iterate (fun values hvalues => bind hstep fun found hfound => pure ?_) (by simp)
    cases found with
    | none => simp
    | some next =>
      rintro _ ⟨⟩
      exact List.forall_mem_cons.mpr ⟨hfound next rfl, hvalues⟩
  refine bind hiterate fun values hvalues => pure ?_
  simpa using hvalues

end Reader.Returns

/-! ## Attributes -/

theorem returns_outerAttribute (g : Grammar) :
    Reader.Returns (outerAttribute g) (·.inner = false) := by
  have hafterHash : Reader.Returns (attributeAfterHash g false) (·.inner = false) := by
    refine Reader.Returns.inside ?_ _
    exact .after fun path => .after fun body => .pure rfl
  refine Reader.Returns.bind (Reader.Returns.captured (.after fun _ => hafterHash))
    fun found hfound => ?_
  exact .pure hfound

theorem returns_outerAttributes (g : Grammar) :
    Reader.Returns (outerAttributes g) fun attributes => ∀ a ∈ attributes, a.inner = false := by
  refine Reader.Returns.collect (.after fun more => ?_)
  split
  · exact .bind (returns_outerAttribute g) fun a ha => .pure (by simpa using ha)
  · exact .pure (by simp)

/-! ## Items of traits -/

/-- If the item is a method without a body, its attributes are all written before it. -/
def OuterOnly (item : TraitItem) : Prop :=
  ∀ attributes s, item = .method attributes s none → ∀ a ∈ attributes, a.inner = false

variable (g : Grammar) {attributes : List Attribute} (h : ∀ a ∈ attributes, a.inner = false)

include h

theorem returns_method : Reader.Returns (method g attributes) OuterOnly := by
  have hbodiless (s : Signature) : OuterOnly (.method attributes s none) := by
    rintro _ _ ⟨⟩
    exact h
  refine .after fun s => .after fun ts => ?_
  split
  · exact .after fun _ => .pure (by simp [OuterOnly])
  · split
    · exact .after fun _ => .after fun _ => .pure (hbodiless s)
    · exact .after fun _ => .pure (hbodiless s)

theorem returns_someMethod :
    Reader.Returns (return some (← method g attributes))
      fun item : Option TraitItem => ∀ i ∈ item, OuterOnly i :=
  .bind (returns_method g h) fun item hitem => .pure (by simpa using hitem)

omit h in
theorem returns_constant :
    Reader.Returns (constant g attributes) fun item => ∀ i ∈ item, OuterOnly i := by
  refine .after fun x => .after fun generic => .after fun _ => .after fun _ => .after fun ty => ?_
  refine .after fun hasValue => ?_
  have hrest (value : Option Tokens) : Reader.Returns
      (do
        let conditions ← whereClause g
        op ";"
        return if generic || conditions.isSome then none
          else some (TraitItem.constant attributes x ty value))
      fun item => ∀ i ∈ item, OuterOnly i := by
    refine .after fun conditions => .after fun _ => .pure ?_
    split <;> simp [OuterOnly]
  split
  · exact .after fun value => .after fun value => hrest value
  · exact .after fun value => hrest value

theorem returns_constantOrMethod :
    Reader.Returns (constantOrMethod g attributes) fun item => ∀ i ∈ item, OuterOnly i := by
  refine .after fun ts => ?_
  dsimp only
  split
  · exact returns_someMethod g h
  · refine .after fun _ => ?_
    split
    · exact .after fun _ => returns_constant g
    · exact returns_constant g

theorem returns_plainTraitItem (modified : Bool) :
    Reader.Returns (plainTraitItem g attributes modified) fun item => ∀ i ∈ item, OuterOnly i := by
  refine .after fun ts => ?_
  split
  · exact returns_someMethod g h
  split
  · exact returns_constantOrMethod g h
  split
  · refine .after fun _ => .bind (Q := OuterOnly) ?_ fun item hitem => .pure (by simpa using hitem)
    exact .after fun x => .after fun rest => .after fun _ => .pure (by simp [OuterOnly])
  split
  · exact .after fun tokens => .pure (by simp [OuterOnly])
  · exact .expectedOneOf _

omit h in
theorem returns_traitItem : Reader.Returns (traitItem g) OuterOnly := by
  refine .bind (.withSource (P := fun item => ∀ i ∈ item, OuterOnly i) ?_) fun found hfound => ?_
  · refine .bind (returns_outerAttributes g) fun attributes hattributes => ?_
    refine .after fun visible => .after fun isDefault => ?_
    refine .bind (returns_plainTraitItem g hattributes _) fun item hitem => ?_
    split
    · exact .pure (by simp)
    · exact .pure hitem
  · refine .pure ?_
    cases hitem : found.1 with
    | none => simp [OuterOnly]
    | some item => exact hfound item hitem

omit h in
theorem returns_traitAfterAttributes (given : List Attribute) :
    Reader.Returns (traitAfterAttributes g given) fun t => ∀ item ∈ t.items, OuterOnly item := by
  have hitems : Reader.Returns
      (do
        let inner ← innerAttributes g
        let items ← collect do
          if ← atEnd then return none
          return some (← traitItem g)
        return (inner, items))
      fun found => ∀ item ∈ found.2, OuterOnly item := by
    refine .after fun inner => .bind (.collect ?_) fun items hitems => .pure hitems
    refine .after fun ended => ?_
    split
    · exact .pure (by simp)
    · exact .bind (returns_traitItem g) fun item hitem => .pure (by simpa using hitem)
  refine .after fun visible => ?_
  refine .bind (.captured (P := fun t => ∀ item ∈ t.items, OuterOnly item) ?_)
    fun found hfound => .pure hfound
  refine .after fun isUnsafe => .after fun isAuto => .after fun _ => .after fun x => ?_
  refine .after fun generics => .after fun hasSupertraits => ?_
  split
  · refine .after fun bounds => .after fun conditions => ?_
    exact .bind (.inside hitems _) fun found hfound => .pure hfound
  · refine .after fun bounds => .after fun conditions => ?_
    exact .bind (.inside hitems _) fun found hfound => .pure hfound

end Syntax

open Syntax

/-- A method without a body has only attributes that are written before it. -/
theorem TraitDecl.outer_of_ofTokens? {ts : Tokens} {t : TraitDecl}
    (ht : TraitDecl.ofTokens? ts = .ok t) : ∀ item ∈ t.items, OuterOnly item := by
  have hreader : Reader.Returns
      (do traitAfterAttributes (.forTokens ts) (← outerAttributes (.forTokens ts)))
      fun t => ∀ item ∈ t.items, OuterOnly item :=
    .after fun given => returns_traitAfterAttributes _ given
  unfold TraitDecl.ofTokens? parse readAll at ht
  split at ht
  · rename_i value s hrun
    split at ht
    · cases ht
    · split at ht
      · cases ht
        exact hreader _ _ _ hrun
      · cases ht
  · cases ht

end TraitBuilder
