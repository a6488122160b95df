import TraitBuilder.Argument.Entry
import TraitBuilder.Proofs.Loading.Returned
import TraitBuilder.Proofs.Token.Lexemes

/-!
# Expressions that are literals

An expression is a literal only if a literal is among the tokens it is read from, not counting those
inside of groups.  The reader of operands alone reads literals; whatever is put around an operand
is of another form.

* `Reader.Keeps`, `Reader.ReturnsWithin`: what is left and what is read where all tokens are within
  a bound.
* `Expr.literalWithin_of_ofTokens?`: a literal read from tokens within a bound is within the bound.
* `readText_ne_of_text?`: a string literal is not what its text is read as.
-/

namespace TraitBuilder

namespace Syntax

/-- If the form is that of a literal token, the token is no longer than `n`. -/
def Form.LiteralWithin (n : Nat) : Form → Prop
  | .literal (.token _ text) => text.length ≤ n
  | _ => True

/-- All the tokens are visible, and the literals among them no longer than `n`. -/
def AllWithin (n : Nat) (ts : Tokens) : Prop := ∀ t ∈ ts, t.Within n

theorem AllWithin.exposed {n : Nat} {ts : Tokens} (h : AllWithin n ts) :
    Tokens.exposed ts = ts := by
  cases ts with
  | nil => simp [Tokens.exposed]
  | cons t rest =>
    refine Tokens.exposed_of_visible ?_ rest
    have ht := h t List.mem_cons_self
    cases t with
    | group d content => cases d <;> simp_all [Token.Within, Token.isInvisible]
    | _ => rfl

theorem AllWithin.of_cons {n : Nat} {t : Token} {rest : Tokens} (h : AllWithin n (t :: rest)) :
    AllWithin n rest := fun u hu => h u (List.mem_cons_of_mem t hu)

theorem AllWithin.next {n : Nat} {ts : Tokens} (h : AllWithin n ts) : AllWithin n (next ts) := by
  unfold Syntax.next
  rw [h.exposed]
  split
  · exact h.of_cons.of_cons
  · exact h.of_cons
  · exact h

theorem AllWithin.foldl_next {n : Nat} {ts : Tokens} (h : AllWithin n ts) (cs : List Char) :
    AllWithin n (cs.foldl (fun ts _ => Syntax.next ts) ts) := by
  induction cs generalizing ts with
  | nil => exact h
  | cons c cs ih => exact ih h.next

theorem AllWithin.not_beginsInvisible {n : Nat} {ts : Tokens} (h : AllWithin n ts) :
    beginsInvisible ts = false := by
  cases ts with
  | nil => rfl
  | cons t rest =>
    have ht := h t List.mem_cons_self
    cases t with
    | group d content => cases d <;> simp_all [Token.Within, Token.isInvisible, beginsInvisible]
    | _ => rfl

/-! ## What readers leave -/

/-- Reading from tokens within `n`, the reader leaves tokens within `n`. -/
def Reader.Keeps {α : Type} (n : Nat) (r : Reader α) : Prop :=
  ∀ s value s', AllWithin n s.rest → r s = .ok (value, s') → AllWithin n s'.rest

namespace Reader.Keeps

variable {α β : Type} {n : Nat}

theorem pure (value : α) : Reader.Keeps n (Pure.pure value) := by
  intro s v s' hs hrun
  cases hrun
  exact hs

theorem throw (e : SyntaxError) : Reader.Keeps n (throw e : Reader α) := by
  intro s value s' hs hrun
  cases hrun

theorem bind {r : Reader β} {f : β → Reader α} (hr : Reader.Keeps n r)
    (hf : ∀ b, Reader.Keeps n (f b)) : Reader.Keeps n (r >>= f) := by
  intro s value s' hs hrun
  simp only [Bind.bind, StateT.bind] at hrun
  cases hfirst : r s with
  | error e => simp [hfirst, Except.bind] at hrun
  | ok first =>
    obtain ⟨b, s₁⟩ := first
    rw [hfirst] at hrun
    exact hf b s₁ value s' (hr s b s₁ hs hfirst) hrun

/-- A reader that may use that the tokens before it are within `n`. -/
theorem look {f : Tokens → Reader α} (hf : ∀ ts, AllWithin n ts → Reader.Keeps n (f ts)) :
    Reader.Keeps n (look >>= f) := fun s value s' hs hrun => hf s.rest hs s value s' hs hrun

theorem write (ts : Tokens) : Reader.Keeps n (write ts) := by
  intro s value s' hs hrun
  cases hrun
  exact hs

theorem goOn {rest : Tokens} (h : AllWithin n rest) : Reader.Keeps n (goOn rest) := by
  intro s value s' hs hrun
  cases hrun
  exact h

theorem get : Reader.Keeps n (MonadState.get : Reader State) := by
  intro s value s' hs hrun
  cases hrun
  exact hs

theorem modify {f : State → State} (hf : ∀ s, (f s).rest = s.rest) :
    Reader.Keeps n (modify f : Reader Unit) := by
  intro s value s' hs hrun
  cases hrun
  exact (hf s).symm ▸ hs

theorem captured {r : Reader α} (h : Reader.Keeps n r) : Reader.Keeps n (captured r) := by
  refine bind get fun outer => bind (modify fun _ => rfl) fun _ => bind h fun value => ?_
  exact bind get fun inner => bind (modify fun _ => rfl) fun _ => pure _

/-- Whatever is read of the content, what follows the group is left. -/
theorem withContent {rest : Tokens} (h : AllWithin n rest) (d : Delimiter) (content : Tokens)
    (r : Reader α) : Reader.Keeps n (withContent d content rest r) := by
  intro s value s' _ hrun
  have hdone : ((r { s with rest := content, written := [] }).bind fun found =>
      .ok ((found.1, found.2.written.reverse), ({ s with
        rest := rest
        leftOver := found.2.leftOver <|>
          if isDone found.2.rest then none else some (.leftIn d) } : State))) = .ok (value, s') :=
    hrun
  cases hcontent : r { s with rest := content, written := [] } with
  | error e => simp [hcontent, Except.bind] at hdone
  | ok found =>
    rw [hcontent] at hdone
    cases hdone
    exact h

theorem inside (d : Delimiter) (r : Reader α) : Reader.Keeps n (inside d r) := by
  refine look fun ts hts => ?_
  split
  · rename_i content rest hgroup
    refine bind (withContent ?_ d content r) fun _ => bind (write _) fun _ => pure _
    unfold leadingGroup? at hgroup
    rw [hts.exposed] at hgroup
    split at hgroup
    · split at hgroup
      · cases hgroup
        exact hts.of_cons
      · cases hgroup
    · cases hgroup
  · exact bind (look fun _ _ => pure _) fun _ => throw _

theorem op (symbol : String) : Reader.Keeps n (op symbol) := by
  refine look fun ts hts => ?_
  split
  · refine bind (goOn ?_) fun _ => write _
    exact hts.foldl_next symbol.toList
  · exact throw _

theorem iterate {step : α → Reader (Option α)} (hstep : ∀ value, Reader.Keeps n (step value))
    (value : α) : Reader.Keeps n (iterate step value) := by
  refine look fun ts _ => ?_
  generalize Tokens.size ts + 2 = bound
  induction bound generalizing value with
  | zero => exact throw _
  | succ bound ih =>
    refine bind (hstep value) fun found => ?_
    cases found with
    | none => exact pure _
    | some next => exact ih next

theorem collect {step : Reader (Option α)} (hstep : Reader.Keeps n step) :
    Reader.Keeps n (collect step) :=
  bind (iterate (fun _ => bind hstep fun _ => pure _) []) fun _ => pure _

end Reader.Keeps

theorem keeps_exprAttributes (n : Nat) (g : Grammar) : Reader.Keeps n (exprAttributes g) := by
  refine .bind (.collect (.look fun ts hts => ?_)) fun _ => .pure _
  split
  · refine .bind (.bind (.captured (.bind (.op "#") fun _ => .inside _ _)) fun _ => .pure _) ?_
    exact fun _ => .pure _
  · exact .pure _

/-! ## What readers return -/

theorem Reader.Returns.ite {α : Type} {P : α → Prop} {c : Prop} [Decidable c] {r r' : Reader α}
    (h : Reader.Returns r P) (h' : Reader.Returns r' P) :
    Reader.Returns (if c then r else r') P := by
  split
  · exact h
  · exact h'

/-- Reading from tokens within `n`, the reader reads something with the property. -/
def Reader.ReturnsWithin {α : Type} (n : Nat) (r : Reader α) (P : α → Prop) : Prop :=
  ∀ s value s', AllWithin n s.rest → r s = .ok (value, s') → P value

namespace Reader.ReturnsWithin

variable {α β : Type} {n : Nat} {P : α → Prop}

theorem of_returns {r : Reader α} (h : Reader.Returns r P) : Reader.ReturnsWithin n r P :=
  fun s value s' _ hrun => h s value s' hrun

theorem ite {c : Prop} [Decidable c] {r r' : Reader α} (h : Reader.ReturnsWithin n r P)
    (h' : Reader.ReturnsWithin n r' P) : Reader.ReturnsWithin n (if c then r else r') P := by
  split
  · exact h
  · exact h'

theorem look {f : Tokens → Reader α}
    (hf : ∀ ts, AllWithin n ts → Reader.ReturnsWithin n (f ts) P) :
    Reader.ReturnsWithin n (look >>= f) P :=
  fun s value s' hs hrun => hf s.rest hs s value s' hs hrun

/-- What follows a reader that keeps tokens within the bound. -/
theorem after {r : Reader β} {f : β → Reader α} (hr : Reader.Keeps n r)
    (hf : ∀ b, Reader.ReturnsWithin n (f b) P) : Reader.ReturnsWithin n (r >>= f) P := by
  intro s value s' hs hrun
  simp only [Bind.bind, StateT.bind] at hrun
  cases hfirst : r s with
  | error e => simp [hfirst, Except.bind] at hrun
  | ok first =>
    obtain ⟨b, s₁⟩ := first
    rw [hfirst] at hrun
    exact hf b s₁ value s' (hr s b s₁ hs hfirst) hrun

/-- What is made of what is read first. -/
theorem bind {Q : β → Prop} {r : Reader β} {f : β → Reader α} (hr : Reader.ReturnsWithin n r Q)
    (hf : ∀ b, Q b → Reader.Returns (f b) P) : Reader.ReturnsWithin n (r >>= f) P := by
  intro s value s' hs hrun
  simp only [Bind.bind, StateT.bind] at hrun
  cases hfirst : r s with
  | error e => simp [hfirst, Except.bind] at hrun
  | ok first =>
    obtain ⟨b, s₁⟩ := first
    rw [hfirst] at hrun
    exact hf b (hr s b s₁ hs hfirst) s₁ value s' hrun

theorem captured {r : Reader α} (h : Reader.ReturnsWithin n r P) :
    Reader.ReturnsWithin n (captured r) fun found => P found.1 := by
  refine after .get fun outer => after (.modify fun _ => rfl) fun _ => bind h fun value hvalue => ?_
  exact .after fun inner => .after fun _ => .pure hvalue

end Reader.ReturnsWithin

theorem literal_returnsWithin (n : Nat) :
    Reader.ReturnsWithin n literal fun value => (Form.literal value).LiteralWithin n := by
  refine .look fun ts hts => ?_
  rw [hts.exposed]
  split
  · rename_i text rest
    exact .of_returns (.after fun _ => .after fun _ => .pure (hts _ List.mem_cons_self))
  · split
    · exact .of_returns (.after fun _ => .pure trivial)
    · exact .of_returns (.expectedOneOf _)
  · rename_i c joint rest
    rw [hts.of_cons.exposed]
    split
    · split
      · refine .of_returns (.after fun _ => .after fun _ => .pure ?_)
        exact hts.of_cons _ List.mem_cons_self
      · exact .of_returns (.expectedOneOf _)
    · exact .of_returns (.expectedOneOf _)
  · exact .of_returns (.expectedOneOf _)

/-! ## Operands -/

theorem returns_closed {n : Nat} {r : Reader Form} (h : Reader.Returns r (·.LiteralWithin n)) :
    Reader.Returns (closed r) (·.form.LiteralWithin n) :=
  .bind h.captured fun _ hform => .pure hform

section Operands

variable (n : Nat) (g : Grammar) (allowStruct : Bool)

theorem returns_afterPath (p : PathTree) :
    Reader.Returns (afterPath g allowStruct p) (·.form.LiteralWithin n) := by
  refine .after fun ts => .ite (returns_closed ?_) (.ite (returns_closed ?_) (.pure trivial))
  · exact .after fun _ => .after fun _ => .after fun _ => .pure trivial
  · exact .after fun _ => .after fun _ => .pure trivial

theorem returns_closure : Reader.Returns (closure g allowStruct) (·.form.LiteralWithin n) :=
  .after fun _ => .ite (.after fun _ => .pure trivial) (.after fun _ => .pure trivial)

theorem returns_wordAndBlock (w : String) (inner : Bool) {form : Form}
    (hform : form.LiteralWithin n) :
    Reader.Returns (wordAndBlock g w inner form) (·.LiteralWithin n) :=
  .after fun _ => .after fun _ => .pure hform

theorem returns_whileExpr : Reader.Returns (whileExpr g) (·.LiteralWithin n) :=
  .after fun _ => .after fun _ => .after fun _ => .pure trivial

theorem returns_forExpr : Reader.Returns (forExpr g) (·.LiteralWithin n) :=
  .after fun _ => .after fun _ => .after fun _ => .after fun _ => .after fun _ => .pure trivial

theorem returns_labeled : Reader.Returns (labeled g) (·.LiteralWithin n) := by
  refine .after fun _ => .after fun _ => .after fun ts => ?_
  refine .ite (returns_whileExpr n g) (.ite (returns_forExpr n g) ?_)
  refine .ite (returns_wordAndBlock n g _ _ trivial) ?_
  exact .ite (.after fun _ => .pure trivial) (.expectedOneOf _)

theorem forall_mem_ite {α : Type} {P : α → Prop} {c : Prop} [Decidable c] {a : α} {rest : Option α}
    (ha : P a) (hrest : ∀ b ∈ rest, P b) : ∀ b ∈ (if c then some a else rest), P b := by
  split
  · rintro _ ⟨⟩
    exact ha
  · exact hrest

theorem returns_blockLike? (ts : Tokens) :
    ∀ r ∈ blockLike? g ts, Reader.Returns r (·.LiteralWithin n) := by
  refine forall_mem_ite (.after fun _ => .pure trivial) ?_
  refine forall_mem_ite (returns_whileExpr n g) (forall_mem_ite (returns_forExpr n g) ?_)
  refine forall_mem_ite (returns_wordAndBlock n g _ _ trivial) ?_
  refine forall_mem_ite (.after fun _ => .after fun _ => .after fun _ => .pure trivial) ?_
  refine forall_mem_ite (returns_wordAndBlock n g _ _ trivial) ?_
  refine forall_mem_ite (returns_wordAndBlock n g _ _ trivial) ?_
  refine forall_mem_ite (returns_wordAndBlock n g _ _ trivial) ?_
  refine forall_mem_ite (.inside (.after fun _ => .after fun _ => .after fun _ => ?_) _) ?_
  · exact .pure trivial
  exact forall_mem_ite (returns_labeled n g) (by simp)

theorem returns_parenContent : Reader.Returns (parenContent g) (·.LiteralWithin n) := by
  refine .after fun _ => .ite (.pure trivial) (.after fun _ => .after fun _ => ?_)
  exact .ite (.pure trivial) (.after fun _ => .after fun _ => .pure trivial)

theorem returns_bracketContent : Reader.Returns (bracketContent g) (·.LiteralWithin n) := by
  refine .after fun _ => .ite (.pure trivial) (.after fun _ => .after fun _ => ?_)
  refine .ite (.pure trivial) (.after fun _ => .ite (.after fun _ => .pure trivial) ?_)
  exact .after fun _ => .ite (.after fun _ => .pure trivial) (.expectedOneOf _)

theorem returns_breakExpr : Reader.Returns (breakExpr g allowStruct) (·.form.LiteralWithin n) :=
  .after fun _ => .after fun _ => .ite (.after fun _ => .pure trivial) (.pure trivial)

theorem returns_wordWithValue (w : String) {form : Form} (hform : form.LiteralWithin n) :
    Reader.Returns (wordWithValue g w form) (·.form.LiteralWithin n) :=
  .after fun _ => .after fun _ => .ite (.after fun _ => .pure hform) (.pure hform)

theorem returns_letExpr : Reader.Returns (letExpr g allowStruct) (·.form.LiteralWithin n) :=
  .after fun _ => .after fun _ => .after fun _ => .pure trivial

theorem returns_openRange : Reader.Returns (openRange g allowStruct) (·.form.LiteralWithin n) := by
  refine .after fun found => ?_
  split
  · exact .pure trivial
  · exact .pure trivial

theorem atom_returnsWithin :
    Reader.ReturnsWithin n (atom g allowStruct) (·.form.LiteralWithin n) := by
  refine .look fun ts hts => ?_
  rw [hts.not_beginsInvisible, if_neg (by decide)]
  refine .ite ?_ (.of_returns ?_)
  · exact .bind (.captured (.bind (literal_returnsWithin n) fun _ hvalue => .pure hvalue))
      fun _ hform => .pure hform
  -- no other operand is a literal
  refine .ite (returns_closed (.after fun _ => .after fun _ => .after fun _ => .pure trivial)) ?_
  refine .ite (returns_closure n g allowStruct) ?_
  refine .ite (.after fun _ => .pure trivial) ?_
  split
  · rename_i hblock
    exact returns_closed (returns_blockLike? n g ts _ hblock)
  refine .ite (.after fun p => returns_afterPath n g allowStruct p) ?_
  refine .ite (returns_closed (.inside (returns_parenContent n g) _)) ?_
  refine .ite (returns_breakExpr n g allowStruct) ?_
  refine .ite (returns_closed (.after fun _ => .after fun _ => .pure trivial)) ?_
  refine .ite (returns_wordWithValue n g "return" trivial) ?_
  refine .ite (.after fun _ => .pure trivial) ?_
  refine .ite (returns_closed (.inside (returns_bracketContent n g) _)) ?_
  refine .ite (returns_letExpr n g allowStruct) ?_
  refine .ite (returns_wordWithValue n g "yield" trivial) ?_
  refine .ite (returns_openRange n g allowStruct) ?_
  exact .ite (returns_closed (.after fun _ => .pure trivial)) (.expectedOneOf _)

/-! ## Whole expressions -/

theorem returns_afterDot (dot : Tokens) (e : ExprTree) :
    Reader.Returns (afterDot g dot e) (·.form.LiteralWithin n) := by
  refine .after fun awaited => .ite (.after fun _ => .pure trivial) ?_
  refine .bind (.captured (P := (·.LiteralWithin n)) ?_) fun found hfound => .pure hfound
  refine .after fun named => ?_
  have hcall (generic : Bool) : Reader.Returns
      (do
        if generic || (named.isSome && (← sees (beginsGroup .parenthesis))) then
          inside .parenthesis (arguments g)
          return Form.methodCall
        return .field) (·.LiteralWithin n) :=
    .after fun _ => .ite (.after fun _ => .pure trivial) (.pure trivial)
  exact .ite (.after fun generic => .ite (.after fun _ => .after fun _ => hcall _) (hcall _))
    (.after fun generic => .ite (.after fun _ => .after fun _ => hcall _) (hcall _))

theorem literalWithin_foldl_field {e : ExprTree} (he : e.form.LiteralWithin n) (dot : Tokens)
    (numbers : List Nat) :
    (numbers.foldl (fun e n => .suffixed [] .field e (dot ++ [numberToken n])) e
      : ExprTree).form.LiteralWithin n := by
  induction numbers generalizing e with
  | nil => exact he
  | cons number rest ih => exact ih trivial

theorem returns_dotted {e : ExprTree} (he : e.form.LiteralWithin n) :
    Reader.Returns (dotted g e) (·.form.LiteralWithin n) := by
  refine .after fun dot => .after fun fraction => .ite (.after fun found => ?_) ?_
  · obtain ⟨numbers, more⟩ := found
    exact .ite (returns_afterDot n g _ _) (.pure (literalWithin_foldl_field n he dot numbers))
  · exact returns_afterDot n g dot e

theorem within_of_mem_some {e : ExprTree} (he : e.form.LiteralWithin n) :
    ∀ v ∈ some e, v.form.LiteralWithin n := by
  rintro _ ⟨⟩
  exact he

theorem returns_applied {e : ExprTree} (he : e.form.LiteralWithin n) :
    Reader.Returns (applied g e) (·.form.LiteralWithin n) := by
  refine .iterate (fun e he => .after fun ts => ?_) he
  refine .ite (.after fun tail => .pure (within_of_mem_some n trivial)) ?_
  refine .ite (.after fun tail => .pure (within_of_mem_some n trivial)) ?_
  refine .ite (.pure nofun) (.ite ?_ ?_)
  · exact .bind (returns_dotted n g he) fun e he => .pure (within_of_mem_some n he)
  · exact .ite (.after fun tail => .pure (within_of_mem_some n trivial)) (.pure nofun)

theorem returns_readOperators {operand : ExprTree} (h : operand.form.LiteralWithin n)
    (least : Nat) :
    Reader.Returns (readOperators g allowStruct operand least) (·.form.LiteralWithin n) := by
  refine .iterate (fun operand h => .after fun ts => .ite (.pure nofun) ?_) h
  split
  · rename_i symbol precedence _
    have hjoined : Reader.Returns
        (do
          let sign ← tokensOf (op symbol)
          let right ← lastOperand g allowStruct precedence
          return some (ExprTree.joined [] (.binary precedence) operand sign right))
        fun found => ∀ e ∈ found, e.form.LiteralWithin n :=
      .after fun sign => .after fun right => .pure (within_of_mem_some n trivial)
    exact .ite (.pure nofun) (.ite (.after fun _ => hjoined) hjoined)
  · refine .ite (.after fun sign => .after fun right => .pure (within_of_mem_some n trivial)) ?_
    refine .ite (.after fun tail => ?_) ?_
    · split
      · exact .pure (within_of_mem_some n trivial)
      · exact .pure (within_of_mem_some n trivial)
    · exact .ite (.after fun tail => .pure (within_of_mem_some n trivial)) (.pure nofun)

theorem returns_referenceSign : Reader.Returns referenceSign (·.LiteralWithin n) :=
  .after fun _ => .after fun _ =>
    .ite (.after fun _ => .after fun _ => .pure trivial) (.after fun _ => .pure trivial)

theorem readUnary_returnsWithin :
    Reader.ReturnsWithin n (readUnary g allowStruct) (·.form.LiteralWithin n) := by
  refine .look fun before _ => .after (keeps_exprAttributes n g) fun attributes => ?_
  refine .look fun ts _ => ?_
  have hoperand : Reader.ReturnsWithin n
      (do
        let e ← applied g (← atom g allowStruct)
        if e.form = .verbatim then return .closed [] .verbatim (← sourceSince before)
        if e.form = .range && !attributes.isEmpty then throw .attributedRange
        return e.mark attributes)
      (·.form.LiteralWithin n) := by
    refine .bind (atom_returnsWithin n g allowStruct) fun e he => ?_
    refine .bind (returns_applied n g he) fun e he => .ite (.after fun _ => .pure trivial) ?_
    have hmarked : Reader.Returns (pure (e.mark attributes)) (·.form.LiteralWithin n) :=
      .pure ((ExprTree.form_mark attributes e).symm ▸ he)
    exact .ite (.after fun _ => hmarked) hmarked
  refine .ite (.ite (.of_returns ?_) ?_) hoperand
  · refine .bind (returns_referenceSign n).captured fun found hfound => ?_
    exact .after fun operand => .pure hfound
  · split
    · exact .of_returns (.after fun sign => .after fun operand => .pure trivial)
    · exact hoperand

theorem readExpr_returnsWithin :
    Reader.ReturnsWithin n (readExpr g allowStruct) (·.form.LiteralWithin n) :=
  .bind (readUnary_returnsWithin n g allowStruct) fun _ hoperand =>
    returns_readOperators n g allowStruct hoperand _

end Operands

end Syntax

open Syntax

/-- A literal that tokens within a bound are read as is within the bound. -/
theorem Expr.literalWithin_of_ofTokens? {n : Nat} {ts : Tokens} {e : Expr}
    (hts : AllWithin n ts) (h : Expr.ofTokens? ts = .ok e) : e.form.LiteralWithin n := by
  unfold Expr.ofTokens? parse readAll at h
  split at h
  · rename_i tree s hrun
    split at h
    · cases h
    · split at h
      · cases h
        exact readExpr_returnsWithin n _ _ _ tree s hts hrun
      · cases h
  · cases h

/-- A string literal is not what its text is read as. -/
theorem readText_ne_of_text? {e : Expr} {text suffix : String}
    (h : e.text? = some (text, suffix)) : readText Expr.ofTokens? text suffix ≠ .ok e := by
  intro hread
  unfold Expr.text? at h
  split at h
  case h_2 => cases h
  rename_i negated literal hform
  have hlonger := Literal.length_lt_of_denoted? h
  have hwithin : e.form.LiteralWithin text.length := by
    unfold readText at hread
    split at hread
    · split at hread
      · rename_i hvalue
        cases hread
        obtain ⟨ts, htext, hts⟩ := Option.map_eq_some_iff.mp hvalue
        exact Expr.literalWithin_of_ofTokens? (Tokens.within_of_ofText? htext) hts
      · cases hread
    · cases hread
  rw [hform] at hwithin
  exact absurd hwithin (Nat.not_le.mpr hlonger)

end TraitBuilder
