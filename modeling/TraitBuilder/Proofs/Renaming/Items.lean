import TraitBuilder.Proofs.Renaming.Members

/-!
# Items under a renaming

Attributes, functions, structures and implementations are renamed part by part.  The attributes that
generated code has of its own are kept, and so is everything that is made of kept parts only.

* `rename_function`: a function of which parameter types, result type or body change.
* `rename_structure`, `rename_ownImpl`, `rename_derivedImpl`: items whose type changes its name.
-/

namespace TraitBuilder

open Code

/-! ## Attributes -/

namespace KeepsWords

variable {r : Renaming} (h : KeepsWords r)

include h

theorem doc (text : String) : Keeps r (Decoration.doc text).tokens := by
  simp [Decoration.tokens, Decoration.named, Decoration.wrap, h]

theorem line (text : String) : Keeps r (Decoration.line text).tokens := by
  simp [Decoration.tokens, Decoration.named, Decoration.wrap, h]

theorem mustUse (text : String) : Keeps r (Decoration.mustUse text).tokens := by
  simp [Decoration.tokens, Decoration.named, Decoration.wrap, h]

theorem automaticallyDerived : Keeps r Decoration.automaticallyDerived.tokens := by
  simp [Decoration.tokens, Decoration.wrap, h]

theorem fillMissing : Keeps r Decoration.fillMissing.tokens := by
  simp [Decoration.tokens, Decoration.listed, Decoration.wrap, h]

theorem allow {lint : String} (hl : r (Code.plain lint) = Code.plain lint) :
    Keeps r (Decoration.allow lint).tokens := by
  simp [Decoration.tokens, Decoration.listed, Decoration.wrap, h, hl]

theorem derive {paths : List (List String)} {trailingComma : Bool}
    (hp : ∀ path ∈ paths, ∀ word ∈ path, r (Code.plain word) = Code.plain word) :
    Keeps r (Decoration.derive paths trailingComma).tokens := by
  have hlist : Keeps r (Decoration.pathList trailingComma paths) := by
    induction paths using Decoration.pathList.induct with
    | case1 => simp [Decoration.pathList]
    | case2 path => cases trailingComma <;> simpa [Decoration.pathList] using hp
    | case3 path rest _ ih =>
      obtain ⟨hpath, hrest⟩ := List.forall_mem_cons.mp hp
      simpa [Decoration.pathList, ih hrest] using hpath
  simp [Decoration.tokens, Decoration.listed, Decoration.wrap, h, hlist]

end KeepsWords

/-! ## Functions and items -/

namespace Code.Statement

theorem tokensOfAll_flatMap {α : Type} (xs : List α) (f : α → List Statement) :
    tokensOfAll (xs.flatMap f) = xs.flatMap fun x => tokensOfAll (f x) := by
  induction xs with
  | nil => simp [tokensOfAll]
  | cons x xs ih => simp [tokensOfAll_append, ih]

theorem tokensOfAll_map {α : Type} (xs : List α) (f : α → Statement) :
    tokensOfAll (xs.map f) = xs.flatMap fun x => (f x).tokens := by
  induction xs with
  | nil => simp [tokensOfAll]
  | cons x xs ih => simp [tokensOfAll, ih]

end Code.Statement

section

variable {r : Renaming} (hr : KeepsWords r)

theorem keeps_markUnused {x : Ident} (hx : r x = x)
    (hunused : r (plain ("_" ++ x.name)) = plain ("_" ++ x.name)) (unused : Bool) :
    r (Blueprint.markUnused x unused) = Blueprint.markUnused x unused := by
  cases unused with
  | false => exact hx
  | true => exact hunused

theorem keeps_commaJoined {trailingComma : Bool} {parts : List Tokens}
    (h : ∀ ts ∈ parts, Keeps r ts) : Keeps r (commaJoined trailingComma parts) := by
  induction parts using commaJoined.induct with
  | case1 => simp [commaJoined]
  | case2 ts => cases trailingComma <;> simpa [commaJoined] using h
  | case3 ts rest _ ih =>
    have hts := h ts List.mem_cons_self
    have hrest := ih fun us hus => h us (List.mem_cons_of_mem _ hus)
    simp [commaJoined, hts, hrest]

theorem keeps_terms : (terms : List Term) → (∀ t ∈ terms, Keeps r t.tokens) →
    Keeps r (Term.tokensOfAll terms)
  | [], _ => by simp [Term.tokensOfAll]
  | [t], h => by simpa [Term.tokensOfAll] using h
  | t :: u :: rest, h => by
    have ht := h t List.mem_cons_self
    have hrest := keeps_terms (u :: rest) fun v hv => h v (List.mem_cons_of_mem _ hv)
    simp [Term.tokensOfAll, ht, hrest]

include hr

theorem keeps_record {fields : Record}
    (h : ∀ field ∈ fields, r field.1 = field.1 ∧ Keeps r field.2.tokens) :
    Keeps r (Record.braced fields) := by
  have hlist : Keeps r (Record.tokens fields) := by
    rw [Record.tokens, keeps_flatMap]
    intro field hfield
    simp [fieldValueTokens, h field hfield]
  simp [Record.braced, hr, hlist]

theorem keeps_parameterTokens {f : Function}
    (h : ∀ p ∈ f.parameters, r p.1 = p.1 ∧ Keeps r p.2.tokens) : Keeps r f.parameterTokens := by
  apply keeps_commaJoined
  simp only [List.mem_append, List.mem_map]
  rintro _ (hreceiver | ⟨p, hp, rfl⟩)
  · cases hf : f.receiver <;> simp [hf, Receiver.tokens] at hreceiver <;> subst hreceiver <;>
      simp [hr]
  · simp [h p hp]

theorem rename_function {f : Function} {parameters : List (Ident × TypeExpr)}
    {result : Option TypeExpr} {body : Body}
    (hdecorations : ∀ d ∈ f.decorations, Keeps r d.tokens) (hname : r f.name = f.name)
    (htype : Keeps r (f.typeParameter.tokens ++ f.typeParameter.conditions))
    (hparameters : Token.renameAll r f.parameterTokens =
      { f with parameters := parameters }.parameterTokens)
    (hresult : f.result.map (Token.renameAll r ·.tokens) = result.map TypeExpr.tokens)
    (hbody : Token.renameAll r f.body.tokens = body.tokens) :
    Token.renameAll r f.tokens =
      { f with parameters := parameters, result := result, body := body }.tokens := by
  have hall : Keeps r (Decoration.tokensOfAll f.decorations) := keeps_flatMap.mpr hdecorations
  have hpublic : Keeps r (if f.isPublic then [Token.word "pub"] else []) := by
    split <;> simp [hr]
  have hfn : (Token.word "fn").rename r = Token.word "fn" := by simp [hr]
  obtain ⟨hparameter, hconditions⟩ := keeps_append.mp htype
  unfold Function.parameterTokens at hparameters
  cases hf : f.result <;> cases result <;>
    simp_all [Function.tokens, Function.parameterTokens, hall.eq, hpublic.eq, hparameter.eq,
      hconditions.eq]

omit hr in
theorem rename_result {result : Option TypeExpr} (h : ∀ t ∈ result, Keeps r t.tokens) :
    result.map (Token.renameAll r ·.tokens) = result.map TypeExpr.tokens := by
  cases hresult : result with
  | none => rfl
  | some t => simp [(h t hresult).eq]

theorem keeps_function {f : Function} (hdecorations : ∀ d ∈ f.decorations, Keeps r d.tokens)
    (hname : r f.name = f.name)
    (htype : Keeps r (f.typeParameter.tokens ++ f.typeParameter.conditions))
    (hparameters : ∀ p ∈ f.parameters, r p.1 = p.1 ∧ Keeps r p.2.tokens)
    (hresult : ∀ t ∈ f.result, Keeps r t.tokens) (hbody : Keeps r f.body.tokens) :
    Keeps r f.tokens :=
  rename_function hr hdecorations hname htype (keeps_parameterTokens hr hparameters)
    (rename_result hresult) hbody

theorem rename_structure {s : Structure} (hdecorations : ∀ d ∈ s.decorations, Keeps r d.tokens)
    (hvisibility : Keeps r s.visibility)
    (hfields : ∀ field ∈ s.fields, r field.1 = field.1 ∧ Keeps r field.2.tokens) :
    Token.renameAll r s.tokens = { s with name := r s.name }.tokens := by
  have hall : Keeps r (Decoration.tokensOfAll s.decorations) := keeps_flatMap.mpr hdecorations
  have hstruct : (Token.word "struct").rename r = Token.word "struct" := by simp [hr]
  simp only [Structure.tokens, Token.renameAll_append, Token.renameAll_cons, Token.renameAll_nil,
    hall.eq, hvisibility.eq, hstruct, Token.rename_ident, Token.rename_group]
  rw [(keeps_flatMap.mpr _).eq]
  rintro ⟨name, t⟩ hfield
  simp [fieldTokens, hfields _ hfield]

theorem keeps_enumeration {e : Enumeration} (hdecorations : ∀ d ∈ e.decorations, Keeps r d.tokens)
    (hvisibility : Keeps r e.visibility) (hname : r e.name = e.name)
    (hvariants : ∀ v ∈ e.variants, r v.2 = v.2) : Keeps r e.tokens := by
  have hall : Keeps r (Decoration.tokensOfAll e.decorations) := keeps_flatMap.mpr hdecorations
  simp only [Enumeration.tokens, keeps_append, hall, hvisibility, keeps_word_cons, hr,
    keeps_ident_cons, hname, keeps_group_cons, keeps_flatMap, keeps_nil, and_true, true_and]
  rintro ⟨doc, variant⟩ hv
  simp [hr.doc, hvariants _ hv]

/-- An implementation of the functions of a type itself. -/
theorem rename_ownImpl {target : Ident} {items items' : List AssociatedItem}
    (hitems : Token.renameAll r (items.flatMap AssociatedItem.tokens) =
      items'.flatMap AssociatedItem.tokens) :
    Token.renameAll r
        (Item.implementation { trait? := none, target := .name target, items := items }).tokens =
      (Item.implementation
        { trait? := none, target := .name (r target), items := items' }).tokens := by
  simp [Item.tokens, Implementation.tokens, Decoration.tokensOfAll, hr, hitems]

omit hr in
theorem flatMap_function (functions : List Function) :
    (functions.map AssociatedItem.function).flatMap AssociatedItem.tokens =
      functions.flatMap Function.tokens := by
  simp [List.flatMap_map, AssociatedItem.tokens]

theorem rename_derivedImpl {trait_ trait' : TypeExpr} {target : Ident}
    {functions functions' : List Function}
    (htrait : Token.renameAll r trait_.tokens = trait'.tokens)
    (hfunctions : Token.renameAll r (functions.flatMap Function.tokens) =
      functions'.flatMap Function.tokens) :
    Token.renameAll r (derivedImpl trait_ target functions).tokens =
      (derivedImpl trait' (r target) functions').tokens := by
  have hderived := hr.automaticallyDerived.eq
  simp [derivedImpl, Item.tokens, Implementation.tokens, Decoration.tokensOfAll, flatMap_function,
    hr, hderived, htrait, hfunctions]

omit hr in
theorem keeps_library {path : List String} (hp : ∀ word ∈ path, r (plain word) = plain word) :
    Keeps r (TypeExpr.library path).tokens :=
  keeps_pathTokens.mpr hp

/-- An implementation of a trait of a library by one function. -/
theorem rename_libraryImpl {path : List String} {target : Ident} {f f' : Function}
    (hpath : ∀ word ∈ path, r (plain word) = plain word)
    (hf : Token.renameAll r f.tokens = f'.tokens) :
    Token.renameAll r (derivedImpl (.library path) target [f]).tokens =
      (derivedImpl (.library path) (r target) [f']).tokens :=
  rename_derivedImpl hr (keeps_library hpath) (Token.renameAll_flatMap₂ (.cons hf .nil))

theorem keeps_ownImpl {target : Ident} {items : List AssociatedItem} (htarget : r target = target)
    (hitems : ∀ i ∈ items, Keeps r i.tokens) :
    Keeps r
      (Item.implementation { trait? := none, target := .name target, items := items }).tokens := by
  rw [Keeps, rename_ownImpl hr (keeps_flatMap.mpr hitems).eq, htarget]

theorem keeps_derivedImpl {trait_ : TypeExpr} {target : Ident} {functions : List Function}
    (htrait : Keeps r trait_.tokens) (htarget : r target = target)
    (hfunctions : ∀ f ∈ functions, Keeps r f.tokens) :
    Keeps r (derivedImpl trait_ target functions).tokens := by
  rw [Keeps, rename_derivedImpl hr htrait.eq (keeps_flatMap.mpr hfunctions).eq, htarget]

theorem keeps_selfType : Keeps r TypeExpr.self.tokens := by
  simp [TypeExpr.self, hr]

/-! ## Writing text -/

theorem rename_writeText {t t' : Term} (ht : Token.renameAll r t.tokens = t'.tokens) :
    Token.renameAll r (writeText t).tokens = (writeText t').tokens := by
  have hf : r formatterVar = formatterVar := by simp [formatterVar, hr]
  have hwrite : r (plain "write_str") = plain "write_str" := by simp [hr]
  simp [writeText, Statement.tokens, Statement.semicolon, Term.tokens, Term.tokensOfAll, hf,
    hwrite, ht]

theorem keeps_writeLast {t : Term} (ht : Keeps r t.tokens) : Keeps r (writeLast t).tokens := by
  simp [writeLast, formatterVar, Outcome.tokens, Term.tokens, Term.tokensOfAll, hr, ht]

theorem rename_formatFunction {decorations : List Decoration} {body body' : Body}
    (hdecorations : ∀ d ∈ decorations, Keeps r d.tokens)
    (hbody : Token.renameAll r body.tokens = body'.tokens) :
    Token.renameAll r (formatFunction decorations body).tokens =
      (formatFunction decorations body').tokens := by
  have hresult : Keeps r (TypeExpr.library ["core", "fmt", "Result"]).tokens :=
    keeps_library (by simp [hr])
  apply rename_function hr hdecorations
  · simp [formatFunction, hr]
  · simp [formatFunction, TypeParameter.tokens, TypeParameter.conditions]
  · apply keeps_parameterTokens hr
    simp [formatFunction, formatterVar, TypeExpr.refMut, TypeExpr.tokens, TypeExpr.tokensBefore,
      lifetime, hr]
  · simp [formatFunction, hresult.eq]
  · exact hbody

theorem keeps_separateElements : Keeps r separateElements.tokens := by
  have hwrite : Keeps r (writeText (.text ", ")).tokens :=
    rename_writeText hr (by simp [Term.tokens])
  simp [separateElements, indexVar, Statement.tokens, Statement.tokensOfAll, Term.tokens,
    Comparison.tokens, numeral, hr, hwrite]

end

end TraitBuilder
