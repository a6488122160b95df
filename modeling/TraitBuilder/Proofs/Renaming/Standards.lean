import TraitBuilder.Proofs.Renaming.Built

/-!
# Standard traits under a renaming

Comparisons and hashes mention the built types only as the types that they are for, and the partial
as what a value is compared with.  The display takes the separator from the builder; the texts that
it writes name the trait and do not change.

* `Blueprint.rename_standardItems`: the standard traits of a built type.
-/

namespace TraitBuilder

open Code

/-! ## Terms for members -/

section

variable {r : Renaming} (hr : KeepsWords r)

include hr

theorem keeps_bitsOf {t : Term} (ht : Keeps r t.tokens) : Keeps r (bitsOf t).tokens := by
  simp [bitsOf, Term.tokens, Term.tokensOfAll, hr, ht]

theorem keeps_bitsFunction : Keeps r bitsFunction.tokens := by
  have hvalue : r valueVar = valueVar := by simp [valueVar, hr]
  have hbits := keeps_bitsOf hr (t := .var valueVar) (by simp [Term.tokens, hvalue])
  simp [bitsFunction, Term.tokens, hvalue, hbits]

theorem keeps_comparable {t : Term} (ht : Keeps r t.tokens) (m : Member) (layout : Layout) :
    Keeps r (comparable m layout t).tokens := by
  have hbits := keeps_bitsOf hr ht
  have hfunction := keeps_bitsFunction hr
  unfold comparable
  split
  · exact ht
  · cases layout <;> simp [Term.apply, Term.tokens, Term.tokensOfAll, Callee.tokens, hr.library,
      hr, ht, hbits, hfunction]

variable {m : Member} (h : m.Kept r)

include h

theorem keeps_memberTest (t : Target) : Keeps r (memberTest t m).tokens := by
  have hother : r otherVar = otherVar := by simp [otherVar, hr]
  have hleft := keeps_comparable hr (h.ownField hr) m (t.layout m)
  have hright := keeps_comparable hr (t := .field (.var otherVar) m.name)
    (by simp [Term.tokens, hother, h.name]) m (t.layout m)
  unfold memberTest
  simp only
  split <;> simp [Term.apply, Term.tokens, Term.tokensOfAll, Callee.tokens, Comparison.tokens,
    hr.library, hleft, hright]

omit h in
theorem keeps_hashTerm {t : Term} (ht : Keeps r t.tokens) : Keeps r (hashTerm t).tokens := by
  have hstate : r stateVar = stateVar := by simp [stateVar, hr]
  simp [hashTerm, Statement.tokens, Statement.semicolon, Term.apply, Term.tokens, Term.tokensOfAll,
    Callee.tokens, hr.library, hstate, ht]

theorem keeps_hashMember (t : Target) : Keeps r (Statement.tokensOfAll (hashMember t m)) := by
  have hfield := h.ownField hr
  have hvalue : r valueVar = valueVar := by simp [valueVar, hr]
  have hlength := keeps_hashTerm hr (t := .method (.ownField m.name) (plain "len") []) (by
    simp [Term.tokens, Term.tokensOfAll, hr, hfield])
  have hbits := keeps_hashTerm hr (keeps_bitsOf hr (t := .var valueVar)
    (by simp [Term.tokens, hvalue]))
  have hcomparable := keeps_hashTerm hr (keeps_comparable hr hfield m (t.layout m))
  unfold hashMember
  simp only
  split <;> simp [Statement.tokensOfAll, Statement.tokens, Binder.tokens, Term.tokens, hr, hfield,
    hvalue, hlength, hbits, hcomparable]

/-! ## Writing members -/

omit h in
theorem keeps_writeDisplayed {t : Term} (ht : Keeps r t.tokens) :
    Keeps r (writeDisplayed t).tokens := by
  have hf : r formatterVar = formatterVar := by simp [formatterVar, hr]
  simp [writeDisplayed, Statement.tokens, Statement.semicolon, Term.apply, Term.tokens,
    Term.tokensOfAll, Callee.tokens, hr.library, hf, ht]

omit h in
theorem keeps_writeFixed (text : String) : Keeps r (writeText (.text text)).tokens :=
  rename_writeText hr (by simp [Term.tokens])

omit h in
theorem keeps_displayField (m : Member) {value : Term} (hvalue : Keeps r value.tokens) :
    Keeps r (Statement.tokensOfAll (displayField m value)) := by
  have hseparate := keeps_separateElements hr
  have hindex : r indexVar = indexVar := by simp [indexVar, hr]
  have helement : r Member.elementVar = Member.elementVar := by simp [Member.elementVar, hr]
  have hwritten := keeps_writeDisplayed hr (t := .var Member.elementVar)
    (by simp [Term.tokens, helement])
  have hdisplayed := keeps_writeDisplayed hr hvalue
  unfold displayField
  simp only
  split <;> simp [Statement.tokensOfAll, Statement.tokens, Binder.tokens, Term.apply, Term.tokens,
    Term.tokensOfAll, Callee.tokens, hr, hr.library, keeps_writeFixed hr, hseparate, hindex,
    helement, hwritten, hvalue, hdisplayed]

end

namespace Blueprint

variable {r : Renaming} {b : Blueprint} (h : b.Kept r)

include h

omit h in
theorem variesSeparator_rename (t : Target) :
    (b.rename r).variesSeparator t = b.variesSeparator t := rfl

/-! ## Equality -/

omit h in
theorem name_rename (t : Target) : t.name (b.rename r) = r (t.name b) := by
  cases t <;> rfl

theorem keeps_equalityTests (t : Target) : ∀ test ∈ b.equalityTests t, Keeps r test.tokens := by
  have hr := h.words
  have hother : r otherVar = otherVar := by simp [otherVar, hr]
  have hunset : r unsetField = unsetField := by simp [unsetField, hr]
  simp only [equalityTests, List.mem_append, List.mem_map]
  rintro test (⟨m, hm, rfl⟩ | htest)
  · exact keeps_memberTest hr (h.members m hm) t
  · split at htest
    · obtain rfl := List.mem_singleton.mp htest
      simp [Term.tokens, Comparison.tokens, Member.keeps_ownUnset hr, hother, hunset]
    · simp at htest

theorem rename_equalityFunction {other : Ident} {otherType otherType' : TypeExpr} {body : Body}
    (hother : r other = other) (htype : Token.renameAll r otherType.tokens = otherType'.tokens)
    (hbody : Keeps r body.tokens) :
    Token.renameAll r (equalityFunction other otherType body).tokens =
      (equalityFunction other otherType' body).tokens := by
  have hr := h.words
  have hself : (Token.word "self").rename r = Token.word "self" := by simp [hr]
  have hresult : ∀ t ∈ (equalityFunction other otherType body).result, Keeps r t.tokens := by
    simp [equalityFunction, hr]
  apply rename_function hr (by simp [equalityFunction]) (by simp [equalityFunction, hr]) ?_ ?_
    (rename_result hresult) hbody
  · simp [equalityFunction, TypeParameter.tokens, TypeParameter.conditions]
  · simp [equalityFunction, Function.parameterTokens, commaJoined, Receiver.tokens, TypeExpr.ref,
      TypeExpr.tokens, TypeExpr.tokensBefore, hself, hother]
    exact htype

theorem rename_structuralEquality (t : Target) :
    Token.renameAll r (b.structuralEquality t).tokens =
      ((b.rename r).structuralEquality t).tokens := by
  have hr := h.words
  have hother : r otherVar = otherVar := by simp [otherVar, hr]
  have hunused := keeps_markUnused hother (by simp [otherVar, hr])
  have htests : Keeps r
      ((b.equalityTests t).flatMap fun test => test.tokens ++ operator ['&', '&']) := by
    rw [keeps_flatMap]
    intro test htest
    simp [keeps_equalityTests h t test htest]
  unfold structuralEquality
  rw [name_rename]
  apply rename_libraryImpl hr (by simp [hr])
  apply rename_equalityFunction h (hunused _) (keeps_selfType hr)
  simp only [Body.tokens, Statement.tokensOfAll, Outcome.tokens, List.nil_append, keeps_append,
    htests, keeps_word_cons, hr, keeps_nil, and_self]

/-- A call of the method of the user's trait on the receiver and one more argument. -/
theorem keeps_traitCall {method : String} {argument : Ident}
    (hmethod : r (plain method) = plain method) (hargument : r argument = argument) :
    Keeps r (Body.term
      (.call (.ofTrait b.typeName method) [.self, .var argument] false)).tokens := by
  have hr := h.words
  have hself := Member.keeps_self hr
  simp [Body.term, Body.tokens, Statement.tokensOfAll, Outcome.tokens, Term.tokens,
    Term.tokensOfAll, Callee.tokens, hr, hmethod, hself, hargument, h.typeName]

theorem rename_providedEquality :
    Token.renameAll r (b.providedEquality.flatMap Item.tokens) =
      (b.rename r).providedEquality.flatMap Item.tokens := by
  have hr := h.words
  have hother : r otherVar = otherVar := by simp [otherVar, hr]
  have hunused := keeps_markUnused hother (by simp [otherVar, hr])
  refine Token.renameAll_flatMap₂ (.cons ?_ (.cons ?_ .nil))
  · apply rename_libraryImpl hr (by simp [hr])
    exact rename_equalityFunction h hother (keeps_selfType hr)
      (keeps_traitCall h (by simp [hr]) hother)
  · apply rename_derivedImpl hr
    · have hpath : Keeps r (pathTokens ["core", "cmp", "PartialEq"]) := by simp [hr]
      simp [TypeExpr.tokens, TypeExpr.tokensBefore, rename, hpath.eq]
    · refine Token.renameAll_flatMap₂ (.cons ?_ .nil)
      apply rename_equalityFunction h (hunused _)
      · simp [rename]
      · simp [Body.term, Body.tokens, Statement.tokensOfAll, Outcome.tokens, Term.tokens, hr]

theorem rename_equalityItems (t : Target) :
    Token.renameAll r ((b.equalityItems t).flatMap Item.tokens) =
      ((b.rename r).equalityItems t).flatMap Item.tokens := by
  unfold equalityItems
  rw [standards_rename]
  split
  · exact keeps_nil
  · exact rename_providedEquality h
  · exact Token.renameAll_flatMap₂ (.cons (rename_structuralEquality h _) .nil)

/-! ## Hashing -/

omit h in
theorem keeps_hashFunction (hr : KeepsWords r) {state : Ident} {body : Body}
    (hstate : r state = state) (hbody : Keeps r body.tokens) :
    Keeps r (hashFunction state body).tokens := by
  apply keeps_function hr (by simp [hashFunction]) (by simp [hashFunction, hr]) ?_ ?_ ?_ hbody
  · simp [hashFunction, TypeParameter.tokens, TypeParameter.conditions, TypeExpr.tokensBefore, hr]
  · simp [hashFunction, TypeExpr.refMut, TypeExpr.tokens, TypeExpr.tokensBefore, hstate, hr]
  · simp [hashFunction]

theorem rename_structuralHash (t : Target) :
    Token.renameAll r (b.structuralHash t).tokens = ((b.rename r).structuralHash t).tokens := by
  have hr := h.words
  have hstate : r stateVar = stateVar := by simp [stateVar, hr]
  have hunused := keeps_markUnused hstate (by simp [stateVar, hr])
  have hstatements : Keeps r (Statement.tokensOfAll (b.hashStatements t)) := by
    unfold hashStatements
    rw [Statement.tokensOfAll_append, keeps_append, Statement.tokensOfAll_flatMap, keeps_flatMap]
    refine ⟨fun m hm => keeps_hashMember hr (h.members m hm) t, ?_⟩
    split <;> simp [Statement.tokensOfAll, keeps_hashTerm hr (Member.keeps_ownUnset hr)]
  unfold structuralHash
  rw [name_rename]
  apply rename_libraryImpl hr (by simp [hr])
  apply keeps_hashFunction hr (hunused _)
  simpa [Body.tokens, Outcome.tokens] using hstatements

theorem rename_hashItems (t : Target) :
    Token.renameAll r ((b.hashItems t).flatMap Item.tokens) =
      ((b.rename r).hashItems t).flatMap Item.tokens := by
  have hr := h.words
  have hstate : r stateVar = stateVar := by simp [stateVar, hr]
  unfold hashItems
  rw [standards_rename]
  split
  · exact keeps_nil
  · refine Token.renameAll_flatMap₂ (.cons ?_ .nil)
    apply rename_libraryImpl hr (by simp [hr])
    exact keeps_hashFunction hr hstate (keeps_traitCall h (by simp [hr]) hstate)
  · exact Token.renameAll_flatMap₂ (.cons (rename_structuralHash h _) .nil)

/-! ## Display -/

theorem rename_joiner : Token.renameAll r b.joiner.tokens = (b.rename r).joiner.tokens := by
  have hcomma : r commaJoiner = commaJoiner := by simp [commaJoiner, h.words]
  simp [joiner, rename, Term.tokens, hcomma]

theorem rename_leading (t : Target) (index : Nat) :
    Token.renameAll r (Statement.tokensOfAll (b.leading t index)) =
      Statement.tokensOfAll ((b.rename r).leading t index) := by
  have hr := h.words
  have hjoiner := rename_writeText hr (rename_joiner h)
  have hseparator : Keeps r (writeText (.var separatorVar)).tokens :=
    rename_writeText hr (by simp [separatorVar, Term.tokens, hr])
  unfold leading
  rw [variesSeparator_rename]
  split
  · simp [Statement.tokensOfAll, hseparator.eq]
  · split <;> simp [Statement.tokensOfAll, hjoiner]

theorem rename_trailing (t : Target) :
    Token.renameAll r (Statement.tokensOfAll (b.trailing t)) =
      Statement.tokensOfAll ((b.rename r).trailing t) := by
  have hr := h.words
  have hseparator : r separatorVar = separatorVar := by simp [separatorVar, hr]
  unfold trailing
  rw [variesSeparator_rename]
  split <;> simp [Statement.tokensOfAll, Statement.tokens, Statement.semicolon, Term.tokens,
    rename_joiner h, hseparator]

theorem rename_displayMember (t : Target) (index : Nat) {m : Member} (hm : m ∈ b.members) :
    Token.renameAll r (Statement.tokensOfAll (b.displayMember t index m)) =
      Statement.tokensOfAll ((b.rename r).displayMember t index m) := by
  have hr := h.words
  have hfield := (h.members m hm).ownFieldRef hr
  have hpresent : r presentVar = presentVar := by simp [presentVar, hr]
  have haround : ∀ value : Term, Keeps r value.tokens → Token.renameAll r
      (Statement.tokensOfAll (b.leading t index ++ displayField m value ++ b.trailing t)) =
      Statement.tokensOfAll ((b.rename r).leading t index ++ displayField m value ++
        (b.rename r).trailing t) := by
    intro value hvalue
    simp [Statement.tokensOfAll_append, rename_leading h, rename_trailing h,
      (keeps_displayField hr m hvalue).eq]
  have hthen := haround (.var presentVar) (by simp [Term.tokens, hpresent])
  have hsome := (hr.library .some).eq
  simp only [Statement.tokensOfAll_append] at hthen
  unfold displayMember
  simp only
  split
  · simp [Statement.tokensOfAll, Statement.tokensOfAll_append, Statement.tokens, hr, hsome,
      hpresent, hfield.eq]
    simpa using hthen
  · exact haround _ hfield

theorem rename_displayMembers (t : Target) : (ms : List Member) → (index : Nat) →
    (∀ m ∈ ms, m ∈ b.members) →
    Token.renameAll r (Statement.tokensOfAll (b.displayMembers t index ms)) =
      Statement.tokensOfAll ((b.rename r).displayMembers t index ms)
  | [], _, _ => by simp [displayMembers, Statement.tokensOfAll]
  | m :: rest, index, hms => by
    have hm := rename_displayMember h t index (hms m List.mem_cons_self)
    have hrest := rename_displayMembers t rest (index + 1)
      fun n hn => hms n (List.mem_cons_of_mem _ hn)
    simp [displayMembers, Statement.tokensOfAll_append, hm, hrest]

theorem rename_displayBody (t : Target) :
    Token.renameAll r (b.displayBody t).tokens = ((b.rename r).displayBody t).tokens := by
  have hr := h.words
  have hopening := keeps_writeFixed hr (b.displayOpening t)
  have hclosing : Keeps r (writeLast (.text "\x7d")).tokens :=
    keeps_writeLast hr (by simp [Term.tokens])
  have hbind : Keeps r (Statement.tokensOfAll
      (if b.variesSeparator t then [.bind true separatorVar (.text "")] else [])) := by
    split <;> simp [Statement.tokensOfAll, Statement.tokens, Statement.semicolon, Term.tokens,
      separatorVar, hr]
  have hmembers := rename_displayMembers h t b.members 0 fun m hm => hm
  simp only [displayBody, displayStatements, Body.tokens, Statement.tokensOfAll,
    Statement.tokensOfAll_append, Token.renameAll_append, hopening.eq, hbind.eq, hmembers,
    hclosing.eq]
  rfl

theorem rename_structuralDisplay (t : Target) :
    Token.renameAll r (b.structuralDisplay t).tokens =
      ((b.rename r).structuralDisplay t).tokens := by
  have hr := h.words
  unfold structuralDisplay
  rw [name_rename, variesSeparator_rename]
  apply rename_libraryImpl hr (by simp [hr])
  apply rename_formatFunction hr ?_ (rename_displayBody h t)
  split <;> simp [hr, hr.allow]

theorem rename_displayItems (t : Target) :
    Token.renameAll r ((b.displayItems t).flatMap Item.tokens) =
      ((b.rename r).displayItems t).flatMap Item.tokens := by
  have hr := h.words
  have hf : r formatterVar = formatterVar := by simp [formatterVar, hr]
  unfold displayItems
  rw [standards_rename]
  split
  · exact keeps_nil
  · refine Token.renameAll_flatMap₂ (.cons ?_ .nil)
    apply rename_libraryImpl hr (by simp [hr])
    exact rename_formatFunction hr (by simp) (keeps_traitCall h (by simp [hr]) hf)
  · exact Token.renameAll_flatMap₂ (.cons (rename_structuralDisplay h _) .nil)

/-! ## Debugging and all together -/

theorem rename_debugItems (t : Target) :
    Token.renameAll r ((b.debugItems t).flatMap Item.tokens) =
      ((b.rename r).debugItems t).flatMap Item.tokens := by
  have hr := h.words
  have hbody : Keeps r (Body.term (.apply .display [.self, .var formatterVar])).tokens := by
    simp [Body.term, Body.tokens, Statement.tokensOfAll, Outcome.tokens, Term.apply, Term.tokens,
      Term.tokensOfAll, Callee.tokens, formatterVar, hr, hr.library, Member.keeps_self hr]
  unfold debugItems
  rw [name_rename, debugSupertrait_rename]
  split
  · exact keeps_nil
  · refine Token.renameAll_flatMap₂ (.cons ?_ .nil)
    apply rename_libraryImpl hr (by simp [hr])
    exact rename_formatFunction hr (by simp) hbody

theorem rename_standardItems (t : Target) :
    Token.renameAll r ((b.standardItems t).flatMap Item.tokens) =
      ((b.rename r).standardItems t).flatMap Item.tokens := by
  simp only [standardItems, List.flatMap_append, Token.renameAll_append, rename_equalityItems h,
    rename_hashItems h, rename_displayItems h, rename_debugItems h]

end Blueprint

end TraitBuilder
