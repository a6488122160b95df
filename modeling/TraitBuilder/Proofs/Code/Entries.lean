import TraitBuilder.Proofs.Code.Subterms
import TraitBuilder.Generated.Source

/-!
# Entries of members

What is generated for a member names it once.  The names are read off the generated code itself.  A
float list is hashed by its length and by its elements; both together count as one entry.

* `Member.fieldsOf_finalValue`, `Member.fieldsOf_readStored`, …: fields of the built types.
* `Member.comparedFields_memberTest`, `Member.hashedFields_hashMember`: comparison and hashing.
* `Blueprint.fieldsOf_displayBody`, `Blueprint.labelsIn_displayBody`: display.
-/

namespace TraitBuilder

open Code

namespace Code

/-! ## Reading names -/

/-- The constant of the type `owner` that a term is. -/
def Term.constantOf? (owner : Ident) : Term → Option Ident
  | .constant x name => if x = owner then Option.some name else Option.none
  | _ => Option.none

/-- The constants of the type `owner` that terms name, in order. -/
def constantsOf (owner : Ident) (ts : List Term) : List Ident :=
  ts.filterMap (Term.constantOf? owner)

/-- The text that a term is, if it ends like a label, with the sign `=`. -/
def Term.label? : Term → Option String
  | .text value =>
    if value.toList.getLast? = Option.some '=' then Option.some value else Option.none
  | _ => Option.none

/-- The labels that terms name, in order. -/
def labelsIn (ts : List Term) : List String := ts.filterMap Term.label?

/-- The fields of the receiver and of the other value that a test compares. -/
def comparedFields (test : Term) : List Ident × List Ident :=
  (fieldsOf selfVar test.subterms, fieldsOf otherVar test.subterms)

/-- The field of the receiver whose elements a statement counts for the hash. -/
def Statement.countedField? : Statement → Option Ident
  | .run (.call (.library .hash) [.borrow false (.method (.field (.var x) name) y []), _] _) =>
    if x = selfVar ∧ y = plain "len" then some name else none
  | _ => none

/-- The field of the receiver that a statement loops over. -/
def Statement.loopField? : Statement → Option Ident
  | .each _ (.borrow false (.field (.var x) name)) _ => if x = selfVar then some name else none
  | _ => none

/-- The fields of the receiver that statements feed to the hash.  The number of elements is no entry
of its own if the elements follow. -/
def hashedFields : List Statement → List Ident
  | [] => []
  | s :: rest =>
    (if s.countedField?.isSome ∧ s.countedField? = rest.head?.bind Statement.loopField? then []
      else fieldsOf selfVar s.subterms) ++ hashedFields rest

/-- The label under which a term writes a field, and the fields of the receiver that it writes. -/
def writtenField? : Term → Option (String × List Ident)
  | .call (.library .serializeField) [_, .text label, value] _ =>
    some (label, fieldsOf selfVar value.subterms)
  | _ => none

/-- The number of fields that a term announces. -/
def announcedLength? : Term → Option Nat
  | .call (.library .serializeStruct) [_, _, .size length] _ => some length
  | _ => none

end Code

section Readers

variable {owner : Ident}

@[simp] theorem constantsOf_nil : constantsOf owner [] = [] := rfl

@[simp] theorem constantsOf_cons (t : Term) (ts : List Term) :
    constantsOf owner (t :: ts) = (t.constantOf? owner).toList ++ constantsOf owner ts := by
  cases h : t.constantOf? owner <;> simp [constantsOf, h]

@[simp] theorem constantsOf_append (ts us : List Term) :
    constantsOf owner (ts ++ us) = constantsOf owner ts ++ constantsOf owner us :=
  List.filterMap_append

@[simp] theorem labelsIn_nil : labelsIn [] = [] := rfl

@[simp] theorem labelsIn_cons (t : Term) (ts : List Term) :
    labelsIn (t :: ts) = t.label?.toList ++ labelsIn ts := by
  cases h : t.label? <;> simp [labelsIn, h]

@[simp] theorem labelsIn_append (ts us : List Term) :
    labelsIn (ts ++ us) = labelsIn ts ++ labelsIn us :=
  List.filterMap_append

end Readers

namespace Member

/-! ## Single members -/

@[simp] theorem fieldsOf_finalValue (m : Member) :
    fieldsOf builderVar (m.finalValue builderVar).subterms = [m.name] := by
  unfold finalValue
  split <;> simp [copied, Term.clone, Term.apply, Term.fieldOf?]

@[simp] theorem fieldsOf_partialValue (m : Member) :
    fieldsOf builderVar (m.partialValue builderVar).subterms = [m.name] := by
  simp [partialValue, copied, Term.clone, Term.apply, Term.fieldOf?]

theorem fieldsOf_read (p : Property) {owner : Ident} {storage : Term} :
    fieldsOf owner (p.read storage).subterms = fieldsOf owner storage.subterms := by
  unfold Property.read
  split
  · rfl
  · split <;> simp [Term.clone, Term.apply, Term.fieldOf?]
  · split <;> simp [Term.clone, Term.apply, Term.fieldOf?]
  · simp [Term.apply, Term.fieldOf?]
  · simp [Term.apply, Term.fieldOf?]

theorem fieldsOf_ownFieldRef (name : Ident) :
    fieldsOf selfVar (Term.ownFieldRef name).subterms = [name] := by
  simp [Term.ownFieldRef, Term.ownField, Term.self, Term.fieldOf?, selfVar]

@[simp] theorem fieldsOf_readStored (m : Member) :
    fieldsOf selfVar m.readStored.subterms = [m.name] := by
  rw [readStored, Outcome.subterms, fieldsOf_read, fieldsOf_ownFieldRef]

@[simp] theorem fieldsOf_readRequired (m : Member) :
    fieldsOf selfVar m.readRequired.subterms = [m.name] := by
  rw [readRequired, Outcome.subterms, fieldsOf_append, fieldsOf_read, fieldsOf_ownFieldRef]
  simp [Term.fieldOf?]

theorem fieldsOf_comparable (m : Member) (layout : Layout) (x owner : Ident) :
    fieldsOf owner (comparable m layout (.field (.var x) m.name)).subterms =
      if x = owner then [m.name] else [] := by
  unfold comparable
  split
  · split <;> simp [Term.fieldOf?, *]
  · split <;> split <;> simp [bitsOf, bitsFunction, Term.apply, Term.fieldOf?, *]

@[simp] theorem comparedFields_memberTest (t : Target) (m : Member) :
    comparedFields (memberTest t m) = ([m.name], [m.name]) := by
  have hfields : ∀ owner, fieldsOf owner (memberTest t m).subterms =
      (if selfVar = owner then [m.name] else []) ++ if otherVar = owner then [m.name] else [] := by
    intro owner
    have hleft := fieldsOf_comparable m (t.layout m) selfVar owner
    have hright := fieldsOf_comparable m (t.layout m) otherVar owner
    rw [← hleft, ← hright]
    unfold memberTest
    dsimp only
    split <;> simp [Term.apply, Term.fieldOf?, Term.ownField, Term.self, selfVar]
  simp [comparedFields, hfields, selfVar, otherVar, plain]

theorem hashedFields_cons_of_none {s : Statement} (h : s.countedField? = none)
    (rest : List Statement) :
    hashedFields (s :: rest) = fieldsOf selfVar s.subterms ++ hashedFields rest := by
  simp [hashedFields, h]

theorem fieldsOf_hashTerm {owner : Ident} (t : Term) :
    fieldsOf owner (hashTerm t).subterms = fieldsOf owner t.subterms := by
  simp [hashTerm, Term.apply, Term.fieldOf?]

theorem countedField?_comparable (m : Member) (layout : Layout) :
    (hashTerm (comparable m layout (.ownField m.name))).countedField? = none := by
  unfold comparable
  split
  · rfl
  · split
    · simp [hashTerm, bitsOf, Term.apply, Term.ownField, Term.self, Statement.countedField?, plain]
    · rfl
    · rfl

theorem hashedFields_hashMember (t : Target) (m : Member) (rest : List Statement) :
    hashedFields (hashMember t m ++ rest) = m.name :: hashedFields rest := by
  unfold hashMember
  dsimp only
  split
  · have hcount : (hashTerm (.method (.ownField m.name) (plain "len") [])).countedField? =
        some m.name := rfl
    have hloop : (Statement.each (.one valueVar) (.borrow false (.ownField m.name))
        [hashTerm (bitsOf (.var valueVar))]).loopField? = some m.name := rfl
    rw [List.cons_append, List.cons_append, List.nil_append, hashedFields, hcount, List.head?_cons,
      Option.bind_some, hloop, if_pos ⟨rfl, rfl⟩, List.nil_append,
      hashedFields_cons_of_none rfl]
    simp [hashTerm, bitsOf, Term.apply, Term.ownField, Term.self, Term.fieldOf?, selfVar]
  · rw [List.singleton_append, hashedFields_cons_of_none (m.countedField?_comparable _),
      fieldsOf_hashTerm, Term.ownField, Term.self, fieldsOf_comparable]
    rfl

theorem fieldsOf_displayField {owner : Ident} (m : Member) (value : Term) :
    fieldsOf owner ((displayField m value).flatMap Statement.subterms) =
      fieldsOf owner value.subterms := by
  unfold displayField
  dsimp only
  split <;>
    simp [writeText, writeDisplayed, separateElements, Term.apply, Term.fieldOf?]

theorem labelsIn_displayField (m : Member) {value : Term} (h : labelsIn value.subterms = []) :
    labelsIn ((displayField m value).flatMap Statement.subterms) = [m.label ++ "="] := by
  unfold displayField
  dsimp only
  split <;>
    simp [writeText, writeDisplayed, separateElements, Term.apply, Term.label?, h]

theorem fieldsOf_applyField (m : Member) :
    fieldsOf Blueprint.fieldsVar (Blueprint.applyField m).subterms = [m.name] := by
  unfold Blueprint.applyField setFromResult
  dsimp only
  split <;> simp [Term.fieldOf?]

theorem constantsOf_initial {owner : Ident} (m : Member) :
    constantsOf owner m.initial.subterms = [] := by
  have hconversion : ∀ argument,
      constantsOf owner (setterConversion m.property.ty argument).subterms =
        constantsOf owner argument.subterms := by
    intro argument
    unfold setterConversion
    split <;> simp [Term.apply, Term.constantOf?]
  unfold initial
  split <;> simp [Term.none, Term.some, Term.apply, Term.constantOf?, hconversion]

end Member

namespace Blueprint

variable {b : Blueprint}

/-! ## Displayed members -/

theorem fieldsOf_displayMember (t : Target) (index : Nat) (m : Member) :
    fieldsOf selfVar ((b.displayMember t index m).flatMap Statement.subterms) = [m.name] := by
  have hleading : fieldsOf selfVar ((b.leading t index).flatMap Statement.subterms) = [] := by
    unfold leading
    split
    · simp [writeText, Term.fieldOf?]
    · split <;> simp [writeText, joiner, Term.fieldOf?]
  have htrailing : fieldsOf selfVar ((b.trailing t).flatMap Statement.subterms) = [] := by
    unfold trailing
    split <;> simp [joiner, Term.fieldOf?]
  unfold displayMember
  dsimp only
  split
  · simp [Statement.subtermsOfAll_eq, Member.fieldsOf_displayField, Member.fieldsOf_ownFieldRef,
      Term.fieldOf?, hleading, htrailing]
  · simp [Member.fieldsOf_displayField, Member.fieldsOf_ownFieldRef, hleading, htrailing]

theorem labelsIn_displayMember (t : Target) (index : Nat) (m : Member) :
    labelsIn ((b.displayMember t index m).flatMap Statement.subterms) = [m.label ++ "="] := by
  have hleading : labelsIn ((b.leading t index).flatMap Statement.subterms) = [] := by
    unfold leading
    split
    · simp [writeText, Term.label?]
    · split <;> simp [writeText, joiner, Term.label?]
  have htrailing : labelsIn ((b.trailing t).flatMap Statement.subterms) = [] := by
    unfold trailing
    split <;> simp [joiner, Term.label?]
  have hpresent : labelsIn (Term.var presentVar).subterms = [] := rfl
  have hstored : labelsIn (Term.ownFieldRef m.name).subterms = [] := rfl
  unfold displayMember
  dsimp only
  split
  · simp only [List.flatMap_singleton, Statement.subterms, Statement.subtermsOfAll_eq,
      List.flatMap_append, labelsIn_append, hstored, hleading, htrailing,
      Member.labelsIn_displayField m hpresent, List.nil_append, List.append_nil]
  · simp only [List.flatMap_append, labelsIn_append, hleading, htrailing,
      Member.labelsIn_displayField m hstored, List.nil_append, List.append_nil]

theorem fieldsOf_displayMembers (t : Target) (index : Nat) (members : List Member) :
    fieldsOf selfVar ((b.displayMembers t index members).flatMap Statement.subterms) =
      members.map Member.name := by
  induction members generalizing index with
  | nil => rfl
  | cons m rest ih =>
    rw [displayMembers, List.flatMap_append, fieldsOf_append, fieldsOf_displayMember, ih]
    rfl

theorem labelsIn_displayMembers (t : Target) (index : Nat) (members : List Member) :
    labelsIn ((b.displayMembers t index members).flatMap Statement.subterms) =
      members.map (·.label ++ "=") := by
  induction members generalizing index with
  | nil => rfl
  | cons m rest ih =>
    rw [displayMembers, List.flatMap_append, labelsIn_append, labelsIn_displayMember, ih]
    rfl

theorem fieldsOf_displayBody (t : Target) :
    fieldsOf selfVar (b.displayBody t).subterms = b.members.map Member.name := by
  have hmembers := fieldsOf_displayMembers (b := b) t 0 b.members
  simp only [displayBody, displayStatements, Body.subterms, List.flatMap_cons,
    List.flatMap_append, fieldsOf_append, hmembers]
  split <;> simp [writeText, writeLast, Outcome.subterms, Term.fieldOf?]

theorem labelsIn_displayBody (t : Target) :
    labelsIn (b.displayBody t).subterms = b.members.map (·.label ++ "=") := by
  have hmembers := labelsIn_displayMembers (b := b) t 0 b.members
  simp only [displayBody, displayStatements, Body.subterms, List.flatMap_cons,
    List.flatMap_append, labelsIn_append, hmembers]
  split <;> simp [writeText, writeLast, Outcome.subterms, displayOpening, Term.label?]

end Blueprint

end TraitBuilder
