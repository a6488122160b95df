import TraitBuilder.Proofs.Comparison.Members
import TraitBuilder.Proofs.Display.Members
import TraitBuilder.Proofs.Loading.Defaults

/-!
# Slices

A slice and an option of a slice are both stored in a list.  The standard methods treat the list of
a slice as one: it is displayed, compared and hashed element by element.  An option of a slice is no
list to them, though: its value is asked to display itself, which a list does not do, and floating
point numbers in it are compared and hashed as they are.

* `Blueprint.TreatsAsList`: what it means that the standard methods treat a member as a list.
* `Blueprint.treatsAsList_of_list`, `Blueprint.not_treatsAsList`: the two kinds of members.
* `TraitDecl.treatsAsList_iff`: slices are treated as lists, and options of slices only where
  nothing is generated that would have to.
-/

namespace TraitBuilder

open Code Meaning

/-! ## Treating a member as a list -/

namespace Member

/-- The list `vs` as a type stores it: an optional member stores an option. -/
def stored {D : Type} (m : Member) (t : Target) (vs : List (Value D)) : Value D :=
  if t.layout m = .optional then .present (.list vs) else .list vs

/-- What is written of a member that is displayed as a list: the elements one by one in brackets. -/
def listPieces {D : Type} (m : Member) (vs : List (Value D)) : List (Piece D) :=
  .text (m.label ++ "=") :: .text "[" ::
    ((vs.map .shown).intersperse (.text ", ") ++ [.text "]"])

/-- Two lists of floating point numbers compare equal exactly if their bit patterns are the same. -/
def ComparesByBits (m : Member) (t : Target) : Prop :=
  ∀ (D W : Type) (c : Comparing D W) (k : Context D) (kind : Kind) (fs gs : Fields D)
    (ds es : List D), fs.get? m.name = some (m.stored t (ds.map .data)) →
      gs.get? m.name = some (m.stored t (es.map .data)) →
        c.compute k (memberTest t m) ⟨.record kind fs, [(otherVar, .record kind gs)]⟩ =
          .ok (.truth (decide (ds.map c.bits = es.map c.bits)))

/-- A list of floating point numbers feeds a hash with the bit patterns, after something that does
not come from the numbers. -/
def HashesByBits (m : Member) (t : Target) : Prop :=
  ∀ (D W : Type) (c : Comparing D W) (k : Context D) (kind : Kind) (fs : Fields D) (ds : List D),
    fs.get? m.name = some (m.stored t (ds.map .data)) →
      ∃ start : List (Fed W), (∀ w, .own w ∉ start) ∧
        c.feedAll k stateVar (hashMember t m) ⟨.record kind fs, []⟩ =
          .ok (start ++ (ds.map c.bits).map .number)

end Member

namespace Blueprint

/-- The statements of the display that belong to the member write the elements of the list one by
one, after some separator. -/
def DisplaysAsList (b : Blueprint) (t : Target) (m : Member) : Prop :=
  ∀ (D : Type) (k : Context D) (env : Env D) (kind : Kind) (fs : Fields D) (index : Nat)
    (s : String) (vs : List (Value D)), env.self = .record kind fs → b.Separates t s env →
      b.members[index]? = some m → fs.get? m.name = some (m.stored t vs) →
        ∃ (start : List String) (after : Env D),
          Writes k b.texts formatterVar (b.displayMember t index m) env
            (start.map .text ++ m.listPieces vs) after

/-- The standard trait is implemented for the type member by member. -/
def Generates (b : Blueprint) (trait_ : StandardTrait) : Target → Prop
  | .value => b.standards.get trait_ = .absent
  | .partialType => b.standards.get trait_ ≠ .final

/-- The generated standard methods treat a member with elements of the given type as a list. -/
structure TreatsAsList (b : Blueprint) (t : Target) (m : Member) (element : Ty) : Prop where
  display : b.Generates .display t → b.DisplaysAsList t m
  equality : TypeKind.of element = .float → b.Generates .equality t → m.ComparesByBits t
  hashing : TypeKind.of element = .float → b.Generates .hashing t → m.HashesByBits t

end Blueprint

/-! ## Lists -/

section Lists

variable {D : Type} {b : Blueprint} {t : Target} {m : Member} {element : Ty}

theorem Blueprint.Generates.displayed (h : b.Generates .display t) :
    b.standards.display ≠ .final := by
  cases t with
  | value =>
    intro hfinal
    rw [Blueprint.Generates, Standards.get, hfinal] at h
    cases h
  | partialType => exact h

theorem Member.layout_of_list {e : Option Expr} (hrole : m.role = .list element e) (t : Target) :
    t.layout m = .list := by
  cases t <;> simp [Target.layout, Member.layout, Member.partialLayout, Member.need, hrole]

theorem Member.stored_of_list {e : Option Expr} (hrole : m.role = .list element e) (t : Target)
    (vs : List (Value D)) : m.stored t vs = .list vs := by
  rw [Member.stored, Member.layout_of_list hrole, if_neg (by decide)]

theorem Member.stores_of_list {e : Option Expr} (hrole : m.role = .list element e)
    (ds : List D) : m.Stores (t.layout m) (m.stored t (ds.map .data)) := by
  intro _
  rw [Member.stored_of_list hrole, Member.layout_of_list hrole]
  exact ⟨ds, rfl⟩

section Floats

variable {e : Option Expr} (hrole : m.role = .list element e)
  (hfloat : TypeKind.of element = .float)

include hrole hfloat

theorem Member.elementKind_of_list : m.elementKind = .float := by
  simp [Member.elementKind, hrole, hfloat]

theorem Member.comparesByBits_of_list : m.ComparesByBits t := by
  intro D W c k kind fs gs ds es hfs hgs
  have hcompared (ds : List D) : m.compared c (m.stored t (ds.map .data)) =
      .list ((ds.map c.bits).map .number) := by
    rw [Member.compared, if_pos (Member.elementKind_of_list hrole hfloat),
      Member.stored_of_list hrole, Comparing.patterns_list]
  rw [Member.compute_memberTest hfs (Member.stores_of_list hrole ds) hgs
    (Member.stores_of_list hrole es), hcompared, hcompared, Comparing.equals]
  congr 2
  rw [Bool.eq_iff_iff, Comparing.equalsAll_numbers, decide_eq_true_iff]

theorem Member.hashesByBits_of_list : m.HashesByBits t := by
  intro D W c k kind fs ds hfs
  have helements : comparesElements m (t.layout m) = true := by
    rw [comparesElements, Member.elementKind_of_list hrole hfloat, Member.layout_of_list hrole]
    rfl
  refine ⟨[.number ((ds.map c.bits).map (Value.number (D := D))).length], by simp, ?_⟩
  rw [Member.feedAll_hashMember hfs (Member.stores_of_list hrole ds), Member.fed,
    if_pos helements, Member.stored_of_list hrole, Comparing.patterns_list]
  simp only [Comparing.hashedAll_numbers]
  rfl

end Floats

/-- A list is treated as one, whatever its elements are. -/
theorem Blueprint.treatsAsList_of_list {e : Option Expr} (hrole : m.role = .list element e) :
    b.TreatsAsList t m element where
  display hgenerates := by
    intro D k env kind fs index s vs hself hseparator hmember hfs
    have hpieces : m.pieces (.list vs) = m.listPieces vs := by
      simp [Member.pieces, Member.listPieces, Member.layout, hrole]
    rw [Member.stored_of_list hrole] at hfs
    have hwrites := writes_displayMember (k := k) hself hseparator
      (needsJoiner_of_member hgenerates.displayed hmember)
      (by rw [Member.layout_of_list hrole, if_neg (by decide), hfs]) fun _ => ⟨vs, rfl⟩
    rw [hpieces] at hwrites
    exact ⟨b.lead t index s, b.afterMember t env, hwrites⟩
  equality hfloat _ := Member.comparesByBits_of_list hrole hfloat
  hashing hfloat _ := Member.hashesByBits_of_list hrole hfloat

end Lists

/-! ## Options of lists -/

section Options

variable {b : Blueprint} {t : Target} {m : Member} {e : Option Expr}

theorem Member.layout_of_optional (hrole : m.role = .optional e) (t : Target) :
    t.layout m = .optional := by
  cases t <;> simp [Target.layout, Member.layout, Member.partialLayout, Member.need, hrole]

theorem Member.stored_of_optional {D : Type} (hrole : m.role = .optional e) (t : Target)
    (vs : List (Value D)) : m.stored t vs = .present (.list vs) := by
  rw [Member.stored, Member.layout_of_optional hrole, if_pos rfl]

/-- The context of a body that calls nothing. -/
def idleContext : Context Unit :=
  ⟨fun _ => .unit, [], .value, ⟨fun _ _ _ _ => .error .stuck, fun _ _ _ => .error .stuck⟩⟩

/-- The list itself is asked to display itself. -/
theorem Blueprint.writes_optional {D : Type} {k : Context D} {env : Env D} {kind : Kind}
    {fs : Fields D} {index : Nat} {s : String} {v : Value D} (hrole : m.role = .optional e)
    (hgenerates : b.Generates .display t) (hself : env.self = .record kind fs)
    (hseparator : b.Separates t s env) (hmember : b.members[index]? = some m)
    (hfs : fs.get? m.name = some (.present v)) :
    Writes k b.texts formatterVar (b.displayMember t index m) env
      ((b.lead t index s).map .text ++ [.text (m.label ++ "="), .shown v])
      (b.afterMember t env) := by
  have hlayout : m.layout = .optional := by rw [Member.layout, hrole]
  have hpieces : m.pieces v = [.text (m.label ++ "="), .shown v] := by
    simp [Member.pieces, hlayout]
  rw [← hpieces]
  exact writes_displayMember hself hseparator
    (needsJoiner_of_member hgenerates.displayed hmember)
    (by rw [Member.layout_of_optional hrole, if_pos rfl, hfs]) (by simp [hlayout])

theorem Blueprint.not_displaysAsList (hrole : m.role = .optional e) (hm : m ∈ b.members)
    (hgenerates : b.Generates .display t) : ¬ b.DisplaysAsList t m := by
  intro hlisted
  obtain ⟨index, hmember⟩ := List.mem_iff_getElem?.mp hm
  let fs : Fields Unit := [(m.name, .present (.list []))]
  let env : Env Unit := ⟨.record .value fs, [(separatorVar, .text "")]⟩
  have hseparator : b.Separates t "" env := fun _ => rfl
  have hfs : fs.get? m.name = some (.present (.list [])) := Fields.get?_cons_self _ _ _
  obtain ⟨start, after, hwrites⟩ := hlisted Unit idleContext env .value fs index "" [] rfl
    hseparator hmember (by rw [Member.stored_of_optional hrole, hfs])
  have hshown := Blueprint.writes_optional (k := idleContext) hrole hgenerates rfl hseparator
    hmember hfs
  -- what is written ends with a value in the one case and with a bracket in the other
  have hends := congrArg (fun answer => answer.toOption.map fun p => p.1.getLast?)
    (hwrites.symm.trans hshown)
  simp [Member.listPieces, Except.toOption] at hends

theorem Member.elementKind_of_optional (hrole : m.role = .optional e) {element : Ty}
    (hty : m.property.ty = .ownedList element) : m.elementKind = .reference := by
  have hkind : m.elementKind = TypeKind.of m.property.ty := by
    rw [Member.elementKind, hrole]
    rfl
  rw [hkind, hty]
  rfl

/-- Floating point numbers that never equal each other although their patterns do, and that feed
something of their own to a hash. -/
def oddNumbers : Comparing Unit Unit := ⟨fun _ _ => false, fun _ => [()], fun _ => 0⟩

section OddNumbers

variable {element : Ty} (hrole : m.role = .optional e) (hty : m.property.ty = .ownedList element)

include hrole hty

/-- The list of one number is stored as it is, since lists are no floating point numbers. -/
theorem Member.exists_oddNumber : ∃ fs : Fields Unit,
    fs.get? m.name = some (.present (.list [.data ()])) ∧
      fs.get? m.name = some (m.stored t ([()].map .data)) ∧
      m.Stores (t.layout m) (.present (.list [.data ()]) : Value Unit) := by
  have hfs : Fields.get? [(m.name, .present (.list [.data ()]))] m.name =
      some (.present (.list [.data ()]) : Value Unit) := Fields.get?_cons_self _ _ _
  refine ⟨_, hfs, ?_, fun hfloat => ?_⟩
  · rw [Member.stored_of_optional hrole, hfs]
    rfl
  · rw [Member.elementKind_of_optional hrole hty] at hfloat
    cases hfloat

theorem Member.not_comparesByBits : ¬ m.ComparesByBits t := by
  intro hbits
  obtain ⟨fs, hfs, hstored, hstores⟩ := Member.exists_oddNumber (t := t) hrole hty
  have hall := hbits Unit Unit oddNumbers idleContext .value fs fs [()] [()] hstored hstored
  rw [Member.compute_memberTest hfs hstores hfs hstores, Member.compared,
    Member.elementKind_of_optional hrole hty] at hall
  simp [Comparing.equals, Comparing.equalsAll, oddNumbers] at hall

theorem Member.not_hashesByBits : ¬ m.HashesByBits t := by
  intro hbits
  obtain ⟨fs, hfs, hstored, hstores⟩ := Member.exists_oddNumber (t := t) hrole hty
  obtain ⟨start, -, hfed⟩ := hbits Unit Unit oddNumbers idleContext .value fs [()] hstored
  have hkind := Member.elementKind_of_optional hrole hty
  have helements : comparesElements m (t.layout m) = false := by
    simp [comparesElements, hkind]
  rw [Member.feedAll_hashMember hfs hstores, Member.fed, helements, Member.compared, hkind] at hfed
  -- what is fed ends with what the number feeds in the one case and with a pattern in the other
  have hends := congrArg (fun answer => answer.toOption.map List.getLast?) hfed
  simp [Comparing.hashed, Comparing.hashedAll, oddNumbers, Except.toOption] at hends

end OddNumbers

/-- An option of a list is treated as a list only by methods that are not generated. -/
theorem Blueprint.treatsAsList_iff_of_optional (hrole : m.role = .optional e) {element : Ty}
    (hty : m.property.ty = .ownedList element) (hm : m ∈ b.members) :
    b.TreatsAsList t m element ↔ ¬ b.Generates .display t ∧ (TypeKind.of element = .float →
      ¬ b.Generates .equality t ∧ ¬ b.Generates .hashing t) := by
  constructor
  · intro h
    refine ⟨fun hdisplay => not_displaysAsList hrole hm hdisplay (h.display hdisplay),
      fun hfloat => ⟨fun hequality => ?_, fun hhashing => ?_⟩⟩
    · exact Member.not_comparesByBits hrole hty (h.equality hfloat hequality)
    · exact Member.not_hashesByBits hrole hty (h.hashing hfloat hhashing)
  · rintro ⟨hdisplay, hfloats⟩
    exact ⟨fun h => absurd h hdisplay, fun hfloat h => absurd h (hfloats hfloat).1,
      fun hfloat h => absurd h (hfloats hfloat).2⟩

end Options

/-! ## Getters of slices -/

namespace Ty

/-- The type is a reference to a slice, without a lifetime. -/
def IsSlice (ty element : Ty) : Prop := ty = .reference none false (.slice element)

/-- The type is an option of such a reference. -/
def IsOptionalSlice (ty element : Ty) : Prop :=
  ty.isOption = true ∧ ty.firstArgument? = some (.reference none false (.slice element))

end Ty

section Getters

variable {p : Property} {element : Ty}

/-- A slice is a list, and it is stored in one. -/
theorem role_of_slice (h : Shape.ofReturnType? p.returnType = .ok (p.shape, p.ty))
    (hslice : p.returnType.IsSlice element) (invocations : List Invocation) :
    p.ty = .ownedList element ∧ ∃ e, (classify invocations p).role = .list element e := by
  obtain ⟨hlisted, -⟩ := classes_of_returnType h
  rw [hslice] at h hlisted
  obtain ⟨-, hty⟩ := Prod.mk.inj (Except.ok.inj h)
  refine ⟨hty.symm, argumentOf? invocations p.setter, ?_⟩
  rw [classify, hlisted]
  rfl

/-- An option of a slice is stored in a list too, but its part is that of an option. -/
theorem role_of_optionalSlice (h : Shape.ofReturnType? p.returnType = .ok (p.shape, p.ty))
    (hslice : p.returnType.IsOptionalSlice element) (invocations : List Invocation) :
    p.ty = .ownedList element ∧ ∃ e, (classify invocations p).role = .optional e := by
  obtain ⟨hoption, hargument⟩ := hslice
  obtain ⟨-, hnullable⟩ := classes_of_returnType h
  have hreference : ∀ lifetime isMut referent,
      p.returnType ≠ .reference lifetime isMut referent := by
    intro lifetime isMut referent heq
    rw [heq, Ty.isOption_reference] at hoption
    cases hoption
  have hshape : Shape.ofReturnType? p.returnType =
      .ok (.optionRef true, .ownedList element) := by
    unfold Shape.ofReturnType?
    split
    · exact absurd ‹_› (hreference _ _ _)
    · rw [if_pos hoption, hargument]
      rfl
  rw [h] at hshape
  obtain ⟨hshape, hty⟩ := Prod.mk.inj (Except.ok.inj hshape)
  refine ⟨hty, argumentOf? invocations p.setter, ?_⟩
  have hlisted : p.listElement? = none := listElement?_of_shape_ne (by simp [hshape])
  rw [classify, hlisted]
  simp [hnullable, hoption]

end Getters

/-- What a getter of a slice or of an option of a slice hands out is stored in a list.  The
generated methods treat the first as a list, and the second only where none of them is generated
that has to. -/
theorem TraitDecl.treatsAsList_iff {t : TraitDecl} (o : Options) {m : Member}
    (hm : m ∈ (t.blueprint o).members) {element : Ty}
    (hreturn : m.property.returnType.IsSlice element ∨
      m.property.returnType.IsOptionalSlice element) (target : Target) :
    m.property.ty = .ownedList element ∧
      ((t.blueprint o).TreatsAsList target m element ↔
        m.property.returnType.IsSlice element ∨
          ¬ (t.blueprint o).Generates .display target ∧ (TypeKind.of element = .float →
            ¬ (t.blueprint o).Generates .equality target ∧
              ¬ (t.blueprint o).Generates .hashing target)) := by
  obtain ⟨attributes, s, p, -, hp, hclassify⟩ := TraitDecl.mem_members_iff.mp hm
  obtain ⟨-, hshape⟩ := Property.shape_of_ofGetter? hp
  have hproperty : m.property = p := by rw [hclassify, classify_property]
  rw [hproperty] at hreturn ⊢
  rcases hreturn with hslice | hslice
  · obtain ⟨hty, e, hrole⟩ := role_of_slice hshape hslice t.inventory.invocations
    rw [← hclassify] at hrole
    exact ⟨hty, fun _ => Or.inl hslice, fun _ => Blueprint.treatsAsList_of_list hrole⟩
  · obtain ⟨hty, e, hrole⟩ := role_of_optionalSlice hshape hslice t.inventory.invocations
    rw [← hclassify] at hrole
    refine ⟨hty, ?_⟩
    rw [Blueprint.treatsAsList_iff_of_optional hrole (hproperty ▸ hty) hm]
    refine ⟨Or.inr, fun h => h.resolve_left fun heq => ?_⟩
    rw [Ty.IsSlice] at heq
    have hoption := hslice.1
    rw [heq, Ty.isOption_reference] at hoption
    cases hoption

/-! ## Two traits -/

/-- The type `f64`. -/
def Ty.float : Ty := .ofIdent (plain "f64")

/-- The type `Option<ty>`. -/
def Ty.optional (ty : Ty) : Ty :=
  .applied (.ofIdent (plain "Option")) [.punct '<' false] ty [.punct '>' false]

/-- The type `&[element]`. -/
def Ty.sliceOf (element : Ty) : Ty := .reference none false (.slice element)

/-- The getters `xs`, of a slice of numbers, and `ys`, of an option of such a slice. -/
def sampleTrait : TraitDecl :=
  .ofGetters (plain "Samples")
    [(plain "xs", .sliceOf .float), (plain "ys", .optional (.sliceOf .float))]

/-- The member that the slice is. -/
def xsMember : Member :=
  ⟨⟨plain "xs", .sliceOf .float, .ownedList .float, .ref, []⟩, .list .float none⟩

/-- The member that the option of a slice is. -/
def ysMember : Member :=
  ⟨⟨plain "ys", .optional (.sliceOf .float), .ownedList .float, .optionRef true, []⟩,
    .optional none⟩

/-- The slice is treated as a list, and the option of a slice is not. -/
theorem sampleTrait_treatsAsList :
    (xsMember ∈ (sampleTrait.blueprint {}).members ∧
        xsMember.property.returnType.IsSlice .float ∧
      (sampleTrait.blueprint {}).TreatsAsList .value xsMember .float ∧
      (sampleTrait.blueprint {}).TreatsAsList .partialType xsMember .float) ∧
    ysMember ∈ (sampleTrait.blueprint {}).members ∧
      ysMember.property.returnType.IsOptionalSlice .float ∧
      ¬ (sampleTrait.blueprint {}).TreatsAsList .value ysMember .float ∧
      ¬ (sampleTrait.blueprint {}).TreatsAsList .partialType ysMember .float := by
  have hxs : xsMember ∈ (sampleTrait.blueprint {}).members := by decide
  have hys : ysMember ∈ (sampleTrait.blueprint {}).members := by decide
  have hslice : xsMember.property.returnType.IsSlice .float := rfl
  have hoptional : ysMember.property.returnType.IsOptionalSlice .float := ⟨rfl, rfl⟩
  have hvalue : (sampleTrait.blueprint {}).Generates .display .value := rfl
  have hpartial : (sampleTrait.blueprint {}).Generates .display .partialType := nofun
  have hother : ¬ ysMember.property.returnType.IsSlice .float := nofun
  refine ⟨⟨hxs, hslice, ?_, ?_⟩, hys, hoptional, fun h => ?_, fun h => ?_⟩
  · exact (TraitDecl.treatsAsList_iff {} hxs (Or.inl hslice) .value).2.mpr (Or.inl hslice)
  · exact (TraitDecl.treatsAsList_iff {} hxs (Or.inl hslice) .partialType).2.mpr (Or.inl hslice)
  · rcases (TraitDecl.treatsAsList_iff {} hys (Or.inr hoptional) .value).2.mp h with h | h
    · exact hother h
    · exact h.1 hvalue
  · rcases (TraitDecl.treatsAsList_iff {} hys (Or.inr hoptional) .partialType).2.mp h with h | h
    · exact hother h
    · exact h.1 hpartial

/-- The getter `x` of an option of a slice of integers. -/
def heldTrait : TraitDecl :=
  .ofGetters (plain "T") [(plain "x", .optional (.sliceOf .number))]

/-- Its only member, as it is classified. -/
def heldMember : Member :=
  ⟨⟨plain "x", .optional (.sliceOf .number), .ownedList .number, .optionRef true, []⟩,
    .optional none⟩

/-- The trait is accepted, but neither type treats its option of a slice as a list. -/
theorem heldTrait_not_treatsAsList :
    expand [] heldTrait = .ok (heldTrait.strip.tokens ++ (heldTrait.blueprint {}).tokens) ∧
      heldMember ∈ (heldTrait.blueprint {}).members ∧
      heldMember.property.returnType.IsOptionalSlice .number ∧
      ¬ (heldTrait.blueprint {}).TreatsAsList .value heldMember .number ∧
      ¬ (heldTrait.blueprint {}).TreatsAsList .partialType heldMember .number := by
  have hm : heldMember ∈ (heldTrait.blueprint {}).members := by decide
  have haccepted : heldTrait.Accepted [] {} := TraitDecl.accepted_ofGetters (by decide)
  have hvalue : (heldTrait.blueprint {}).Generates .display .value := rfl
  have hpartial : (heldTrait.blueprint {}).Generates .display .partialType := nofun
  refine ⟨TraitDecl.expand_of_valid haccepted (by decide), hm, ⟨rfl, rfl⟩, fun h => ?_,
    fun h => ?_⟩
  · exact Blueprint.not_displaysAsList rfl hm hvalue (h.display hvalue)
  · exact Blueprint.not_displaysAsList rfl hm hpartial (h.display hpartial)

end TraitBuilder
