import TraitBuilder.Proofs.Loading.Reports

/-!
# Default values and their getters

A default value does not stand beside its getter: it is the argument of a setter in a list that all
properties share, and a property takes the first argument given for a setter of its name.  Without
collisions all labels are different, so every property finds its own.

* `TraitItem.declared?`: the property that an item declares, with the default value of its own
  attributes.
* `argumentOf?_invocations`: a property finds its own default value if no two labels are the same.
* `default_of_getter`: so a member has exactly the default value that its getter declares, and it is
  required exactly if it is neither optional nor a list and has none.
-/

namespace TraitBuilder

/-! ## What an item declares -/

/-- The default value that a getter's own attributes give. -/
def ownDefault (attributes : List Attribute) : Option Expr :=
  match defaultOf? (builderAttributes attributes) with
  | .ok default => default
  | .error _ => none

/-- The property that an item declares, with the default value of its own attributes. -/
def TraitItem.declared? : TraitItem → Option (Property × Option Expr)
  | .method attributes signature none =>
    match Property.ofGetter? signature (keptAttributes attributes) with
    | .ok p => some (p, ownDefault attributes)
    | .error _ => none
  | _ => none

namespace Inventory

theorem ofGetter_declared (attributes : List Attribute) (s : Signature) :
    (ofGetter attributes s).properties =
        (TraitItem.method attributes s none).declared?.toList.map (·.1) ∧
      (ofGetter attributes s).invocations =
        (TraitItem.method attributes s none).declared?.toList.flatMap
          fun (p, default) => invocationsFor p default := by
  cases hp : Property.ofGetter? s (keptAttributes attributes) with
  | error fault => simp [ofGetter, TraitItem.declared?, hp]
  | ok p =>
    cases hd : defaultOf? (builderAttributes attributes) <;>
      simp [ofGetter, TraitItem.declared?, ownDefault, hp, hd]

theorem ofItem_declared (item : TraitItem) :
    (ofItem item).properties = item.declared?.toList.map (·.1) ∧
      (ofItem item).invocations =
        item.declared?.toList.flatMap fun (p, default) => invocationsFor p default := by
  unfold ofItem
  split
  · exact ofGetter_declared _ _
  · exact ⟨rfl, rfl⟩
  · exact ⟨rfl, rfl⟩
  · exact ⟨rfl, rfl⟩
  · rename_i hgetter _ _ _
    have hnone : item.declared? = none := by
      unfold TraitItem.declared?
      split
      · exact absurd rfl (hgetter _ _)
      · rfl
    simp [hnone]

/-- The properties and the calls of the constructor, item by item. -/
theorem ofItems_declared (items : List TraitItem) :
    (ofItems items).properties = (items.filterMap TraitItem.declared?).map (·.1) ∧
      (ofItems items).invocations = (items.filterMap TraitItem.declared?).flatMap
        fun (p, default) => invocationsFor p default := by
  induction items with
  | nil => exact ⟨rfl, rfl⟩
  | cons item rest ih =>
    obtain ⟨hproperties, hinvocations⟩ := ofItem_declared item
    cases hitem : item.declared? with
    | none => simp [ofItems, append_def, hproperties, hinvocations, hitem, ih]
    | some declared => simp [ofItems, append_def, hproperties, hinvocations, hitem, ih]

end Inventory

/-! ## Finding a default value -/

theorem Property.setter_inj {p q : Property} (h : p.setter = q.setter) : p.label = q.label := by
  have hname : "set_" ++ p.label = "set_" ++ q.label := congrArg Ident.name h
  exact (String.append_right_inj "set_").mp hname

theorem argumentOf?_append (as bs : List Invocation) (setter : Ident) :
    argumentOf? (as ++ bs) setter = (argumentOf? as setter).or (argumentOf? bs setter) := by
  unfold argumentOf?
  rw [List.find?_append]
  cases as.find? (·.setter = setter) <;> rfl

theorem argumentOf?_own (p : Property) (default : Option Expr) :
    argumentOf? (Inventory.invocationsFor p default) p.setter = default := by
  cases default <;> simp [Inventory.invocationsFor, argumentOf?]

theorem argumentOf?_other {p q : Property} (h : p.label ≠ q.label) (default : Option Expr) :
    argumentOf? (Inventory.invocationsFor q default) p.setter = none := by
  have hne : q.setter ≠ p.setter := fun heq => h (Property.setter_inj heq.symm)
  cases default <;> simp [Inventory.invocationsFor, argumentOf?, hne]

theorem argumentOf?_others {p : Property} {declared : List (Property × Option Expr)}
    (h : ∀ q ∈ declared, p.label ≠ q.1.label) :
    argumentOf? (declared.flatMap fun (q, default) => Inventory.invocationsFor q default)
      p.setter = none := by
  induction declared with
  | nil => rfl
  | cons q rest ih =>
    have hrest := ih fun q' hq' => h q' (List.mem_cons_of_mem q hq')
    rw [List.flatMap_cons, argumentOf?_append, hrest,
      argumentOf?_other (h q List.mem_cons_self)]
    rfl

/-- A property finds its own default value, or nothing if it has none. -/
theorem argumentOf?_invocations {declared : List (Property × Option Expr)}
    (hlabels : (declared.map (·.1.label)).Nodup) {p : Property} {default : Option Expr}
    (h : (p, default) ∈ declared) :
    argumentOf? (declared.flatMap fun (q, default) => Inventory.invocationsFor q default)
      p.setter = default := by
  induction declared with
  | nil => cases h
  | cons q rest ih =>
    rw [List.map_cons, List.nodup_cons] at hlabels
    obtain ⟨hfresh, hrest⟩ := hlabels
    rw [List.flatMap_cons, argumentOf?_append]
    -- its own argument is the first one, or it comes after those of other labels
    rcases List.mem_cons.mp h with rfl | h
    · have hothers : ∀ q' ∈ rest, p.label ≠ q'.1.label := by
        intro q' hq' heq
        exact hfresh (List.mem_map.mpr ⟨q', hq', heq.symm⟩)
      rw [argumentOf?_own, argumentOf?_others hothers, Option.or_none]
    · have hne : p.label ≠ q.1.label := by
        intro heq
        exact hfresh (List.mem_map.mpr ⟨_, h, heq⟩)
      rw [argumentOf?_other hne, ih hrest h]
      rfl

/-! ## Optional types and lists -/

/-- The elements of the list that a return type hands out: a slice behind a reference, or the
argument of a `Vec` there. -/
def Ty.listed? : Ty → Option Ty
  | .reference none false (.slice element) => some element
  | .reference none false referent =>
    match referent.lastName? with
    | some x => if x.is "Vec" then referent.firstArgument? else none
    | none => none
  | _ => none

theorem Ty.firstArgument?_of_bareName? {ty : Ty} {x : Ident} (h : ty.bareName? = some x) :
    ty.firstArgument? = none := by
  have hunwrapped := Ty.bareName?_eq_some_iff.mp h
  unfold Ty.firstArgument?
  rw [hunwrapped]
  rfl

theorem Ty.listed?_of_not_slice {referent : Ty} (h : ∀ element, referent ≠ .slice element) :
    (Ty.reference none false referent).listed? =
      match referent.lastName? with
      | some x => if x.is "Vec" then referent.firstArgument? else none
      | none => none := by
  cases referent <;> first | rfl | exact absurd rfl (h _)

/-- What is stored of a reference is a list exactly if the reference is to one. -/
theorem listElement?_of_ref {p : Property} {referent : Ty} (hshape : p.shape = .ref)
    (hty : p.ty = (referentStorage referent).1) :
    p.listElement? = (Ty.reference none false referent).listed? := by
  by_cases hslice : ∃ element, referent = .slice element
  · obtain ⟨element, rfl⟩ := hslice
    simp only [Property.listElement?, hshape, hty]
    rfl
  · have hlisted := Ty.listed?_of_not_slice fun element heq => hslice ⟨element, heq⟩
    rw [hlisted]
    cases hbare : referent.bareName? with
    | none =>
      have hstored : p.ty = referent := by
        rw [hty]
        unfold referentStorage
        split <;> simp_all
      simp only [Property.listElement?, hshape, hstored]
      cases referent.lastName? <;> rfl
    | some x =>
      -- a bare name has no argument, and `str` is stored as a type of another name than `Vec`
      have hargument := Ty.firstArgument?_of_bareName? hbare
      have hstored : p.ty = .ownedText ∨ p.ty = referent := by
        rw [hty]
        unfold referentStorage
        split <;> simp_all
        split <;> simp
      rcases hstored with hstored | hstored
      · simp only [Property.listElement?, hshape, hstored]
        cases referent.lastName? <;> simp [hargument] <;> rfl
      · simp only [Property.listElement?, hshape, hstored]
        cases referent.lastName? <;> rfl

theorem listElement?_of_shape_ne {p : Property} (h : p.shape ≠ .ref) : p.listElement? = none := by
  unfold Property.listElement?
  split
  · exact absurd ‹_› h
  · rfl

theorem Ty.isOption_reference (lifetime : Option Ident) (isMut : Bool) (referent : Ty) :
    (Ty.reference lifetime isMut referent).isOption = false := rfl

theorem Shape.ofReference?_cases {lifetime : Option Ident} {isMut : Bool}
    {asIs stored found : Shape × Ty} (h : ofReference? lifetime isMut asIs stored = .ok found) :
    isMut = false ∧
      (lifetime = none ∧ found = stored ∨ (∃ x, lifetime = some x) ∧ found = asIs) := by
  unfold ofReference? at h
  split at h
  · cases h
  · rename_i hmut
    refine ⟨by simpa using hmut, ?_⟩
    split at h
    · cases h
      exact Or.inl ⟨rfl, rfl⟩
    · split at h
      · cases h
        exact Or.inr ⟨⟨_, rfl⟩, rfl⟩
      · cases h

theorem Shape.nullable_of_ofOptionArgument? {argument ty : Ty} {shape : Shape}
    (h : ofOptionArgument? argument = .ok (shape, ty)) :
    shape = .optionOwned ∨ ∃ deref, shape = .optionRef deref := by
  unfold ofOptionArgument? at h
  split at h
  · obtain ⟨-, ⟨-, hfound⟩ | ⟨-, hfound⟩⟩ := ofReference?_cases h
    · exact Or.inr ⟨_, (Prod.mk.inj hfound).1⟩
    · exact Or.inl (Prod.mk.inj hfound).1
  · cases h
    exact Or.inl rfl

/-- Whether a property is a list or optional can be read off its return type. -/
theorem classes_of_returnType {p : Property}
    (h : Shape.ofReturnType? p.returnType = .ok (p.shape, p.ty)) :
    p.listElement? = p.returnType.listed? ∧ p.isNullable = p.returnType.isOption := by
  unfold Shape.ofReturnType? at h
  split at h
  · rename_i lifetime isMut referent hreturn
    obtain ⟨rfl, ⟨rfl, hfound⟩ | ⟨⟨x, rfl⟩, hfound⟩⟩ := Shape.ofReference?_cases h
    · obtain ⟨hshape, hty⟩ := Prod.mk.inj hfound
      rw [hreturn, listElement?_of_ref hshape hty]
      exact ⟨rfl, by simp [Property.isNullable, hshape, Ty.isOption_reference]⟩
    · obtain ⟨hshape, -⟩ := Prod.mk.inj hfound
      rw [hreturn, listElement?_of_shape_ne (by simp [hshape])]
      exact ⟨rfl, by simp [Property.isNullable, hshape, Ty.isOption_reference]⟩
  · rename_i hreference
    have hlisted : p.returnType.listed? = none := by
      unfold Ty.listed?
      split <;> first | rfl | exact absurd ‹_› (hreference _ _ _)
    rw [hlisted]
    split at h
    · rename_i hoption
      split at h
      · rw [hoption]
        have hshape : p.shape ≠ .ref ∧ p.isNullable = true := by
          rcases Shape.nullable_of_ofOptionArgument? h with hshape | ⟨deref, hshape⟩ <;>
            simp [Property.isNullable, hshape]
        exact ⟨listElement?_of_shape_ne hshape.1, hshape.2⟩
      · cases h
    · rename_i hoption
      obtain ⟨hshape, -⟩ := Prod.mk.inj (Except.ok.inj h)
      have hshape' : p.shape = .owned := hshape.symm
      exact ⟨listElement?_of_shape_ne (by simp [hshape']), by
        simp [Property.isNullable, hshape', hoption]⟩

theorem Property.shape_of_ofGetter? {s : Signature} {attributes : List Attribute} {p : Property}
    (h : Property.ofGetter? s attributes = .ok p) :
    s.output = some p.returnType ∧ Shape.ofReturnType? p.returnType = .ok (p.shape, p.ty) := by
  unfold Property.ofGetter? at h
  grind

/-! ## Members -/

theorem isRequired_classify (invocations : List Invocation) (p : Property) :
    (classify invocations p).isRequired = true ↔
      p.listElement? = none ∧ p.isNullable = false ∧ argumentOf? invocations p.setter = none := by
  unfold classify Member.isRequired Member.need
  cases p.listElement? with
  | some element => simp
  | none =>
    cases p.isNullable with
    | true => simp
    | false => cases argumentOf? invocations p.setter <;> simp

theorem problems_eq_nil_of_mem {t : TraitDecl} (h : t.problems = []) {item : TraitItem}
    (hitem : item ∈ t.items) : (Inventory.ofItems [item]).problems = [] := by
  have hall : t.inventory.problems = [] := (List.append_eq_nil_iff.mp h).1
  rw [TraitDecl.inventory, Inventory.problems_ofItems, List.flatMap_eq_nil_iff] at hall
  exact hall item hitem

theorem faults_ne_nil_of_defaultOf? {attributes : List Attribute} {faults : List ArgumentFault}
    (h : defaultOf? attributes = .error faults) : faults ≠ [] := by
  unfold defaultOf? Reading.result at h
  split at h
  · cases h
  · rename_i hfaults
    cases h
    simpa using hfaults

/-- A getter of a trait without problems is a property, and its attributes are in order. -/
theorem declared_of_getter {t : TraitDecl} (h : t.problems = []) {attributes : List Attribute}
    {s : Signature} (hitem : .method attributes s none ∈ t.items) :
    ∃ p default, Property.ofGetter? s (keptAttributes attributes) = .ok p ∧
      defaultOf? (builderAttributes attributes) = .ok default ∧
      (TraitItem.method attributes s none).declared? = some (p, default) := by
  have halone := problems_eq_nil_of_mem h hitem
  rw [Inventory.problems_ofGetter, List.append_eq_nil_iff] at halone
  obtain ⟨hfaults, hfault⟩ := halone
  unfold attributeFaults at hfaults
  unfold getterFault? at hfault
  cases hp : Property.ofGetter? s (keptAttributes attributes) with
  | error fault => simp [hp] at hfault
  | ok p =>
    cases hd : defaultOf? (builderAttributes attributes) with
    | ok default => exact ⟨p, default, rfl, rfl, by simp [TraitItem.declared?, ownDefault, hp, hd]⟩
    | error faults =>
      rw [hd, List.map_eq_nil_iff] at hfaults
      exact absurd hfaults (faults_ne_nil_of_defaultOf? hd)

theorem declared_label_nodup_of_collisions {t : TraitDecl} (h : collisions t.members = []) :
    ((t.items.filterMap TraitItem.declared?).map (·.1.label)).Nodup := by
  have hlabels := label_nodup_of_collisions_eq_nil h
  have heq : t.members.map Member.label =
      (t.items.filterMap TraitItem.declared?).map (·.1.label) := by
    rw [TraitDecl.members, TraitDecl.inventory, (Inventory.ofItems_declared t.items).1]
    simp [Member.label, Function.comp_def]
  exact heq ▸ hlabels

theorem declared_label_nodup {t : TraitDecl} (h : t.problems = []) :
    ((t.items.filterMap TraitItem.declared?).map (·.1.label)).Nodup :=
  declared_label_nodup_of_collisions (List.append_eq_nil_iff.mp h).2

/-- In a trait without problems every getter is a property and its attributes are in order.  The
member that it becomes has the default value that they give, if they give one, and it is required
exactly if its return type is neither optional nor a list and they give none. -/
theorem default_of_getter {t : TraitDecl} (h : t.problems = []) {attributes : List Attribute}
    {s : Signature} (hitem : .method attributes s none ∈ t.items) :
    ∃ p default, Property.ofGetter? s (keptAttributes attributes) = .ok p ∧
      defaultOf? (builderAttributes attributes) = .ok default ∧
      s.output = some p.returnType ∧
      classify t.inventory.invocations p ∈ t.members ∧
      (classify t.inventory.invocations p).role.default = default ∧
      ((classify t.inventory.invocations p).isRequired = true ↔
        p.returnType.isOption = false ∧ p.returnType.listed? = none ∧ default = none) := by
  obtain ⟨p, default, hp, hdefault, hdeclared⟩ := declared_of_getter h hitem
  obtain ⟨houtput, hshape⟩ := Property.shape_of_ofGetter? hp
  obtain ⟨hlist, hnullable⟩ := classes_of_returnType hshape
  have hfound : argumentOf? t.inventory.invocations p.setter = default := by
    rw [TraitDecl.inventory, (Inventory.ofItems_declared t.items).2]
    exact argumentOf?_invocations (declared_label_nodup h)
      (List.mem_filterMap.mpr ⟨_, hitem, hdeclared⟩)
  refine ⟨p, default, hp, hdefault, houtput, ?_, ?_, ?_⟩
  · exact TraitDecl.mem_members_iff.mpr ⟨attributes, s, p, hitem, hp, rfl⟩
  · rw [classify_default, hfound]
  · rw [isRequired_classify, hlist, hnullable, hfound]
    exact and_left_comm

/-! ## A trait with a default value -/

/-- The attribute `#[builder(default = 18)]`. -/
def defaultAttribute : Attribute :=
  .builder [.ident (Code.plain "default"), .punct '=' false, .literal "18"]

/-- The getters `height`, and `age` with a default value. -/
def agedTrait : TraitDecl :=
  { TraitDecl.ofGetters (Code.plain "T") [] with
    items := [
      .method [] (.getter (Code.plain "height") .number) none,
      .method [defaultAttribute] (.getter (Code.plain "age") .number) none] }

theorem agedTrait_default : agedTrait.problems = [] ∧
    TraitItem.method [defaultAttribute] (.getter (Code.plain "age") .number) none ∈
      agedTrait.items ∧
    ∃ p default,
      Property.ofGetter? (.getter (Code.plain "age") .number) (keptAttributes [defaultAttribute]) =
        .ok p ∧
      defaultOf? (builderAttributes [defaultAttribute]) = .ok default ∧
      default = some ⟨.literal (.token false "18"), [.literal "18"]⟩ ∧
      (classify agedTrait.inventory.invocations p).role.default = default ∧
      (classify agedTrait.inventory.invocations p).isRequired = false := by
  have hproblems : agedTrait.problems = [] := by decide
  have hitem : TraitItem.method [defaultAttribute] (.getter (Code.plain "age") .number) none ∈
      agedTrait.items := by decide
  obtain ⟨p, default, hp, hdefault, -, -, hown, hrequired⟩ := default_of_getter hproblems hitem
  have hgiven : default = some ⟨.literal (.token false "18"), [.literal "18"]⟩ := by
    have hvalue : defaultOf? (builderAttributes [defaultAttribute]) =
        .ok (some ⟨.literal (.token false "18"), [.literal "18"]⟩) := by decide
    exact Except.ok.inj (hdefault.symm.trans hvalue)
  refine ⟨hproblems, hitem, p, default, hp, hdefault, hgiven, hown, ?_⟩
  simpa [hgiven] using hrequired

end TraitBuilder
