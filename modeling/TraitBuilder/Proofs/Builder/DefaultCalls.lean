import TraitBuilder.Proofs.Builder.Copying

/-!
# Default values as calls of setters

An initial value and a setter are written separately for each part that a member can play.  Yet the
initial value that a default value makes is what the setter leaves in the field when it is called
with the default value, whatever was in the field before and whatever the libraries make of the
value: a single value and the value of an option are converted as the type that stores them says,
and a list takes the elements as they are.

* `Blueprint.takingLink`: what the builder's methods do when they call each other.
* `Member.taken?`: what a field holds once it has taken a value in.
* `Blueprint.default_agrees`: the initial value is what the setter leaves in the field.
-/

namespace TraitBuilder

open Code Meaning

variable {D : Type}

/-! ## Calls -/

namespace Blueprint

/-- What calls of the builder's methods do with an intake, followed to the given depth. -/
def takingLink (b : Blueprint) (u : Intake D) (given : Tokens → Value D) : Nat → Link D
  | 0 => ⟨fun _ _ _ _ => .error .stuck, fun _ _ _ => .error .stuck⟩
  | n + 1 => {
      method := fun mayChange receiver name arguments =>
        match receiver with
        | .record .builder _ =>
          match findFunction (b.builderFunctions.filter fun f =>
              f.receiver = .shared || (f.receiver = .mutable && mayChange)) name with
          | some f =>
            u.runFunction (b.context given .builder (b.takingLink u given n)) f receiver arguments
          | none => .error .stuck
        | _ => .error .stuck
      associated := fun _ _ _ => .error .stuck }

/-- A method that changes the builder is run when it is called by its name. -/
theorem method_takingLink {b : Blueprint} (hn : b.WellNamed) {f : Function}
    (hf : f ∈ b.builderFunctions) (hr : f.receiver = .mutable) (u : Intake D)
    (given : Tokens → Value D) (n : Nat) (fs : Fields D) (arguments : List (Value D)) :
    (b.takingLink u given (n + 1)).method true (builderOf fs) f.name arguments =
      u.runFunction (b.context given .builder (b.takingLink u given n)) f (builderOf fs)
        arguments := by
  have hfind : findFunction (b.builderFunctions.filter fun f =>
      f.receiver = .shared || (f.receiver = .mutable && true)) f.name = some f :=
    findFunction_filter hn.methods hf (by simp [hr])
  simp only [takingLink, hfind]

end Blueprint

/-! ## Fields -/

/-- Of two values for a field, the last one counts. -/
theorem Meaning.Fields.set_set (fs : Fields D) (x : Ident) (v w : Value D) :
    (fs.set x v).set x w = fs.set x w := by
  simp only [Fields.set, List.map_map]
  refine List.map_congr_left fun f _ => ?_
  by_cases h : f.1.name = x.name <;> simp [h]

namespace Member

/-- What the field of the member holds once it has taken a value in, if it can. -/
def taken? (m : Member) (u : Intake D) (v : Value D) : Option (Value D) :=
  match m.role with
  | .single _ => some (u.converted m.property.ty v)
  | .optional _ => some (.present (u.converted m.property.ty v))
  | .list _ _ => (u.items v).map .list

section Taking

variable {m : Member} {u : Intake D} {b : Blueprint} {k : Context D} {fs : Fields D}
  {v w : Value D}

/-- The initial value that a default value makes. -/
theorem evaluate_initial_taken {e : Expr} (he : m.role.default = some e)
    (hw : m.taken? u (k.given e.tokens) = some w) (env : Env D) :
    u.evaluate k env m.initial = .ok w := by
  have hgiven : u.evaluate k env (.given e.tokens) = .ok (k.given e.tokens) := by
    rw [Intake.evaluate]
  have hconverted : u.evaluate k env (setterConversion m.property.ty (.given e.tokens)) =
      .ok (u.converted m.property.ty (k.given e.tokens)) :=
    Intake.evaluate_setterConversion hgiven
  unfold taken? at hw
  unfold initial
  cases hrole : m.role with
  | single default =>
    obtain rfl : default = some e := by simpa [hrole, Role.default] using he
    simp only [hrole] at hw
    cases hw
    exact hconverted
  | optional default =>
    obtain rfl : default = some e := by simpa [hrole, Role.default] using he
    simp only [hrole] at hw
    cases hw
    exact Intake.evaluate_some hconverted
  | list element default =>
    obtain rfl : default = some e := by simpa [hrole, Role.default] using he
    simp only [hrole, Option.map_eq_some_iff] at hw
    obtain ⟨ws, hws, rfl⟩ := hw
    simp [Intake.evaluate, Intake.iterate, hws]

theorem evaluate_parameter (hself : m.name ≠ plain "self") (receiver v : Value D) :
    u.evaluate k ⟨receiver, [(m.name, v)]⟩ (setterConversion m.property.ty (.var m.name)) =
      .ok (u.converted m.property.ty v) :=
  Intake.evaluate_setterConversion (Intake.evaluate_var hself (by simp))

/-- The setter of a single value with a default value, or of an option, takes its argument in. -/
theorem run_setterMethod_taken (hself : m.name ≠ plain "self") {e : Expr}
    (he : m.role.default = some e) (hlist : ∀ element e, m.role ≠ .list element e)
    (hthere : fs.get? m.name ≠ none) (hw : m.taken? u v = some w) :
    Leaves (u.runFunction k (m.setterMethod b) (builderOf fs) [v]) (fs.set m.name w) := by
  have hvalue := evaluate_parameter (u := u) (k := k) hself (builderOf fs) v
  have hrun : u.executeAll k (m.setterStatements b) ⟨builderOf fs, [(m.name, v)]⟩ =
      .ok ⟨builderOf (fs.set m.name w), [(m.name, v)]⟩ := by
    unfold taken? at hw
    unfold setterStatements
    cases hrole : m.role with
    | single default =>
      obtain rfl : default = some e := by simpa [hrole, Role.default] using he
      simp only [hrole] at hw
      cases hw
      exact Intake.executeAll_single (Intake.execute_assign_own rfl hthere hvalue)
    | optional default =>
      simp only [hrole] at hw
      cases hw
      exact Intake.executeAll_single
        (Intake.execute_assign_own rfl hthere (Intake.evaluate_some hvalue))
    | list element default => exact absurd hrole (hlist element default)
  exact Intake.runFunction_changer rfl hrun

end Taking

end Member

/-! ## Calls of setters -/

namespace Blueprint

section Setters

variable {b : Blueprint} {m : Member} {u : Intake D} {fs : Fields D} {v w : Value D}
  (given : Tokens → Value D)

theorem call_bulkAdder_taken (hn : b.WellNamed) (hm : m ∈ b.members) {element : Ty}
    {e : Option Expr} (hrole : m.role = .list element e) {vs ws : List (Value D)}
    (hvs : fs.get? m.name = some (.list vs)) (hws : u.items v = some ws) (n : Nat) :
    Leaves ((b.takingLink u given (n + 1)).method true (builderOf fs) m.property.bulkAdder [v])
      (fs.set m.name (.list (vs ++ ws))) := by
  obtain ⟨f, hf, hname, hmut, hrun⟩ : ∃ f ∈ m.listAccessors b element,
      f.name = m.property.bulkAdder ∧ f.receiver = .mutable ∧ ∀ k : Context D,
        Leaves (u.runFunction k f (builderOf fs) [v]) (fs.set m.name (.list (vs ++ ws))) :=
    ⟨_, List.mem_cons_of_mem _ List.mem_cons_self, rfl, rfl,
      fun _ => Member.run_extend_taken hvs hws⟩
  have hmem : f ∈ b.builderFunctions :=
    accessor_mem_builderFunctions hm (by rw [Member.accessors, hrole]; exact hf)
  rw [Leaves, ← hname, method_takingLink hn hmem hmut]
  exact hrun _

/-- The setter of a list leaves the elements of its argument in the field. -/
theorem call_listSetter_taken (hn : b.WellNamed) (hm : m ∈ b.members) {element : Ty}
    {e : Option Expr} (hrole : m.role = .list element e) {vs ws : List (Value D)}
    (hvs : fs.get? m.name = some (.list vs)) (hws : u.items v = some ws) (n : Nat) :
    Leaves ((b.takingLink u given (n + 2)).method true (builderOf fs) m.property.setter [v])
      (fs.set m.name (.list ws)) := by
  have hempty : (fs.set m.name (.list [])).get? m.name = some (.list []) :=
    Fields.get?_set_self (by simp [hvs]) _
  have hadded := call_bulkAdder_taken given hn hm hrole hempty hws n
  rw [Fields.set_set, List.nil_append] at hadded
  obtain ⟨f, hf, hname, hmut, hrun⟩ : ∃ f ∈ m.listAccessors b element,
      f.name = m.property.setter ∧ f.receiver = .mutable ∧
        Leaves (u.runFunction (b.context given .builder (b.takingLink u given (n + 1))) f
          (builderOf fs) [v]) (fs.set m.name (.list ws)) :=
    ⟨_, List.mem_cons_of_mem _ (List.mem_cons_of_mem _ List.mem_cons_self), rfl, rfl,
      Member.run_replace_taken hvs hadded⟩
  have hmem : f ∈ b.builderFunctions :=
    accessor_mem_builderFunctions hm (by rw [Member.accessors, hrole]; exact hf)
  rw [Leaves, ← hname, method_takingLink hn hmem hmut]
  exact hrun

/-- The setter of a member with a default value takes its argument in. -/
theorem call_setter_taken (hd : b.Declarable) (hm : m ∈ b.members) {e : Expr}
    (he : m.role.default = some e) (hv : ∃ v, fs.get? m.name = some v ∧ m.Holds v)
    (hw : m.taken? u v = some w) (n : Nat) :
    Leaves ((b.takingLink u given (n + 2)).method true (builderOf fs) m.property.setter [v])
      (fs.set m.name w) := by
  obtain ⟨held, hheld, hholds⟩ := hv
  by_cases hlist : ∃ element e, m.role = .list element e
  · obtain ⟨element, default, hrole⟩ := hlist
    rw [Member.Holds, hrole] at hholds
    obtain ⟨vs, rfl⟩ := hholds
    rw [Member.taken?, hrole, Option.map_eq_some_iff] at hw
    obtain ⟨ws, hws, rfl⟩ := hw
    exact call_listSetter_taken given hd.toWellNamed hm hrole hheld hws n
  · have hlist : ∀ element e, m.role ≠ .list element e :=
      fun element e h => hlist ⟨element, e, h⟩
    have hmem : m.setterMethod b ∈ m.accessors b := by
      unfold Member.accessors
      cases hrole : m.role with
      | single => exact List.mem_cons_self
      | optional => exact List.mem_cons_self
      | list element default => exact absurd hrole (hlist element default)
    have hthere : fs.get? m.name ≠ none := by simp [hheld]
    rw [Leaves, show m.property.setter = (m.setterMethod b).name from rfl,
      method_takingLink hd.toWellNamed (accessor_mem_builderFunctions hm hmem) rfl]
    exact Member.run_setterMethod_taken (hd.receiver m hm) he hlist hthere hw

end Setters

/-! ## Default values -/

/-- What the constructor and the setter make of the default value `e` of a member: `fs` are the
fields before the setter is called. -/
structure DefaultAgrees (b : Blueprint) (u : Intake D) (given : Tokens → Value D) (m : Member)
    (e : Expr) (fs : Fields D) (w : Value D) : Prop where
  /-- The value is converted by its type, and a list takes the elements as they are. -/
  taken : m.taken? u (given e.tokens) = some w
  /-- The constructor initializes the field with the value. -/
  initial : ∃ t, (m.name, t) ∈ b.builderInitials ∧ ∀ link : Link D,
    u.evaluate (b.context given .builder link) ⟨.unit, []⟩ t = .ok w
  /-- The setter returns the builder. -/
  set : ∀ n, ∃ gs, Leaves ((b.takingLink u given (n + 2)).method true (builderOf fs)
    m.property.setter [given e.tokens]) gs ∧ gs.get? m.name = some w ∧
      ∀ x, x.name ≠ m.name.name → gs.get? x = fs.get? x

/-- A default value is a call of the setter: the initial value is what the setter leaves in the
field, whatever the field held and whatever the libraries make of the default value. -/
theorem default_agrees {b : Blueprint} (hd : b.Declarable) {m : Member} (hm : m ∈ b.members)
    {e : Expr} (he : m.role.default = some e) {u : Intake D} {given : Tokens → Value D}
    (hitems : ∀ element default, m.role = .list element default →
      ∃ ws, u.items (given e.tokens) = some ws)
    {fs : Fields D} (hheld : ∃ v, fs.get? m.name = some v ∧ m.Holds v) :
    ∃ w, b.DefaultAgrees u given m e fs w := by
  obtain ⟨w, hw⟩ : ∃ w, m.taken? u (given e.tokens) = some w := by
    unfold Member.taken?
    cases hrole : m.role with
    | single | optional => exact ⟨_, rfl⟩
    | list element default =>
      obtain ⟨ws, hws⟩ := hitems element default hrole
      exact ⟨_, by rw [hws, Option.map_some]⟩
  have hthere : fs.get? m.name ≠ none := by
    obtain ⟨v, hv, -⟩ := hheld
    simp [hv]
  refine ⟨w, hw, ⟨m.initial, ?_, fun link => ?_⟩, fun n => ⟨fs.set m.name w, ?_, ?_, ?_⟩⟩
  · exact List.mem_append_left _ (List.mem_map.mpr ⟨m, hm, rfl⟩)
  · exact Member.evaluate_initial_taken he hw _
  · exact call_setter_taken given hd hm he hheld hw n
  · exact Fields.get?_set_self hthere w
  · exact fun x hx => Fields.get?_set_of_ne hx fs w

end Blueprint

/-! ## A converted value and a list -/

/-- The constant `HOST`. -/
def hostConstant : Expr :=
  ⟨.path ⟨.ofIdent (plain "HOST"), .plain [], true⟩, [.ident (plain "HOST")]⟩

/-- The array `[7]`. -/
def sevenArray : Expr := ⟨.array, [.group .bracket [.literal "7"]]⟩

/-- The getter `host` of a text with the default value `HOST`, and the getter `ports` of a list with
the default value `[7]`. -/
def servedTrait : TraitDecl :=
  { TraitDecl.ofGetters (plain "Server") [] with
    items := [
      .method [.builder ([.ident (plain "default"), .punct '=' false] ++ hostConstant.tokens)]
        (.getter (plain "host") (.reference none false (.ofIdent (plain "str")))) none,
      .method [.builder ([.ident (plain "default"), .punct '=' false] ++ sevenArray.tokens)]
        (.getter (plain "ports") (.reference none false (.slice .number))) none] }

/-- Its blueprint without arguments. -/
def servedBlueprint : Blueprint := servedTrait.blueprint {}

/-- The member that the text is. -/
def hostMember : Member :=
  ⟨⟨plain "host", .reference none false (.ofIdent (plain "str")), .ownedText, .ref, []⟩,
    .single (some hostConstant)⟩

/-- The member that the list is. -/
def portsMember : Member :=
  ⟨⟨plain "ports", .reference none false (.slice .number), .ownedList .number, .ref, []⟩,
    .list .number (some sevenArray)⟩

/-- Every conversion leaves a mark, and lists yield their elements. -/
def markingIntake : Intake Unit := { Intake.keeping with into := .success }

/-- What `HOST` and `[7]` are. -/
def servedGiven (ts : Tokens) : Value Unit :=
  if ts = hostConstant.tokens then .text "localhost" else .list [.number 7]

/-- A builder whose fields were set to something else. -/
def servedFields : Fields Unit := [
  (plain "host", .text "example"),
  (plain "ports", .list [.number 80, .number 443])]

theorem servedBlueprint_declarable : servedBlueprint.Declarable where
  fields := by decide
  methods := by decide
  variants := by decide
  receiver := by decide

/-- The text is converted once by the constructor and by the setter, and both give the list its one
element. -/
theorem servedDefaults_agree : servedBlueprint.Declarable ∧
    (hostMember ∈ servedBlueprint.members ∧ ∃ w, servedBlueprint.DefaultAgrees markingIntake
      servedGiven hostMember hostConstant servedFields w) ∧
    portsMember ∈ servedBlueprint.members ∧ ∃ w, servedBlueprint.DefaultAgrees markingIntake
      servedGiven portsMember sevenArray servedFields w := by
  have hhost : hostMember ∈ servedBlueprint.members := by decide
  have hports : portsMember ∈ servedBlueprint.members := by decide
  have hd := servedBlueprint_declarable
  refine ⟨hd, ⟨hhost, ?_⟩, hports, ?_⟩
  · exact Blueprint.default_agrees hd hhost rfl nofun ⟨_, rfl, trivial⟩
  · exact Blueprint.default_agrees hd hports rfl (fun _ _ _ => ⟨_, rfl⟩) ⟨_, rfl, _, rfl⟩

example : hostMember.taken? markingIntake (servedGiven hostConstant.tokens) =
    some (.success (.text "localhost")) := rfl

end TraitBuilder
