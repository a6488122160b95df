import TraitBuilder.Proofs.Builder.Copying
import TraitBuilder.Proofs.Comparison.Agreement
import TraitBuilder.Proofs.Comparison.Slices

/-!
# The text of a display

What a display writes as one text, when every stored value renders to a text of its own.  The
members that are present are written in the order of declaration, and a comma stands before each of
them but the first.  Where no member may be absent the position decides about the comma, and where
one may be absent a variable does, which is empty until a member has been written.

* `textOf_pieces`: a member is written as its label and its value, a list in brackets.
* `Blueprint.writes_displayMembers`: members one after the other, which may follow others.
* `Blueprint.display_joined`: the text of an instance of a built type.
-/

namespace TraitBuilder

open Code Meaning

variable {D : Type}

/-! ## Pieces as text -/

namespace Meaning

/-- The text of a piece, where values render to texts. -/
def Piece.rendered (render : Value D → String) : Piece D → String
  | .text s => s
  | .shown v => render v

/-- The text of pieces one after the other. -/
def textOf (render : Value D → String) (ps : List (Piece D)) : String :=
  String.join (ps.map (Piece.rendered render))

/-- What a body hands to the formatter, the last piece by its outcome. -/
def writeBody (k : Context D) (texts : Ident → Ident → Option String) (formatter : Ident)
    (body : Body) (env : Env D) : Answer D (List (Piece D)) := do
  let (pieces, after) ← writeAll k texts formatter body.statements env
  match body.outcome with
  | .term t =>
    let (last, _) ← write k texts formatter (.run (.orReturn t)) after
    return pieces ++ last
  | _ => .error .stuck

/-- The text that a function writes of its receiver to the formatter that it is given. -/
def writtenText (k : Context D) (texts : Ident → Ident → Option String)
    (render : Value D → String) (f : Function) (receiver : Value D) : Answer D String :=
  match f.parameters with
  | [(formatter, _)] => do
    return textOf render (← writeBody k texts formatter f.body ⟨receiver, []⟩)
  | _ => .error .stuck

variable {render : Value D → String}

@[simp] theorem textOf_nil : textOf render [] = "" := rfl

@[simp] theorem textOf_cons (p : Piece D) (ps : List (Piece D)) :
    textOf render (p :: ps) = p.rendered render ++ textOf render ps := by
  simp [textOf]

@[simp] theorem textOf_append (ps qs : List (Piece D)) :
    textOf render (ps ++ qs) = textOf render ps ++ textOf render qs := by
  simp [textOf]

theorem textOf_intersperse (separator : String) (vs : List (Value D)) :
    textOf render ((vs.map .shown).intersperse (.text separator)) =
      separator.intercalate (vs.map render) := by
  induction vs with
  | nil => rfl
  | cons v vs ih =>
    cases vs with
    | nil => simp [Piece.rendered]
    | cons w vs =>
      rw [List.map_cons, List.map_cons, List.intersperse_cons_cons, ← List.map_cons, textOf_cons,
        textOf_cons, ih, List.map_cons, List.map_cons, List.map_cons,
        String.intercalate_cons_cons, String.append_assoc]
      rfl

theorem writeBody_of_writes {k : Context D} {texts : Ident → Ident → Option String}
    {formatter : Ident} {ss : List Statement} {t : Term} {env after last : Env D}
    {ps qs : List (Piece D)} (hstatements : Writes k texts formatter ss env ps after)
    (hlast : write k texts formatter (.run (.orReturn t)) after = .ok (qs, last)) :
    writeBody k texts formatter ⟨ss, .term t⟩ env = .ok (ps ++ qs) := by
  unfold Writes at hstatements
  simp [writeBody, hstatements, hlast]

/-- What stands before a text that may follow others. -/
def comma (started : Bool) : String := if started then ", " else ""

/-- Texts with commas between them, which may follow others. -/
def following (started : Bool) : List String → String
  | [] => ""
  | x :: xs => comma started ++ (x ++ following true xs)

theorem following_eq_intercalate (xs : List String) : following false xs = ", ".intercalate xs := by
  cases xs with
  | nil => simp [following]
  | cons x xs =>
    rw [following, comma, if_neg Bool.false_ne_true, String.empty_append]
    induction xs generalizing x with
    | nil => simp [following]
    | cons y ys ih =>
      rw [following, comma, if_pos rfl, ih, String.intercalate_cons_cons, String.append_assoc]

end Meaning

/-! ## Members -/

namespace Member

/-- The text of the stored value `v`, of a list in brackets. -/
def rendered (render : Value D → String) (m : Member) (v : Value D) : String :=
  match m.layout, v with
  | .list, .list vs => "[" ++ ", ".intercalate (vs.map render) ++ "]"
  | _, v => render v

theorem textOf_pieces (render : Value D → String) (m : Member) (v : Value D) :
    textOf render (m.pieces v) = m.label ++ "=" ++ m.rendered render v := by
  unfold pieces rendered
  rw [textOf_cons]
  split
  · simp_all [textOf_intersperse, Piece.rendered, String.append_assoc]
  · simp_all [Piece.rendered]

end Member

namespace Target

/-- The fields hold something for the member that looks as the type stores it. -/
def Lays (t : Target) (fs : Fields D) (m : Member) : Prop :=
  ∃ v, fs.get? m.name = some v ∧ (t.layout m = .optional → v.IsOption) ∧
    (m.layout = .list → v.IsList)

/-- What the fields hold of the member, if it is present. -/
def content? (t : Target) (fs : Fields D) (m : Member) : Option (Value D) :=
  match t.layout m, fs.get? m.name with
  | .optional, some (.present v) => some v
  | .optional, _ => none
  | _, held => held

/-- The text of the member, if it is present. -/
def memberText? (t : Target) (render : Value D → String) (fs : Fields D) (m : Member) :
    Option String :=
  (t.content? fs m).map fun v => m.label ++ "=" ++ m.rendered render v

theorem layout_of_layout_list {m : Member} (h : m.layout = .list) (t : Target) :
    t.layout m = .list := by
  unfold Member.layout at h
  split at h
  · cases h
  · cases h
  · exact Member.layout_of_list ‹_› t

/-- A member is present, and then the field holds it as it is stored, or it is absent. -/
theorem Lays.cases {t : Target} {fs : Fields D} {m : Member} (h : t.Lays fs m) :
    (∃ v, t.content? fs m = some v ∧ (m.layout = .list → v.IsList) ∧
        fs.get? m.name = some (if t.layout m = .optional then .present v else v)) ∨
      t.content? fs m = none ∧ t.layout m = .optional ∧ fs.get? m.name = some .absent := by
  obtain ⟨v, hv, hoption, hlist⟩ := h
  by_cases hoptional : t.layout m = .optional
  · have hplain : m.layout ≠ .list := by
      intro hl
      rw [layout_of_layout_list hl t] at hoptional
      cases hoptional
    rcases hoption hoptional with rfl | ⟨w, rfl⟩
    · exact Or.inr ⟨by simp [content?, hoptional, hv], hoptional, hv⟩
    · refine Or.inl ⟨w, by simp [content?, hoptional, hv], fun hl => absurd hl hplain, ?_⟩
      rw [if_pos hoptional, hv]
  · refine Or.inl ⟨v, ?_, hlist, by rw [if_neg hoptional, hv]⟩
    unfold content?
    split <;> simp_all

end Target

namespace Blueprint

variable {b : Blueprint} {t : Target} {k : Context D} {env : Env D} {render : Value D → String}
  {kind : Kind} {fs : Fields D} {started : Bool} {index : Nat}

/-- Where no variable holds the separator, the position tells whether a member was written. -/
def PlacedAt (b : Blueprint) (t : Target) (started : Bool) (index : Nat) : Prop :=
  b.variesSeparator t = false → (started = true ↔ index ≠ 0)

theorem textOf_lead (hplace : b.PlacedAt t started index) :
    textOf render ((b.lead t index (comma started)).map .text) = comma started := by
  unfold lead
  by_cases hvaries : b.variesSeparator t = true
  · simp [hvaries, Piece.rendered]
  · have hstarted := hplace (by simpa using hvaries)
    by_cases hindex : index = 0
    · have hfirst : started = false := by simpa [hindex] using hstarted
      simp [hvaries, hindex, hfirst, comma]
    · have hlater : started = true := hstarted.mpr hindex
      simp [hvaries, hindex, hlater, comma, Piece.rendered]

theorem separates_afterMember (hseparator : b.Separates t (comma started) env) :
    b.Separates t (comma true) (b.afterMember t env) := by
  intro hvaries
  have hthere := hseparator hvaries
  rw [afterMember, if_pos hvaries]
  exact Fields.get?_set_self (by simp [hthere]) _

theorem self_afterMember (b : Blueprint) (t : Target) (env : Env D) :
    (b.afterMember t env).self = env.self := by
  unfold afterMember
  split <;> rfl

/-- Where a member may be absent and no variable holds the separator, there is no other member. -/
theorem length_le_one_of_absent (hvaries : b.variesSeparator t = false) {m : Member}
    (hm : m ∈ b.members) (hoptional : t.layout m = .optional) : b.members.length ≤ 1 := by
  have hlack : b.mayLack t = true := List.any_eq_true.mpr ⟨m, hm, by simpa using hoptional⟩
  simpa [variesSeparator, hlack] using hvaries

/-- Members that are written one after the other from some position on: those that are present,
with a comma before the first if others were written before. -/
theorem writes_displayMembers (render : Value D → String)
    (hdisplay : b.standards.display ≠ .final) {rest : List Member}
    (hrest : b.members.drop index = rest) (hself : env.self = .record kind fs)
    (hlays : ∀ m ∈ b.members, t.Lays fs m) (hseparator : b.Separates t (comma started) env)
    (hplace : rest ≠ [] → b.PlacedAt t started index) :
    ∃ ps after, Writes k b.texts formatterVar (b.displayMembers t index rest) env ps after ∧
      textOf render ps = following started (rest.filterMap (t.memberText? render fs)) := by
  induction rest generalizing index started env with
  | nil => exact ⟨[], env, .nil env, rfl⟩
  | cons m rest ih =>
    have hmember : b.members[index]? = some m := by
      rw [← List.head?_drop, hrest, List.head?_cons]
    have hm : m ∈ b.members := List.mem_of_getElem? hmember
    have hdrop : b.members.drop (index + 1) = rest := by
      rw [← List.drop_drop, hrest, List.drop_one, List.tail_cons]
    have hhere : b.PlacedAt t started index := hplace (List.cons_ne_nil m rest)
    rcases (hlays m hm).cases with ⟨v, hcontent, hlist, hv⟩ | ⟨hcontent, hoptional, hv⟩
    · have hwrites := writes_displayMember (k := k) hself hseparator
        (needsJoiner_of_member hdisplay hmember) hv hlist
      have hplace' : b.PlacedAt t true (index + 1) := fun _ => by simp
      obtain ⟨ps, after, hmore, htext⟩ := ih hdrop ((b.self_afterMember t env).trans hself)
        (separates_afterMember hseparator) fun _ => hplace'
      have htext' : t.memberText? render fs m = some (m.label ++ "=" ++ m.rendered render v) := by
        rw [Target.memberText?, hcontent, Option.map_some]
      refine ⟨_, after, hwrites.append hmore, ?_⟩
      rw [List.filterMap_cons_some htext', following, textOf_append, textOf_append,
        textOf_lead hhere, Member.textOf_pieces, htext, String.append_assoc]
    -- nothing is written, so nothing changes; without a variable no member is left
    · have hwrites : Writes k b.texts formatterVar (b.displayMember t index m) env [] env :=
        writes_displayMember_absent hself hoptional hv
      have hlast : rest ≠ [] → b.PlacedAt t started (index + 1) := by
        intro hne hvaries
        have hone := length_le_one_of_absent hvaries hm hoptional
        have hlength : rest.length = b.members.length - (index + 1) := by
          rw [← hdrop, List.length_drop]
        exact absurd (List.eq_nil_of_length_eq_zero (by omega)) hne
      obtain ⟨ps, after, hmore, htext⟩ := ih hdrop hself hseparator hlast
      have htext' : t.memberText? render fs m = none := by
        rw [Target.memberText?, hcontent, Option.map_none]
      refine ⟨_, after, hwrites.append hmore, ?_⟩
      rw [List.filterMap_cons_none htext', List.nil_append, htext]

/-! ## Instances -/

/-- The text of an instance: the name of the trait, in a partial after a mark, and in braces the
members that are present. -/
def displayedText (b : Blueprint) (t : Target) (render : Value D → String) (fs : Fields D) :
    String :=
  (match t with
    | .value => ""
    | .partialType => "partial ") ++ b.typeName.spelling ++ "\x7b" ++
    ", ".intercalate (b.members.filterMap (t.memberText? render fs)) ++ "\x7d"

/-- All statements of a display, the first of which writes what stands before the members. -/
theorem writes_displayBody (render : Value D → String) (hdisplay : b.standards.display ≠ .final)
    (hself : env.self = .record kind fs) (hlays : ∀ m ∈ b.members, t.Lays fs m) :
    ∃ ps after, Writes k b.texts formatterVar (b.displayBody t).statements env ps after ∧
      textOf render ps = b.displayOpening t ++
        ", ".intercalate (b.members.filterMap (t.memberText? render fs)) := by
  have hbegins : ∃ env', Writes k b.texts formatterVar
      (if b.variesSeparator t then [.bind true separatorVar (.text "")] else []) env [] env' ∧
        env'.self = .record kind fs ∧ b.Separates t (comma false) env' := by
    by_cases hvaries : b.variesSeparator t = true
    · rw [if_pos hvaries]
      exact ⟨env.bind separatorVar (.text ""), .single rfl, hself,
        fun _ => Fields.get?_cons_self _ _ _⟩
    · rw [if_neg hvaries]
      exact ⟨env, .nil env, hself, fun h => absurd h hvaries⟩
  obtain ⟨env', hbind, hself', hseparator⟩ := hbegins
  have hplace : b.members ≠ [] → b.PlacedAt t false 0 := fun _ _ => by simp
  obtain ⟨ps, after, hmembers, htext⟩ := writes_displayMembers (k := k) render hdisplay
    List.drop_zero hself' hlays hseparator hplace
  refine ⟨_, after, .cons (write_literal (b.displayOpening t)) (hbind.append hmembers), ?_⟩
  rw [List.nil_append, List.singleton_append, textOf_cons, htext, following_eq_intercalate]
  rfl

/-- The function that displays instances member by member. -/
def displayFunction (b : Blueprint) (t : Target) : Function :=
  formatFunction (if b.variesSeparator t then [.allow "unused_assignments"] else [])
    (b.displayBody t)

theorem displayItems_of_generates (h : b.Generates .display t) :
    b.displayItems t = [derivedImpl displayTrait (t.name b) [b.displayFunction t]] := by
  unfold displayItems
  cases t with
  | value =>
    have habsent : b.standards.display = .absent := h
    rw [habsent]
    rfl
  | partialType =>
    cases hdisplay : b.standards.display with
    | final => exact absurd hdisplay h
    | overridable | absent => rfl

/-- Where the display of a type is generated member by member, it is a single function, and that
writes of any instance the text with the members that are present, separated by commas. -/
theorem display_joined (hgenerates : b.Generates .display t) (k : Context D)
    (render : Value D → String) (hlays : ∀ m ∈ b.members, t.Lays fs m) :
    ∃ f, b.displayItems t = [derivedImpl displayTrait (t.name b) [f]] ∧
      writtenText k b.texts render f (.record t.kind fs) = .ok (b.displayedText t render fs) := by
  refine ⟨b.displayFunction t, displayItems_of_generates hgenerates, ?_⟩
  have hself : (Env.mk (.record t.kind fs) []).self = .record t.kind fs := rfl
  obtain ⟨ps, after, hwrites, htext⟩ :=
    writes_displayBody (k := k) render hgenerates.displayed hself hlays
  have hbody : writeBody k b.texts formatterVar (b.displayBody t) ⟨.record t.kind fs, []⟩ =
      .ok (ps ++ [.text "\x7d"]) :=
    writeBody_of_writes hwrites (write_literal "\x7d")
  have hwritten : writtenText k b.texts render (b.displayFunction t) (.record t.kind fs) =
      .ok (textOf render (ps ++ [.text "\x7d"])) := by
    simp only [writtenText, displayFunction, formatFunction, hbody]
    rfl
  rw [hwritten, textOf_append, htext]
  unfold displayedText displayOpening
  cases t <;> simp [Piece.rendered, String.append_assoc]

end Blueprint

/-! ## A book -/

/-- A partial book without a width. -/
def lentBook : Fields Unit := [
  (plain "width", .absent),
  (plain "age", .number 1),
  (plain "owner", .present (.number 4)),
  (plain "pages", .list [.number 5, .number 6]),
  (unsetField, .set [plain "Width"])]

/-- Numbers as digits. -/
def digits : Value Unit → String
  | .number n => toString n
  | _ => ""

theorem lentBook_lays : ∀ m ∈ bookBlueprint.members, Target.partialType.Lays lentBook m := by
  have hmembers : ∀ m ∈ bookBlueprint.members, (m.name, m.partialLayout, m.layout) ∈ [
      (plain "width", Layout.optional, Layout.plain), (plain "age", .plain, .plain),
      (plain "owner", .optional, .optional), (plain "pages", .list, .list)] := by
    decide
  intro m hm
  have hcases := hmembers m hm
  simp only [List.mem_cons, Prod.mk.injEq, List.not_mem_nil, or_false] at hcases
  rcases hcases with ⟨hname, ht, hl⟩ | ⟨hname, ht, hl⟩ | ⟨hname, ht, hl⟩ | ⟨hname, ht, hl⟩
  · exact ⟨.absent, by rw [hname]; rfl, fun _ => Or.inl rfl, by simp [hl]⟩
  · exact ⟨.number 1, by rw [hname]; rfl, by simp [Target.layout, ht], by simp [hl]⟩
  · exact ⟨.present (.number 4), by rw [hname]; rfl, fun _ => Or.inr ⟨_, rfl⟩, by simp [hl]⟩
  · exact ⟨.list [.number 5, .number 6], by rw [hname]; rfl, by simp [Target.layout, ht],
      fun _ => ⟨_, rfl⟩⟩

/-- No comma stands before the age, which is the first member that is present. -/
theorem lentBook_displayed : bookBlueprint.Generates .display .partialType ∧
    (∀ m ∈ bookBlueprint.members, Target.partialType.Lays lentBook m) ∧
    ∃ f, bookBlueprint.displayItems .partialType =
        [derivedImpl displayTrait bookBlueprint.partialType [f]] ∧
      writtenText (bookBlueprint.context (fun _ => .unit) .partialType
          (bookBlueprint.link (fun _ => .unit) 0)) bookBlueprint.texts digits f
        (.record .partialType lentBook) =
        .ok "partial Book\x7bage=1, owner=4, pages=[5, 6]\x7d" := by
  have hgenerates : bookBlueprint.Generates .display .partialType := nofun
  have htext : bookBlueprint.displayedText .partialType digits lentBook =
      "partial Book\x7bage=1, owner=4, pages=[5, 6]\x7d" := by decide
  rw [← htext]
  exact ⟨hgenerates, lentBook_lays,
    Blueprint.display_joined hgenerates _ digits lentBook_lays⟩

end TraitBuilder
