import TraitBuilder.Proofs.Builder.State
import TraitBuilder.Proofs.Meaning.Writing

/-!
# Members in a display

The statements of a display that belong to one member write the separator before it, its label and
what is stored, a list element by element.  An absent member writes nothing.  Where a variable holds
the separator, it holds a comma after the first member that is written.

* `Member.pieces`: what is written of a stored value.
* `Blueprint.writes_displayMember`, `Blueprint.writes_displayMember_absent`: what the statements of
  a member write.
-/

namespace TraitBuilder

open Code Meaning

variable {D : Type} {k : Context D} {env : Env D}

namespace Member

/-- What is written of the stored value `v`. -/
def pieces (m : Member) (v : Value D) : List (Piece D) :=
  .text (m.label ++ "=") ::
    match m.layout, v with
    | .list, .list vs => .text "[" :: ((vs.map .shown).intersperse (.text ", ") ++ [.text "]"])
    | _, v => [.shown v]

theorem writes_displayField {m : Member} {texts : Ident → Ident → Option String} {t : Term}
    {v : Value D} (hv : evaluate k env t = .ok v) (hlist : m.layout = .list → v.IsList) :
    Writes k texts formatterVar (displayField m t) env (m.pieces v) env := by
  unfold displayField pieces
  cases hlayout : m.layout with
  | list =>
    obtain ⟨vs, rfl⟩ := hlist hlayout
    have hiter : evaluate k env (.apply .intoIter [t]) = .ok (.list vs) := evaluate_keeps rfl hv
    exact .cons (write_literal _) (.cons (write_literal _)
      (.cons (write_elements (by decide) (by decide) hiter) (.single (write_literal _))))
  | plain => exact .cons (write_literal _) (.single (write_displayed hv))
  | optional => exact .cons (write_literal _) (.single (write_displayed hv))

end Member

namespace Blueprint

variable {b : Blueprint} {t : Target} {m : Member} {index : Nat} {s : String}

/-- The texts of the builder's constants. -/
def texts (b : Blueprint) (owner name : Ident) : Option String :=
  if owner = b.builder then
    b.joinerItems.findSome? fun
      | .text x s => if x = name then some s else none
      | .function _ => none
  else none

theorem writtenValue_joiner (h : b.needsJoiner = true) :
    writtenValue k b.texts env b.joiner = .ok (.text ", ") := by
  simp [writtenValue, joiner, texts, joinerItems, h]

/-- A member that is not the first needs the text between members, and so does the variable. -/
theorem needsJoiner_of_member (hdisplay : b.standards.display ≠ .final)
    (hm : b.members[index]? = some m) (h : index ≠ 0 ∨ b.variesSeparator t = true) :
    b.needsJoiner = true := by
  have hlength : index < b.members.length := (List.getElem?_eq_some_iff.mp hm).1
  have hmany : 2 ≤ b.members.length := by
    rcases h with hindex | hvaries
    · omega
    · simp only [variesSeparator, Bool.and_eq_true, decide_eq_true_eq] at hvaries
      exact hvaries.1
  simp [needsJoiner, hmany, hdisplay]

/-- The variable for the separator, if there is one, holds the text `s`. -/
def Separates (b : Blueprint) (t : Target) (s : String) (env : Env D) : Prop :=
  b.variesSeparator t = true → env.locals.get? separatorVar = some (.text s)

/-- What stands before a member at the given position. -/
def lead (b : Blueprint) (t : Target) (index : Nat) (s : String) : List String :=
  if b.variesSeparator t then [s] else if index = 0 then [] else [", "]

/-- The environment after a member has been written. -/
def afterMember (b : Blueprint) (t : Target) (env : Env D) : Env D :=
  if b.variesSeparator t then { env with locals := env.locals.set separatorVar (.text ", ") }
  else env

theorem writes_leading (hseparator : b.Separates t s env)
    (hjoiner : index ≠ 0 ∨ b.variesSeparator t = true → b.needsJoiner = true) :
    Writes k b.texts formatterVar (b.leading t index) env ((b.lead t index s).map .text) env := by
  unfold leading lead
  by_cases hvaries : b.variesSeparator t = true
  · have hread : writtenValue k b.texts env (.var separatorVar) = .ok (.text s) :=
      evaluate_var (k := k) (by decide) (hseparator hvaries)
    rw [if_pos hvaries, if_pos hvaries]
    exact .single (write_text hread)
  · rw [if_neg hvaries, if_neg hvaries]
    by_cases hindex : index = 0
    · simp [hindex, Writes.nil]
    · rw [if_pos (by simpa using hindex), if_neg hindex]
      exact .single (write_text (writtenValue_joiner (hjoiner (Or.inl hindex))))

theorem writes_trailing (hseparator : b.Separates t s env)
    (hjoiner : b.variesSeparator t = true → b.needsJoiner = true) :
    Writes k b.texts formatterVar (b.trailing t) env [] (b.afterMember t env) := by
  unfold trailing afterMember
  by_cases hvaries : b.variesSeparator t = true
  · rw [if_pos hvaries, if_pos hvaries]
    exact .single (write_assign (by decide) (by simp [hseparator hvaries])
      (writtenValue_joiner (hjoiner hvaries)))
  · rw [if_neg hvaries, if_neg hvaries]
    exact .nil env

/-- The separator, the member, and the separator for the next member. -/
theorem writes_around {value : Term} {v : Value D} (hseparator : b.Separates t s env)
    (hjoiner : index ≠ 0 ∨ b.variesSeparator t = true → b.needsJoiner = true)
    (hv : evaluate k env value = .ok v) (hlist : m.layout = .list → v.IsList) :
    Writes k b.texts formatterVar (b.leading t index ++ displayField m value ++ b.trailing t) env
      ((b.lead t index s).map .text ++ m.pieces v) (b.afterMember t env) := by
  have hfield := (writes_leading hseparator hjoiner).append
    (Member.writes_displayField hv hlist)
  simpa using hfield.append (writes_trailing hseparator fun h => hjoiner (Or.inr h))

theorem afterMember_bind {x : Ident} (hx : x.name ≠ separatorVar.name) (v : Value D) :
    b.afterMember t (env.bind x v) = (b.afterMember t env).bind x v := by
  unfold afterMember
  split
  · simp [Env.bind, Fields.set, hx]
  · rfl

theorem length_afterMember (b : Blueprint) (t : Target) (env : Env D) :
    (b.afterMember t env).locals.length = env.locals.length := by
  unfold afterMember
  split
  · simp [Fields.set]
  · rfl

/-- The statements of a member write the separator and what is stored, if anything is. -/
theorem writes_displayMember {kind : Kind} {fs : Fields D} {v : Value D}
    (hself : env.self = .record kind fs) (hseparator : b.Separates t s env)
    (hjoiner : index ≠ 0 ∨ b.variesSeparator t = true → b.needsJoiner = true)
    (hv : fs.get? m.name = some (if t.layout m = .optional then .present v else v))
    (hlist : m.layout = .list → v.IsList) :
    Writes k b.texts formatterVar (b.displayMember t index m) env
      ((b.lead t index s).map .text ++ m.pieces v) (b.afterMember t env) := by
  unfold displayMember
  by_cases hoptional : t.layout m = .optional
  -- the value of the option is bound to a variable, which hides no separator
  · rw [if_pos hoptional] at hv
    have hother : presentVar.name ≠ separatorVar.name := by decide
    have hpresent : evaluate k (env.bind presentVar v) (.var presentVar) = .ok v :=
      evaluate_var (by decide) (Fields.get?_cons_self _ _ _)
    have hseparator' : b.Separates t s (env.bind presentVar v) := by
      intro hvaries
      rw [Env.bind, Fields.get?_cons, if_neg hother]
      exact hseparator hvaries
    have hbody := writes_around hseparator' hjoiner hpresent hlist
    rw [afterMember_bind hother] at hbody
    dsimp only
    rw [if_pos hoptional]
    exact .single (write_whenSome (evaluate_ownFieldRef hself hv) hbody
      (b.length_afterMember t env))
  · rw [if_neg hoptional] at hv
    dsimp only
    rw [if_neg hoptional]
    exact writes_around hseparator hjoiner (evaluate_ownFieldRef hself hv) hlist

theorem writes_displayMember_absent {kind : Kind} {fs : Fields D}
    (hself : env.self = .record kind fs) (hoptional : t.layout m = .optional)
    (hv : fs.get? m.name = some .absent) :
    Writes k b.texts formatterVar (b.displayMember t index m) env [] env := by
  unfold displayMember
  dsimp only
  rw [if_pos hoptional]
  exact .single (write_whenSome_absent (evaluate_ownFieldRef hself hv))

end Blueprint

end TraitBuilder
