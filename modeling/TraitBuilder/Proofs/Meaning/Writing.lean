import TraitBuilder.Generated.Display
import TraitBuilder.Proofs.Meaning.Execution

/-!
# Writing to a formatter

What the statements of a display hand to the formatter, one after the other: texts, and values that
display themselves, which are not looked into.  The formatter takes all that it is handed, so no
statement returns early.  A constant of a generated type stands for its text.

* `writeAll`: what statements hand to a formatter, and the environment that they leave.
* `Writes.append`, `writes_each`, `writes_whenSome`: the statements one after the other, for each
  element of a list, and for the value of an option.
-/

namespace TraitBuilder

open Code

namespace Meaning

/-- What is handed to a formatter. -/
inductive Piece (D : Type) where
  | text (s : String)
  /-- A value that displays itself. -/
  | shown (v : Value D)

variable {D : Type}

section Run

variable (k : Context D) (texts : Ident → Ident → Option String) (formatter : Ident)

/-- The value of a term where a text may be asked for: `texts` are the texts of constants, by their
types and their names. -/
def writtenValue (env : Env D) : Term → Answer D (Value D)
  | .constant owner name =>
    match texts owner name with
    | some s => .ok (.text s)
    | none => .error .stuck
  | t => evaluate k env t

mutual

/-- What a statement hands to the formatter, and the environment after it. -/
def write : Statement → Env D → Answer D (List (Piece D) × Env D)
  | .run (.orReturn (.method (.var x) method [t])), env => do
    match ← writtenValue k texts env t with
    | .text s =>
      if x = formatter ∧ method = plain "write_str" then .ok ([.text s], env) else .error .stuck
    | _ => .error .stuck
  | .run (.orReturn (.call (.library .display) [t, .var x] _)), env => do
    let v ← evaluate k env t
    if x = formatter then .ok ([.shown v], env) else .error .stuck
  | .bind _ x t, env => do return ([], env.bind x (← writtenValue k texts env t))
  | .assign (.var x) t, env => do return ([], ← env.set x (← writtenValue k texts env t))
  | .when (.compare .notEqual left right) body, env => do
    match ← evaluate k env left, ← evaluate k env right with
    | .number m, .number n =>
      if m = n then .ok ([], env)
      else do
        let (pieces, after) ← writeAll body env
        return (pieces, after.leaveBlock env)
    | _, _ => .error .stuck
  | .whenSome x t body, env => do
    match ← evaluate k env t with
    | .present v =>
      let (pieces, after) ← writeAll body (env.bind x v)
      return (pieces, after.leaveBlock env)
    | .absent => return ([], env)
    | _ => .error .stuck
  | .each binder (.call (.library .enumerate) [t] _) body, env => do
    match ← evaluate k env t with
    | .list vs => vs.zipIdx.foldlM (fun written (v, position) => do
        let (pieces, after) ← writeAll body (bindElement binder position v written.2)
        return (written.1 ++ pieces, after.leaveBlock written.2)) ([], env)
    | _ => .error .stuck
  | _, _ => .error .stuck

/-- What statements hand to the formatter one after the other, and the environment after them. -/
def writeAll : List Statement → Env D → Answer D (List (Piece D) × Env D)
  | [], env => .ok ([], env)
  | s :: rest, env => do
    let (pieces, after) ← write s env
    let (more, last) ← writeAll rest after
    return (pieces ++ more, last)

end

/-- The statements hand the pieces to the formatter. -/
def Writes (ss : List Statement) (env : Env D) (pieces : List (Piece D)) (after : Env D) : Prop :=
  writeAll k texts formatter ss env = .ok (pieces, after)

end Run

/-! ## Rules -/

section Rules

variable {k : Context D} {texts : Ident → Ident → Option String} {formatter : Ident}
  {env env' env'' : Env D} {ps qs : List (Piece D)}

theorem Writes.nil (env : Env D) : Writes k texts formatter [] env [] env := rfl

theorem Writes.cons {s : Statement} {rest : List Statement}
    (hs : write k texts formatter s env = .ok (ps, env'))
    (hrest : Writes k texts formatter rest env' qs env'') :
    Writes k texts formatter (s :: rest) env (ps ++ qs) env'' := by
  unfold Writes at hrest ⊢
  simp [writeAll, hs, hrest]

theorem Writes.append {ss ts : List Statement} (hss : Writes k texts formatter ss env ps env')
    (hts : Writes k texts formatter ts env' qs env'') :
    Writes k texts formatter (ss ++ ts) env (ps ++ qs) env'' := by
  induction ss generalizing env ps with
  | nil =>
    obtain ⟨rfl, rfl⟩ : [] = ps ∧ env = env' := by simpa [Writes, writeAll] using hss
    exact hts
  | cons s ss ih =>
    unfold Writes at hss
    -- the first statement is not stuck, and neither are those after it
    cases hs : write k texts formatter s env with
    | error e => simp [writeAll, hs] at hss
    | ok first =>
      obtain ⟨pieces, after⟩ := first
      cases hrest : writeAll k texts formatter ss after with
      | error e => simp [writeAll, hs, hrest] at hss
      | ok rest =>
        obtain ⟨more, last⟩ := rest
        obtain ⟨rfl, rfl⟩ : pieces ++ more = ps ∧ last = env' := by
          simpa [writeAll, hs, hrest] using hss
        rw [List.cons_append, List.append_assoc]
        exact .cons hs (ih hrest)

theorem Writes.single {s : Statement} (hs : write k texts formatter s env = .ok (ps, env')) :
    Writes k texts formatter [s] env ps env' := by
  simpa using Writes.cons hs (.nil env')

theorem write_text {t : Term} {s : String} (ht : writtenValue k texts env t = .ok (.text s)) :
    write k texts formatterVar (writeText t) env = .ok ([.text s], env) := by
  simp [writeText, write, ht]

theorem write_displayed {t : Term} {v : Value D} (ht : evaluate k env t = .ok v) :
    write k texts formatterVar (writeDisplayed t) env = .ok ([.shown v], env) := by
  simp [writeDisplayed, Term.apply, write, ht]

theorem write_literal (s : String) :
    write k texts formatterVar (writeText (.text s)) env = .ok ([.text s], env) :=
  write_text rfl

theorem write_assign {x : Ident} {t : Term} {v : Value D} (hx : x ≠ plain "self")
    (hthere : env.locals.get? x ≠ none) (ht : writtenValue k texts env t = .ok v) :
    write k texts formatter (.assign (.var x) t) env =
      .ok ([], { env with locals := env.locals.set x v }) := by
  obtain ⟨w, hw⟩ := Option.ne_none_iff_exists'.mp hthere
  simp [write, ht, Env.set, hx, hw]

/-- A loop whose body leaves the variables as they are writes what the body does for each element,
which may depend on the position. -/
theorem write_each {binder : Binder} {t : Term} {body : List Statement} {comma : Bool}
    {vs : List (Value D)} {g : Value D → Nat → List (Piece D)}
    (ht : evaluate k env t = .ok (.list vs))
    (hbody : ∀ v i, Writes k texts formatter body (bindElement binder i v env) (g v i)
      (bindElement binder i v env)) :
    write k texts formatter (.each binder (.call (.library .enumerate) [t] comma) body) env =
      .ok (vs.zipIdx.flatMap fun p => g p.1 p.2, env) := by
  have hleave (v : Value D) (i : Nat) : (bindElement binder i v env).leaveBlock env = env := by
    cases binder with
    | one x => simp [bindElement, Env.bind, Env.leaveBlock]
    | numbered position x =>
      have hlength : env.locals.length + 1 + 1 - env.locals.length = 2 := by omega
      simp [bindElement, Env.bind, Env.leaveBlock, hlength]
  let step (written : List (Piece D) × Env D) (w : Value D × Nat) :
      Answer D (List (Piece D) × Env D) := do
    let (pieces, after) ← writeAll k texts formatter body (bindElement binder w.2 w.1 written.2)
    return (written.1 ++ pieces, after.leaveBlock written.2)
  have hstep (written : List (Piece D)) (w : Value D × Nat) :
      step (written, env) w = .ok (written ++ g w.1 w.2, env) := by
    have hone := hbody w.1 w.2
    unfold Writes at hone
    simp [step, hone, hleave]
  -- the induction is on the elements that are left, with what has been written so far
  have hloop (ws : List (Value D × Nat)) (written : List (Piece D)) :
      ws.foldlM step (written, env) = .ok (written ++ ws.flatMap fun p => g p.1 p.2, env) := by
    induction ws generalizing written with
    | nil => simp
    | cons w ws ih =>
      rw [List.foldlM_cons, hstep, Answer.ok_bind, ih, List.flatMap_cons, List.append_assoc]
  have hrun := hloop vs.zipIdx []
  rw [List.nil_append] at hrun
  simp only [write, ht, Answer.ok_bind]
  exact hrun

theorem write_whenSome {x : Ident} {t : Term} {body : List Statement} {v : Value D}
    (ht : evaluate k env t = .ok (.present v))
    (hbody : Writes k texts formatter body (env.bind x v) ps (env'.bind x v))
    (hlength : env'.locals.length = env.locals.length) :
    write k texts formatter (.whenSome x t body) env = .ok (ps, env') := by
  unfold Writes at hbody
  simp only [write, ht, Answer.ok_bind, hbody, Answer.pure_eq]
  simp [Env.leaveBlock, Env.bind, hlength]

theorem write_whenSome_absent {x : Ident} {t : Term} {body : List Statement}
    (ht : evaluate k env t = .ok .absent) :
    write k texts formatter (.whenSome x t body) env = .ok ([], env) := by
  simp [write, ht]

/-- Elements that are separated where a position other than the first is written. -/
theorem flatMap_separated {α : Type} (separator : α) (f : Value D → α) (vs : List (Value D)) :
    (vs.zipIdx.flatMap fun p => (if p.2 = 0 then [] else [separator]) ++ [f p.1]) =
      (vs.map f).intersperse separator := by
  have hrest : ∀ (ws : List (Value D)) (n : Nat), 0 < n →
      ((ws.zipIdx n).flatMap fun p => (if p.2 = 0 then [] else [separator]) ++ [f p.1]) =
        ws.flatMap fun w => [separator, f w] := by
    intro ws
    induction ws with
    | nil => intro n hn; rfl
    | cons w ws ih =>
      intro n hn
      rw [List.zipIdx_cons, List.flatMap_cons, ih (n + 1) (by omega), if_neg (by simp; omega)]
      rfl
  have htail : ∀ (w : Value D) (ws : List (Value D)),
      ((w :: ws).map f).intersperse separator = f w :: ws.flatMap fun w => [separator, f w] := by
    intro w ws
    induction ws generalizing w with
    | nil => rfl
    | cons v ws ih =>
      rw [List.map_cons, List.map_cons, List.intersperse_cons_cons, ← List.map_cons, ih,
        List.flatMap_cons]
      rfl
  cases vs with
  | nil => rfl
  | cons v vs =>
    rw [htail, List.zipIdx_cons, List.flatMap_cons, hrest vs (0 + 1) (by omega)]
    rfl

/-- Nothing stands before the first element of a loop. -/
theorem write_separateElements {i : Nat}
    (hindex : evaluate k env (.var indexVar) = .ok (.number i)) :
    write k texts formatterVar separateElements env =
      .ok (if i = 0 then [] else [.text ", "], env) := by
  have hzero : evaluate k env (.number 0) = .ok (.number 0) := by rw [evaluate]
  have htext : Writes k texts formatterVar [writeText (.text ", ")] env [.text ", "] env :=
    .single (write_literal ", ")
  unfold Writes at htext
  simp only [separateElements, write, hindex, hzero, Answer.ok_bind]
  by_cases hfirst : i = 0
  · rw [if_pos hfirst, if_pos hfirst]
  · rw [if_neg hfirst, if_neg hfirst]
    simp [htext, Env.leaveBlock]

/-- The statements that separate the elements of a loop and display them. -/
theorem write_elements {t : Term} {comma : Bool} {x : Ident} (hx : x.name ≠ indexVar.name)
    (hself : x ≠ plain "self") {vs : List (Value D)} (ht : evaluate k env t = .ok (.list vs)) :
    write k texts formatterVar (.each (.numbered indexVar x)
      (.call (.library .enumerate) [t] comma) [separateElements, writeDisplayed (.var x)]) env =
        .ok ((vs.map Piece.shown).intersperse (.text ", "), env) := by
  rw [← flatMap_separated (.text ", ") Piece.shown vs]
  refine write_each (g := fun v i => (if i = 0 then [] else [.text ", "]) ++ [.shown v]) ht
    fun v i => ?_
  let inner : Env D := bindElement (.numbered indexVar x) i v env
  have hindex : evaluate k inner (.var indexVar) = .ok (.number i) := by
    refine evaluate_var (by decide) ?_
    simp only [inner, bindElement, Env.bind]
    rw [Fields.get?_cons, if_neg hx, Fields.get?_cons_self]
  have helement : evaluate k inner (.var x) = .ok v :=
    evaluate_var hself (Fields.get?_cons_self _ _ _)
  exact .cons (write_separateElements hindex) (.single (write_displayed helement))

end Rules

end Meaning

end TraitBuilder
