import TraitBuilder.Proofs.Token.Literals
import TraitBuilder.Token.Lexer
import TraitBuilder.Token.LiteralValue

/-!
# Literals in a text

A literal among the tokens of a text is no longer than the text, whereas the text that a string
literal denotes is shorter than its spelling.  So no string literal is among the tokens of what it
denotes.  Literals inside of groups are left aside: the text of a documentation comment may become
longer when it is quoted.

* `Token.Within`: visible and, if a literal, no longer than a bound.
* `Tokens.within_of_ofText?`: the tokens of a text, within the length of the text.
* `Literal.length_lt_of_denoted?`: what a string literal denotes is shorter than the literal.
-/

namespace TraitBuilder

/-- The token is visible, and no longer than `n` if it is a literal. -/
def Token.Within (n : Nat) : Token → Prop
  | .literal text => text.length ≤ n
  | .group .invisible _ => False
  | _ => True

theorem Token.Within.mono {m n : Nat} {t : Token} (h : t.Within m) (hmn : m ≤ n) : t.Within n := by
  cases t with
  | literal text => exact Nat.le_trans h hmn
  | group d content => cases d <;> trivial
  | ident x => trivial
  | punct c joint => trivial

namespace Lexer

/-! ## Comments -/

theorem suffix_restOfLine (cs : List Char) : (restOfLine cs).2 <:+ cs := by
  fun_induction restOfLine cs with
  | case1 | case2 => exact List.suffix_rfl
  | case3 => exact List.suffix_cons _ _
  | case4 c rest _ _ line after hline ih =>
    rw [hline] at ih
    exact ih.trans (List.suffix_cons _ _)

theorem suffix_of_restOfBlock {depth : Nat} {cs body rest : List Char}
    (h : restOfBlock depth cs = some (body, rest)) : rest <:+ cs := by
  fun_induction restOfBlock depth cs generalizing body with
  | case1 => cases h
  | case2 _ _ ih =>
    obtain ⟨found, hfound, h⟩ := Option.bind_eq_some_iff.mp h
    cases h
    exact (ih hfound).trans (List.suffix_append [_, _] _)
  | case3 =>
    cases h
    exact List.suffix_append [_, _] _
  | case4 _ _ ih =>
    obtain ⟨found, hfound, h⟩ := Option.bind_eq_some_iff.mp h
    cases h
    exact (ih hfound).trans (List.suffix_append [_, _] _)
  | case5 _ _ _ _ _ ih =>
    obtain ⟨found, hfound, h⟩ := Option.bind_eq_some_iff.mp h
    cases h
    exact (ih hfound).trans (List.suffix_cons _ _)

/-- What follows a blank or a comment is an end of the text. -/
def Lead.EndsIn (cs : List Char) : Lead → Prop
  | .skip rest => rest <:+ cs
  | .doc _ _ rest => rest <:+ cs
  | .other => True
  | .broken => True

theorem Lead.EndsIn.trans {cs ds : List Char} {l : Lead} (h : l.EndsIn cs) (hsuffix : cs <:+ ds) :
    l.EndsIn ds := by
  cases l with
  | skip rest => exact List.IsSuffix.trans h hsuffix
  | doc inner text rest => exact List.IsSuffix.trans h hsuffix
  | other => trivial
  | broken => trivial

theorem endsIn_docLead {inner : Bool} {found : Option (List Char × List Char)} {cs : List Char}
    (h : ∀ text rest, found = some (text, rest) → rest <:+ cs) :
    (docLead inner found).EndsIn cs := by
  unfold docLead
  split
  · split
    · exact h _ _ rfl
    · trivial
  · trivial

theorem endsIn_lineDoc (inner : Bool) (cs : List Char) :
    (docLead inner (some (restOfLine cs))).EndsIn cs := by
  refine endsIn_docLead fun text rest hline => ?_
  have hrest := suffix_restOfLine cs
  rwa [Option.some.inj hline] at hrest

theorem endsIn_blockDoc (inner : Bool) (cs : List Char) :
    (docLead inner (restOfBlock 0 cs)).EndsIn cs :=
  endsIn_docLead fun _ _ => suffix_of_restOfBlock

theorem endsIn_block (cs : List Char) : (blockLead (restOfBlock 0 cs)).EndsIn cs := by
  unfold blockLead
  split
  · rename_i hblock
    exact suffix_of_restOfBlock hblock
  · trivial

theorem endsIn_lead (cs : List Char) : (lead cs).EndsIn cs := by
  fun_cases lead cs with
  | case1 rest => exact (endsIn_lineDoc true rest).trans (List.suffix_append [_, _, _] _)
  | case2 rest => exact (suffix_restOfLine rest).trans (List.suffix_append [_, _, _, _] _)
  | case3 rest => exact (endsIn_lineDoc false rest).trans (List.suffix_append [_, _, _] _)
  | case4 rest => exact (suffix_restOfLine rest).trans (List.suffix_append [_, _] _)
  | case5 rest => exact (endsIn_blockDoc true rest).trans (List.suffix_append [_, _, _] _)
  | case6 rest => exact List.suffix_append [_, _, _, _] _
  | case7 rest => exact (endsIn_block _).trans (List.suffix_append [_, _] _)
  | case8 rest => exact (endsIn_blockDoc false rest).trans (List.suffix_append [_, _, _] _)
  | case9 rest => exact (endsIn_block rest).trans (List.suffix_append [_, _] _)
  | case10 c rest => exact List.suffix_cons _ _
  | case11 | case12 => trivial

/-! ## Single tokens -/

theorem suffix_of_plainName {cs name rest : List Char} (h : plainName cs = some (name, rest)) :
    rest <:+ cs := by
  unfold plainName at h
  split at h
  · split at h
    · cases h
      exact (List.dropWhile_suffix _).trans (List.suffix_cons _ _)
    · cases h
  · cases h

theorem suffix_of_identifier {cs rest : List Char} {x : Ident}
    (h : identifier cs = some (x, rest)) : rest <:+ cs := by
  unfold identifier at h
  split at h
  · obtain ⟨found, hfound, h⟩ := Option.bind_eq_some_iff.mp h
    dsimp only at h
    split at h
    · cases h
    · cases h
      exact (suffix_of_plainName hfound).trans (List.suffix_append [_, _] _)
  · obtain ⟨found, hfound, h⟩ := Option.bind_eq_some_iff.mp h
    cases h
    exact suffix_of_plainName hfound

theorem within_of_leaf {cs rest : List Char} {t : Token} (h : leaf cs = some (t, rest)) :
    t.Within cs.length ∧ rest <:+ cs := by
  unfold leaf at h
  split at h
  · rename_i hliteral
    cases h
    refine ⟨?_, Literal.suffix_of_after hliteral⟩
    simp [Token.Within]
  · split at h
    · split at h
      · split at h
        · cases h
          exact ⟨trivial, List.suffix_cons _ _⟩
        · cases h
      · cases h
        exact ⟨trivial, List.suffix_cons _ _⟩
      · cases h
    · split at h
      · cases h
      · obtain ⟨found, hfound, h⟩ := Option.map_eq_some_iff.mp h
        cases h
        exact ⟨trivial, suffix_of_identifier hfound⟩

/-! ## All tokens -/

theorem visible_of_closes {c : Char} {d : Delimiter} (h : closes c = some d) : d ≠ .invisible := by
  unfold closes at h
  split at h
  · cases h
    decide
  · cases h
    decide
  · split at h
    · cases h
      decide
    · cases h

theorem within_docAttribute (n : Nat) (inner : Bool) (text : List Char) :
    ∀ t ∈ docAttribute inner text, t.Within n := by
  cases inner <;> simp [docAttribute, Token.Within]

theorem within_of_read {n steps : Nat} {open_ : List (Delimiter × List Token)} {done : List Token}
    {cs : List Char} {ts : Tokens} (hopen : ∀ level ∈ open_, ∀ t ∈ level.2, t.Within n)
    (hdone : ∀ t ∈ done, t.Within n) (hcs : cs.length ≤ n)
    (h : read open_ done steps cs = some ts) : ∀ t ∈ ts, t.Within n := by
  induction steps generalizing open_ done cs with
  | zero => cases h
  | succ steps ih =>
    have hlead := endsIn_lead cs
    unfold read at h
    split at h
    · rename_i hskip
      rw [hskip] at hlead
      exact ih hopen hdone (Nat.le_trans hlead.length_le hcs) h
    · rename_i inner text rest hdoc
      rw [hdoc] at hlead
      refine ih hopen (List.forall_mem_append.mpr ⟨?_, hdone⟩) (Nat.le_trans hlead.length_le hcs) h
      simpa using within_docAttribute n inner text
    · cases h
    split at h
    · split at h
      · cases h
        simpa using hdone
      · cases h
    rename_i c rest _
    have hrest : rest.length ≤ n := Nat.le_trans (List.suffix_cons c rest).length_le hcs
    split at h
    · rename_i hmark
      have hlength := Nat.le_trans (List.isPrefixOf_iff_prefix.mp hmark).length_le hcs
      refine ih hopen (List.forall_mem_cons.mpr ⟨?_, hdone⟩) ?_ h
      · simpa [Token.Within] using hlength
      · exact Nat.le_trans (List.drop_suffix _ _).length_le hcs
    split at h
    · exact ih (List.forall_mem_cons.mpr ⟨hdone, hopen⟩) (by simp) hrest h
    split at h
    · rename_i d hcloses
      split at h
      · rename_i e outer above
        obtain ⟨houter, habove⟩ := List.forall_mem_cons.mp hopen
        split at h
        · refine ih habove (List.forall_mem_cons.mpr ⟨?_, houter⟩) hrest h
          have hvisible := visible_of_closes hcloses
          cases d <;> trivial
        · cases h
      · cases h
    · split at h
      · rename_i t after hleaf
        obtain ⟨hwithin, hafter⟩ := within_of_leaf hleaf
        exact ih hopen (List.forall_mem_cons.mpr ⟨hwithin.mono hcs, hdone⟩)
          (Nat.le_trans hafter.length_le hcs) h
      · cases h

end Lexer

theorem Tokens.within_of_ofText? {text : String} {ts : Tokens} (h : Tokens.ofText? text = some ts) :
    ∀ t ∈ ts, t.Within text.length := by
  unfold Tokens.ofText? at h
  refine Lexer.within_of_read (by simp) (by simp) ?_ h
  rw [← String.length_toList]
  split
  · split
    · rename_i hchars _
      simp [hchars]
    · rename_i hchars _
      simp [hchars]
  · simp

/-! ## What string literals denote -/

namespace Literal

theorem suffix_of_decodeEscape {c : Char} {cs rest : List Char}
    (h : decodeEscape cs = some (c, rest)) : rest <:+ cs := by
  unfold decodeEscape at h
  split at h
  · cases h
    exact List.suffix_append [_, _, _] _
  · obtain ⟨found, hfound, h⟩ := Option.map_eq_some_iff.mp h
    cases h
    exact (suffix_of_unicodeEscape hfound).trans (List.suffix_cons _ _)
  · cases h
    exact List.suffix_cons _ _
  · cases h
    exact List.suffix_cons _ _
  · cases h
    exact List.suffix_cons _ _
  · cases h
    exact List.suffix_cons _ _
  · split at h
    · cases h
      exact List.suffix_cons _ _
    · cases h
  · cases h

theorem exists_of_map_cons {c : Char} {found : Option (List Char × List Char)}
    {text rest : List Char}
    (h : (found.map fun (cs, rest) => (c :: cs, rest)) = some (text, rest)) :
    ∃ more, found = some (more, rest) ∧ text = c :: more := by
  obtain ⟨⟨more, after⟩, hfound, h⟩ := Option.map_eq_some_iff.mp h
  cases h
  exact ⟨more, hfound, rfl⟩

theorem length_lt_of_decodeQuoted {n : Nat} {cs text rest : List Char}
    (h : decodeQuoted n cs = some (text, rest)) : text.length < cs.length := by
  fun_induction decodeQuoted n cs generalizing text with
  | case1 =>
    cases h
    exact Nat.succ_pos _
  | case2 _ body _ ih =>
    have hdropped := (List.dropWhile_suffix (l := body) isContinued).length_le
    exact Nat.lt_succ_of_lt (Nat.lt_of_lt_of_le (ih h) hdropped)
  | case3 _ _ _ _ _ hescape ih =>
    obtain ⟨more, hmore, rfl⟩ := exists_of_map_cons h
    have hescaped := (suffix_of_decodeEscape hescape).length_le
    exact Nat.succ_lt_succ (Nat.lt_of_lt_of_le (ih hmore) hescaped)
  | case4 | case7 => cases h
  | case5 _ _ ih =>
    obtain ⟨more, hmore, rfl⟩ := exists_of_map_cons h
    exact Nat.lt_succ_of_lt (Nat.succ_lt_succ (ih hmore))
  | case6 _ _ _ _ _ _ ih =>
    obtain ⟨more, hmore, rfl⟩ := exists_of_map_cons h
    exact Nat.succ_lt_succ (ih hmore)

theorem length_lt_of_decodeRaw {hashes : Nat} {cs text rest : List Char}
    (h : decodeRaw hashes cs = some (text, rest)) : text.length < cs.length := by
  fun_induction decodeRaw hashes cs generalizing text with
  | case1 => cases h
  | case2 =>
    cases h
    exact Nat.succ_pos _
  | case3 _ _ ih | case4 _ _ _ ih =>
    obtain ⟨more, hmore, rfl⟩ := exists_of_map_cons h
    exact Nat.succ_lt_succ (ih hmore)

/-- The text that a string literal denotes is shorter than the literal. -/
theorem length_lt_of_denoted? {literal text suffix : String}
    (h : denoted? literal = some (text, suffix)) : text.length < literal.length := by
  unfold denoted? at h
  obtain ⟨⟨cs, rest⟩, hfound, h⟩ := Option.map_eq_some_iff.mp h
  cases h
  rw [String.length_ofList, ← String.length_toList]
  split at hfound
  · rename_i hchars
    rw [hchars]
    exact Nat.lt_succ_of_lt (length_lt_of_decodeQuoted hfound)
  · rename_i body hchars
    split at hfound
    · rename_i hashes opened hopening
      have hbody := (suffix_of_rawOpening hopening).length_le
      rw [hchars, List.length_cons]
      have := length_lt_of_decodeRaw hfound
      omega
    · cases hfound
  · cases hfound

end Literal

end TraitBuilder
