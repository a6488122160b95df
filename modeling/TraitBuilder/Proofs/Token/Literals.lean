import TraitBuilder.Token.Literal

/-!
# Ends of literals

What follows a literal at the beginning of a text is an end of the text, for every kind of literal.

* `Literal.suffix_of_after`: what follows the literal at the beginning of a text.
-/

namespace TraitBuilder

namespace Literal

/-! ## Strings -/

theorem afterSuffix_suffix (cs : List Char) : afterSuffix cs <:+ cs := by
  unfold afterSuffix
  split
  · exact List.suffix_rfl
  · split
    · exact (List.dropWhile_suffix _).trans (List.suffix_cons _ _)
    · exact List.suffix_rfl

theorem suffix_of_unicodeDigits {value count result : Nat} {cs rest : List Char}
    (h : unicodeDigits value count cs = some (result, rest)) : rest <:+ cs := by
  fun_induction unicodeDigits value count cs with
  | case1 | case2 | case4 | case7 | case8 => cases h
  | case3 _ _ _ _ _ _ ih | case5 _ _ _ _ _ ih => exact (ih h).trans (List.suffix_cons _ _)
  | case6 =>
    cases h
    exact List.suffix_cons _ _

theorem suffix_of_unicodeEscape {result : Nat} {cs rest : List Char}
    (h : unicodeEscape cs = some (result, rest)) : rest <:+ cs := by
  unfold unicodeEscape at h
  split at h
  · split at h
    · exact (suffix_of_unicodeDigits h).trans (List.suffix_cons _ _)
    · cases h
  · cases h

theorem suffix_of_afterContinuation {cs rest : List Char} (h : afterContinuation cs = some rest) :
    rest <:+ cs := by
  fun_induction afterContinuation cs with
  | case1 | case6 => cases h
  | case2 _ ih | case3 _ ih | case4 _ ih => exact (ih h).trans (List.suffix_cons _ _)
  | case5 _ ih => exact (ih h).trans (List.suffix_append [_, _] _)
  | case7 =>
    cases h
    exact List.suffix_rfl

theorem suffix_of_afterEscape {kind : StringKind} {cs rest : List Char}
    (h : afterEscape kind cs = some rest) : rest <:+ cs := by
  unfold afterEscape at h
  split at h
  · split at h
    · cases h
      exact List.suffix_append [_, _, _] _
    · cases h
  · split at h
    · cases h
    · cases h
    · rename_i hescape
      cases h
      exact (suffix_of_unicodeEscape hescape).trans (List.suffix_cons _ _)
    · cases h
  · split at h
    · cases h
    · cases h
      exact List.suffix_cons _ _
  · exact (suffix_of_afterContinuation h).trans (List.suffix_cons _ _)
  · exact (suffix_of_afterContinuation h).trans (List.suffix_append [_, _] _)
  · split at h
    · cases h
      exact List.suffix_cons _ _
    · cases h
  · cases h

theorem suffix_of_afterQuoted {kind : StringKind} {n : Nat} {cs rest : List Char}
    (h : afterQuoted kind n cs = some rest) : rest <:+ cs := by
  induction n generalizing cs with
  | zero =>
    unfold afterQuoted at h
    split at h
    all_goals first | contradiction | cases h
    exact (afterSuffix_suffix _).trans (List.suffix_cons _ _)
  | succ n ih =>
    unfold afterQuoted at h
    split at h
    · cases h
      exact (afterSuffix_suffix _).trans (List.suffix_cons _ _)
    · rename_i hn
      cases hn
      exact (ih h).trans (List.suffix_append [_, _] _)
    · cases h
    · rename_i hn
      cases hn
      obtain ⟨more, hescape, hmore⟩ := Option.bind_eq_some_iff.mp h
      exact (ih hmore).trans ((suffix_of_afterEscape hescape).trans (List.suffix_cons _ _))
    · rename_i hn
      cases hn
      split at h
      · exact (ih h).trans (List.suffix_cons _ _)
      · cases h
    · cases h

theorem suffix_of_rawOpening {n : Nat} {cs rest : List Char} (h : rawOpening cs = some (n, rest)) :
    rest <:+ cs := by
  fun_induction rawOpening cs generalizing n with
  | case1 =>
    cases h
    exact List.suffix_cons _ _
  | case2 _ ih =>
    obtain ⟨found, hfound, heq⟩ := Option.map_eq_some_iff.mp h
    cases heq
    exact (ih hfound).trans (List.suffix_cons _ _)
  | case3 => cases h

theorem suffix_of_afterHashes {n : Nat} {cs rest : List Char} (h : afterHashes n cs = some rest) :
    rest <:+ cs := by
  fun_induction afterHashes n cs with
  | case1 =>
    cases h
    exact List.suffix_rfl
  | case2 _ _ ih => exact (ih h).trans (List.suffix_cons _ _)
  | case3 => cases h

theorem suffix_of_afterRawQuoted {kind : StringKind} {hashes : Nat} {cs rest : List Char}
    (h : afterRawQuoted kind hashes cs = some rest) : rest <:+ cs := by
  fun_induction afterRawQuoted kind hashes cs with
  | case1 | case5 | case7 => cases h
  | case2 _ _ hhashes =>
    cases h
    exact (afterSuffix_suffix _).trans
      ((suffix_of_afterHashes hhashes).trans (List.suffix_cons _ _))
  | case3 _ _ ih => exact (ih h).trans (List.suffix_cons _ _)
  | case4 _ ih => exact (ih h).trans (List.suffix_append [_, _] _)
  | case6 _ _ _ _ _ _ ih => exact (ih h).trans (List.suffix_cons _ _)

theorem suffix_of_afterRaw {kind : StringKind} {cs rest : List Char}
    (h : afterRaw kind cs = some rest) : rest <:+ cs := by
  unfold afterRaw at h
  split at h
  · rename_i hopening
    split at h
    · exact (suffix_of_afterRawQuoted h).trans (suffix_of_rawOpening hopening)
    · cases h
  · cases h

theorem suffix_of_afterString {cs rest : List Char} (h : afterString cs = some rest) :
    rest <:+ cs := by
  unfold afterString at h
  split at h
  · exact (suffix_of_afterQuoted h).trans (List.suffix_cons _ _)
  · exact (suffix_of_afterRaw h).trans (List.suffix_cons _ _)
  · exact (suffix_of_afterQuoted h).trans (List.suffix_append [_, _] _)
  · exact (suffix_of_afterRaw h).trans (List.suffix_append [_, _] _)
  · exact (suffix_of_afterQuoted h).trans (List.suffix_append [_, _] _)
  · exact (suffix_of_afterRaw h).trans (List.suffix_append [_, _] _)
  · cases h

/-! ## Bytes and characters -/

theorem suffix_of_afterApostrophe {cs rest : List Char} (h : afterApostrophe cs = some rest) :
    rest <:+ cs := by
  unfold afterApostrophe at h
  split at h
  · cases h
    exact (afterSuffix_suffix _).trans (List.suffix_cons _ _)
  · cases h

theorem suffix_of_afterByte {cs rest : List Char} (h : afterByte cs = some rest) :
    rest <:+ cs := by
  unfold afterByte at h
  split at h
  · split at h
    · exact (suffix_of_afterApostrophe h).trans (List.suffix_append [_, _, _, _] _)
    · cases h
  · split at h
    · exact (suffix_of_afterApostrophe h).trans (List.suffix_append [_, _] _)
    · cases h
  · split at h
    · exact (suffix_of_afterApostrophe h).trans (List.suffix_cons _ _)
    · cases h
  · cases h

theorem suffix_of_afterCharacter {cs rest : List Char} (h : afterCharacter cs = some rest) :
    rest <:+ cs := by
  unfold afterCharacter at h
  split at h
  · split at h
    · exact (suffix_of_afterApostrophe h).trans (List.suffix_append [_, _, _, _] _)
    · cases h
  · obtain ⟨found, hescape, h⟩ := Option.bind_eq_some_iff.mp h
    exact (suffix_of_afterApostrophe h).trans
      ((suffix_of_unicodeEscape hescape).trans (List.suffix_append [_, _] _))
  · split at h
    · exact (suffix_of_afterApostrophe h).trans (List.suffix_append [_, _] _)
    · cases h
  · split at h
    · exact (suffix_of_afterApostrophe h).trans (List.suffix_cons _ _)
    · cases h
  · cases h

/-! ## Numbers -/

theorem suffix_of_afterNumber {cs rest : List Char} (h : afterNumber cs = some rest) :
    rest <:+ cs := by
  have hrest : rest = afterSuffix cs := by
    unfold afterNumber at h
    grind
  exact hrest ▸ afterSuffix_suffix cs

theorem suffix_of_mantissa {dot found : Bool} {cs rest : List Char}
    (h : mantissa dot cs = some (found, rest)) : rest <:+ cs := by
  fun_induction mantissa dot cs with
  | case1 | case3 | case6 | case7 =>
    cases h
    simp [List.suffix_rfl]
  | case2 _ _ _ _ ih => exact (ih h).trans (List.suffix_cons _ _)
  | case4 => cases h
  | case5 _ _ _ _ _ _ ih => exact (ih h).trans (List.suffix_cons _ _)

theorem suffix_of_afterExponent {sign digits : Bool} {cs rest : List Char}
    (h : afterExponent sign digits cs = some rest) : rest <:+ cs := by
  fun_induction afterExponent sign digits cs with
  | case1 | case3 | case8 =>
    cases h
    exact List.suffix_rfl
  | case2 | case4 | case9 => cases h
  | case5 _ _ _ _ _ _ _ ih => exact (ih h).trans (List.suffix_cons _ _)
  | case6 _ _ _ _ _ _ ih => exact (ih h).trans (List.suffix_cons _ _)
  | case7 _ _ _ _ _ ih => exact (ih h).trans (List.suffix_cons _ _)

theorem suffix_of_afterFloatDigits {cs rest : List Char} (h : afterFloatDigits cs = some rest) :
    rest <:+ cs := by
  unfold afterFloatDigits at h
  split at h
  · cases h
  rename_i c digits
  split at h
  case isFalse => cases h
  cases hmantissa : mantissa false digits with
  | none => simp [hmantissa] at h
  | some found =>
    obtain ⟨dot, tail⟩ := found
    have htail : tail <:+ c :: digits := (suffix_of_mantissa hmantissa).trans (List.suffix_cons _ _)
    -- the number ends before a letter that begins no exponent, or after the exponent
    suffices rest <:+ tail from this.trans htail
    cases tail with
    | nil => grind
    | cons e tail =>
      cases hexponent : afterExponent false false tail with
      | none => grind
      | some after =>
        have hafter := (suffix_of_afterExponent hexponent).trans (List.suffix_cons e tail)
        grind

theorem suffix_of_afterDigits {base : Nat} {seen : Bool} {cs rest : List Char}
    (h : afterDigits base seen cs = some rest) : rest <:+ cs := by
  fun_induction afterDigits base seen cs with
  | case1 | case8 =>
    cases h
    exact List.suffix_rfl
  | case2 | case4 | case6 | case9 => cases h
  | case3 _ _ _ _ _ ih | case5 _ _ _ _ _ ih | case7 _ _ _ _ _ ih =>
    exact (ih h).trans (List.suffix_cons _ _)

theorem suffix_of_afterIntDigits {cs rest : List Char} (h : afterIntDigits cs = some rest) :
    rest <:+ cs := by
  unfold afterIntDigits at h
  split at h
  · exact (suffix_of_afterDigits h).trans (List.suffix_append [_, _] _)
  · exact (suffix_of_afterDigits h).trans (List.suffix_append [_, _] _)
  · exact (suffix_of_afterDigits h).trans (List.suffix_append [_, _] _)
  · exact suffix_of_afterDigits h

/-! ## All literals -/

/-- What follows a literal at the beginning of a text is an end of the text. -/
theorem suffix_of_after {cs rest : List Char} (h : after cs = some rest) : rest <:+ cs := by
  unfold after at h
  simp only [Option.orElse_eq_orElse, Option.orElse_eq_or, Option.or_eq_some_iff] at h
  obtain hstring | ⟨-, hquoted | ⟨-, hfloat | ⟨-, hint⟩⟩⟩ := h
  · exact suffix_of_afterString hstring
  · split at hquoted
    · exact (suffix_of_afterByte hquoted).trans (List.suffix_append [_, _] _)
    · exact (suffix_of_afterCharacter hquoted).trans (List.suffix_cons _ _)
    · cases hquoted
  · obtain ⟨digits, hdigits, hnumber⟩ := Option.bind_eq_some_iff.mp hfloat
    exact (suffix_of_afterNumber hnumber).trans (suffix_of_afterFloatDigits hdigits)
  · obtain ⟨digits, hdigits, hnumber⟩ := Option.bind_eq_some_iff.mp hint
    exact (suffix_of_afterNumber hnumber).trans (suffix_of_afterIntDigits hdigits)

end Literal

end TraitBuilder
