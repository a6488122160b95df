import TraitBuilder.Text.Quoted
import TraitBuilder.Token.LiteralValue
import Mathlib.Algebra.Group.Nat.Defs
import Mathlib.Tactic.SplitIfs

/-!
# Quoted texts

A text that is written as a string literal is read back as it was, whatever its characters are.

* `unicodeDigits_hexDigits`: the digits of a code point are read as that code point.
* `decodeQuoted_escape`: what stands inside quotes denotes the text.
* `denoted?_quote`: a quoted text denotes the text.
-/

namespace TraitBuilder.Literal

open Text

/-! ## Code points -/

theorem isHexDigit_digitChar : ∀ d, d < 16 → isHexDigit (Nat.digitChar d) = true := by decide

theorem hexValue_digitChar : ∀ d, d < 16 → hexValue (Nat.digitChar d) = d := by decide

theorem unicodeDigits_digitChar {d count : Nat} (hd : d < 16) (hcount : count ≠ 6) (value : Nat)
    (rest : List Char) :
    unicodeDigits value count (d.digitChar :: rest) =
      unicodeDigits (value * 16 + d) (count + 1) rest := by
  rw [unicodeDigits, if_pos (isHexDigit_digitChar d hd), if_neg hcount, hexValue_digitChar d hd]

theorem unicodeDigits_hexDigit {d : Nat} (hd : d < 16) (rest : List Char) :
    unicodeDigits 0 0 (hexDigits d ++ rest) = unicodeDigits d 1 rest := by
  rw [hexDigits, Nat.toDigits_of_lt_base hd]
  simpa using unicodeDigits_digitChar hd (by decide) 0 rest

theorem hexDigits_eq {n : Nat} (h : 16 ≤ n) :
    hexDigits n = hexDigits (n / 16) ++ [(n % 16).digitChar] := by
  rw [hexDigits, Nat.toDigits_eq_if (by decide), if_neg (Nat.not_lt.mpr h), hexDigits]

/-- The digits of a number are read as the number if there are not too many of them. -/
theorem unicodeDigits_hexDigits {k n : Nat} (hn : n < 16 ^ (k + 1)) (hk : k < 6)
    (rest : List Char) :
    ∃ count, count ≠ 0 ∧ count ≤ k + 1 ∧
      unicodeDigits 0 0 (hexDigits n ++ rest) = unicodeDigits n count rest := by
  -- the last digit comes off the end, so that the reader has no digits before the others
  induction k generalizing n rest with
  | zero => exact ⟨1, by decide, by decide, unicodeDigits_hexDigit (by simpa using hn) rest⟩
  | succ k ih =>
    by_cases hdigit : n < 16
    · exact ⟨1, by decide, by omega, unicodeDigits_hexDigit hdigit rest⟩
    · have hlast : n % 16 < 16 := Nat.mod_lt n (by decide)
      have hfewer : n / 16 < 16 ^ (k + 1) := by
        rw [Nat.pow_succ] at hn
        omega
      obtain ⟨count, hpos, hle, hfirst⟩ := ih hfewer (by omega) ((n % 16).digitChar :: rest)
      refine ⟨count + 1, by omega, by omega, ?_⟩
      rw [hexDigits_eq (Nat.not_lt.mp hdigit), List.append_assoc, List.singleton_append, hfirst,
        unicodeDigits_digitChar hlast (by omega), Nat.div_add_mod']

theorem unicodeEscape_hexDigits (c : Char) (rest : List Char) :
    unicodeEscape (Char.ofNat 0x7b :: (hexDigits c.toNat ++ Char.ofNat 0x7d :: rest)) =
      some (c.toNat, rest) := by
  have hvalid : c.toNat.isValidChar := c.valid
  have hbound : c.toNat < 16 ^ (5 + 1) := by
    simp only [Nat.isValidChar] at hvalid
    omega
  obtain ⟨count, hpos, -, hdigits⟩ :=
    unicodeDigits_hexDigits hbound (by decide) (Char.ofNat 0x7d :: rest)
  rw [unicodeEscape, if_pos rfl, hdigits, unicodeDigits, if_neg (by decide), if_neg hpos,
    if_neg (by decide), if_pos rfl, if_pos hvalid]

/-! ## Characters -/

theorem decodeQuoted_backslash {c : Char} {escaped rest : List Char} (n : Nat)
    (hline : beginsLine escaped = false) (h : decodeEscape escaped = some (c, rest)) :
    decodeQuoted (n + 1) ('\\' :: escaped) =
      (decodeQuoted n rest).map fun found => (c :: found.1, found.2) := by
  rw [decodeQuoted, hline, h]
  rfl

theorem decodeQuoted_self {c : Char} (hquote : c ≠ '"') (hbackslash : c ≠ '\\')
    (hreturn : c ≠ '\r') (n : Nat) (rest : List Char) :
    decodeQuoted (n + 1) (c :: rest) =
      (decodeQuoted n rest).map fun found => (c :: found.1, found.2) := by
  rw [decodeQuoted.eq_def]
  split <;> simp_all

/-- A character is read back from its spelling, whatever follows it. -/
theorem decodeQuoted_escapeChar (c : Char) (following : List Char) (n : Nat) (rest : List Char) :
    decodeQuoted (n + 1) (escapeChar c following ++ rest) =
      (decodeQuoted n rest).map fun found => (c :: found.1, found.2) := by
  unfold escapeChar
  split_ifs with hnul htab hreturn hline hbackslash hquote hvisible
  · subst hnul
    split
    · split
      · exact decodeQuoted_backslash n rfl rfl
      · exact decodeQuoted_backslash n rfl rfl
    · exact decodeQuoted_backslash n rfl rfl
  · subst htab
    exact decodeQuoted_backslash n rfl rfl
  · subst hreturn
    exact decodeQuoted_backslash n rfl rfl
  · subst hline
    exact decodeQuoted_backslash n rfl rfl
  · subst hbackslash
    exact decodeQuoted_backslash n rfl rfl
  · subst hquote
    exact decodeQuoted_backslash n rfl rfl
  · exact decodeQuoted_self hquote hbackslash hreturn n rest
  · rw [List.append_assoc, List.singleton_append]
    refine decodeQuoted_backslash n rfl ?_
    change (unicodeEscape (_ :: (hexDigits c.toNat ++ _))).map _ = _
    simp [unicodeEscape_hexDigits]

theorem escapeChar_ne_nil (c : Char) (following : List Char) : escapeChar c following ≠ [] := by
  unfold escapeChar
  split_ifs
  · split
    · split <;> simp
    · simp
  all_goals simp

theorem length_le_length_escape (cs : List Char) : cs.length ≤ (escape cs).length := by
  induction cs with
  | nil => exact Nat.zero_le _
  | cons c rest ih =>
    have hpos := List.length_pos_iff.mpr (escapeChar_ne_nil c rest)
    rw [escape, List.length_append, List.length_cons]
    omega

theorem decodeQuoted_escape {cs : List Char} {n : Nat} (h : cs.length ≤ n) (rest : List Char) :
    decodeQuoted n (escape cs ++ '"' :: rest) = some (cs, rest) := by
  induction cs generalizing n with
  | nil => simp [escape, decodeQuoted]
  | cons c following ih =>
    obtain ⟨m, rfl⟩ : ∃ m, n = m + 1 := ⟨n - 1, by simp at h; omega⟩
    rw [escape, List.append_assoc, decodeQuoted_escapeChar, ih (by simpa using h)]
    rfl

/-- A quoted text denotes the text. -/
theorem denoted?_quote (text : String) : denoted? (quote text) = some (text, "") := by
  have hlength := length_le_length_escape text.toList
  have hdecoded : decodeQuoted (escape text.toList ++ ['"']).length (escape text.toList ++ ['"']) =
      some (text.toList, []) :=
    decodeQuoted_escape (by rw [List.length_append]; omega) []
  have hchars : (quote text).toList = '"' :: (escape text.toList ++ ['"']) := String.toList_ofList
  simp only [denoted?, hchars, hdecoded, Option.map_some, String.ofList_toList, String.ofList_nil]

end TraitBuilder.Literal
