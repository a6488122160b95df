import TraitBuilder.Text.CamelCase
import TraitBuilder.Proofs.Text.CaseImage

/-!
# The words of a label

Cutting a label into words loses nothing but the separators, so the name in camel case begins with
the uppercase text of the first letter or number, and consists of the uppercase and lowercase texts
of the letters and numbers.

* `flatten_words`: the words together are the letters and numbers of the label.
* `upperCamelCase_head?`, `isIdentifierContinue_of_mem_upperCamelCase`: how the name begins and what
  it consists of.
* `upperCamelCase_eq_self_iff`: the labels that are named `Self`.
-/

namespace TraitBuilder.Text.CamelCase

/-- The words of a label. -/
def words (label : List Char) : List (List Char) := (parts label).flatMap wordsOf

theorem toList_upperCamelCase (label : String) :
    (upperCamelCase label).toList = (words label.toList).flatMap capitalize := by
  simp [upperCamelCase, words, List.flatMap_assoc]

/-! ## Nothing is lost -/

theorem flatten_parts (label : List Char) :
    (parts label).flatten = label.filter isAlphanumeric := by
  induction label with
  | nil => rfl
  | cons c rest ih =>
    rw [parts]
    by_cases hc : isAlphanumeric c = true
    · rw [if_pos hc, List.filter_cons_of_pos hc, ← ih]
      cases parts rest <;> rfl
    · rw [if_neg hc, List.filter_cons_of_neg hc, ← ih]
      rfl

/-- What was read of the word at hand comes first. -/
theorem flatten_wordsFrom (mode : Mode) (word : List Char) {cs : List Char} (h : cs ≠ []) :
    (wordsFrom mode word cs).flatten = word ++ cs := by
  fun_induction wordsFrom mode word cs with
  | case1 => exact absurd rfl h
  | case2 mode word c => simp
  | case3 mode word c next rest after hcut ih => simp [ih]
  | case4 mode word c next rest after _ hcut ih => simp [ih]
  | case5 mode word c next rest after _ _ ih => simp [ih]

theorem flatten_wordsOf (part : List Char) : (wordsOf part).flatten = part := by
  cases part with
  | nil => rfl
  | cons c rest => exact flatten_wordsFrom .boundary [] (List.cons_ne_nil c rest)

theorem flatten_words (label : List Char) :
    (words label).flatten = label.filter isAlphanumeric := by
  rw [words, List.flatMap_def, List.flatten_flatten, List.map_map, ← flatten_parts]
  congr 1
  simp [Function.comp_def, flatten_wordsOf]

/-- While uppercase letters are read, the word at hand is not empty. -/
theorem nil_not_mem_wordsFrom {mode : Mode} {word cs : List Char}
    (h : mode = .uppercase → word ≠ []) : [] ∉ wordsFrom mode word cs := by
  fun_induction wordsFrom mode word cs with
  | case1 => simp
  | case2 mode word c => simp
  | case3 mode word c next rest after hcut ih => simp [ih]
  | case4 mode word c next rest after _ hcut ih =>
    simp only [Bool.and_eq_true, decide_eq_true_eq] at hcut
    have hword := h hcut.1.1
    simp [ih, hword.symm]
  | case5 mode word c next rest after _ _ ih => exact ih fun _ => by simp

theorem ne_nil_of_mem_words {label w : List Char} (h : w ∈ words label) : w ≠ [] := by
  obtain ⟨part, -, hw⟩ := List.mem_flatMap.mp h
  have hnone : [] ∉ wordsFrom .boundary [] part := nil_not_mem_wordsFrom (by simp)
  rintro rfl
  exact hnone hw

theorem isAlphanumeric_of_mem_words {label w : List Char} {c : Char} (hw : w ∈ words label)
    (hc : c ∈ w) : c ∈ label ∧ isAlphanumeric c = true := by
  have hmem : c ∈ label.filter isAlphanumeric :=
    flatten_words label ▸ List.mem_flatten.mpr ⟨w, hw, hc⟩
  exact List.mem_filter.mp hmem

/-! ## The name in camel case -/

theorem lower_ne_nil (c : Char) : lower c ≠ [] := by
  unfold lower
  split
  · simp
  · split <;> simp

theorem mem_lowerTail {cs : List Char} {d : Char} (h : d ∈ lowerTail cs) :
    d = finalSigma ∨ ∃ c ∈ cs, d ∈ lower c := by
  fun_induction lowerTail cs with
  | case1 => cases h
  | case2 => exact Or.inl (List.mem_singleton.mp h)
  | case3 c => exact Or.inr ⟨c, List.mem_singleton_self c, h⟩
  | case4 c rest _ ih =>
    rcases List.mem_append.mp h with h | h
    · exact Or.inr ⟨c, List.mem_cons_self, h⟩
    · rcases ih h with hsigma | ⟨c', hc', hd⟩
      · exact Or.inl hsigma
      · exact Or.inr ⟨c', List.mem_cons_of_mem c hc', hd⟩

theorem mem_capitalize {w : List Char} {d : Char} (h : d ∈ capitalize w) :
    d = finalSigma ∨ ∃ c ∈ w, d ∈ upper c ∨ d ∈ lower c := by
  cases w with
  | nil => cases h
  | cons c rest =>
    rcases List.mem_append.mp h with h | h
    · exact Or.inr ⟨c, List.mem_cons_self, Or.inl h⟩
    · rcases mem_lowerTail h with hsigma | ⟨c', hc', hd⟩
      · exact Or.inl hsigma
      · exact Or.inr ⟨c', List.mem_cons_of_mem c hc', Or.inr hd⟩

/-- The name of a label in characters of identifiers consists of such characters. -/
theorem isIdentifierContinue_of_mem_upperCamelCase {label : String} {d : Char}
    (h : d ∈ (upperCamelCase label).toList)
    (hlabel : ∀ c ∈ label.toList, isIdentifierContinue c = true) :
    isIdentifierContinue d = true := by
  rw [toList_upperCamelCase] at h
  obtain ⟨w, hw, hd⟩ := List.mem_flatMap.mp h
  rcases mem_capitalize hd with rfl | ⟨c, hc, hup | hlow⟩
  · decide +kernel
  · exact isIdentifierContinue_of_mem_upper hup
      (hlabel c (isAlphanumeric_of_mem_words hw hc).1)
  · exact isIdentifierContinue_of_mem_lower hlow
      (hlabel c (isAlphanumeric_of_mem_words hw hc).1)

/-- The name begins with the uppercase text of the first letter or number. -/
theorem upperCamelCase_head? (label : String) :
    (upperCamelCase label).toList.head? =
      (label.toList.filter isAlphanumeric).head?.bind fun c => (upper c).head? := by
  have hhead : ∀ ws : List (List Char), (ws.flatMap capitalize).head? =
      ws.flatten.head?.bind fun c => (upper c).head? := by
    intro ws
    induction ws with
    | nil => rfl
    | cons w ws ih =>
      cases w with
      | nil => simpa [capitalize] using ih
      | cons c rest =>
        cases hup : upper c with
        | nil => exact absurd hup (upper_ne_nil c)
        | cons d image => simp [capitalize, hup]
  rw [toList_upperCamelCase, hhead, flatten_words]

/-! ## The name `Self` -/

/-- The words that read `Self` once they are capitalised and are not cut further. -/
def selfWords : List (List Char) :=
  ["self".toList, "Self".toList, "SELF".toList, longS :: "elf".toList]

theorem ascii_of_lower_append {c : Char} {rest target : List Char}
    (h : lower c ++ rest = target) (htarget : ∀ d ∈ target, d ∈ ['e', 'l', 'f']) :
    c.toNat < 128 ∧ target = c.toLower :: rest := by
  obtain ⟨d, image, himage⟩ := List.exists_cons_of_ne_nil (lower_ne_nil c)
  have hd : d ∈ target := by
    rw [← h, himage]
    exact List.mem_cons_self
  obtain ⟨hlt, -⟩ := lower_ascii_image (by rw [himage]; rfl) (htarget d hd)
  rw [lower_ascii hlt] at h
  exact ⟨hlt, h.symm⟩

/-- A tail that reads as some of the letters e, l and f consists of them, in either case. -/
theorem map_toLower_of_lowerTail {cs target : List Char} (h : lowerTail cs = target)
    (htarget : ∀ d ∈ target, d ∈ ['e', 'l', 'f']) :
    cs.map Char.toLower = target ∧ ∀ c ∈ cs, c.toNat < 128 := by
  fun_induction lowerTail cs generalizing target with
  | case1 => exact ⟨h, fun _ hc => absurd hc List.not_mem_nil⟩
  | case2 => exact absurd (htarget finalSigma (h ▸ List.mem_singleton_self _)) (by decide)
  | case3 c =>
    obtain ⟨hlt, heq⟩ := ascii_of_lower_append ((List.append_nil _).trans h) htarget
    simp [heq, hlt]
  | case4 c rest _ ih =>
    obtain ⟨hlt, heq⟩ := ascii_of_lower_append h htarget
    obtain ⟨hmap, hall⟩ := ih rfl fun d hd => htarget d (heq ▸ List.mem_cons_of_mem _ hd)
    refine ⟨by rw [heq, List.map_cons, hmap], ?_⟩
    intro c' hc'
    rcases List.mem_cons.mp hc' with rfl | hc'
    · exact hlt
    · exact hall c' hc'

/-- Capitalised words do not go on with a lowercase letter where a word begins. -/
theorem eq_nil_of_flatMap_capitalize {ws : List (List Char)} {pre target : List Char}
    (h : pre ++ ws.flatMap capitalize = target) (htarget : target.all Char.isLower = true)
    (hne : ∀ w ∈ ws, w ≠ []) (halpha : ∀ w ∈ ws, ∀ c ∈ w, isAlphanumeric c = true) : ws = [] := by
  cases ws with
  | nil => rfl
  | cons w ws =>
    obtain ⟨c, rest, rfl⟩ := List.exists_cons_of_ne_nil (hne w List.mem_cons_self)
    obtain ⟨d, image, himage⟩ := List.exists_cons_of_ne_nil (upper_ne_nil c)
    have hc := halpha _ List.mem_cons_self c List.mem_cons_self
    obtain ⟨hlower, -⟩ := head_upper_not_lower (by rw [himage]; rfl) hc
    have hd : d ∈ target := by
      simp [← h, capitalize, himage]
    rw [List.all_eq_true.mp htarget d hd] at hlower
    cases hlower

theorem wordsOf_eq_of_words {label w : List Char} (h : words label = [w]) : wordsOf w = [w] := by
  obtain ⟨part, hpart, hw⟩ := List.mem_flatMap.mp (h ▸ List.mem_singleton_self w)
  have hsub : (wordsOf part).Sublist [w] := h ▸ List.sublist_flatten_of_mem
    (List.mem_map.mpr ⟨part, hpart, rfl⟩)
  have hone : wordsOf part = [w] := by
    have hpos := List.length_pos_of_mem hw
    have hle := hsub.length_le
    exact hsub.eq_of_length (by simp only [List.length_singleton] at hle ⊢; omega)
  have hflat := flatten_wordsOf part
  rw [hone] at hflat
  rw [← hone, ← hflat]
  simp

theorem eq_of_toLower {c d : Char} (h : c.toNat < 128) (hd : d ∈ ['e', 'l', 'f'])
    (heq : c.toLower = d) : c = d ∨ c = d.toUpper := by
  simp only [List.mem_cons, List.not_mem_nil, or_false] at hd
  rcases hd with rfl | rfl | rfl
  · exact (asciiCase h).2.2.2.1 heq
  · exact (asciiCase h).2.2.2.2.1 heq
  · exact (asciiCase h).2.2.2.2.2 heq

theorem selfWords_check : (['S', 's', longS].all fun c => ['e', 'E'].all fun x =>
    ['l', 'L'].all fun y => ['f', 'F'].all fun z =>
      wordsOf [c, x, y, z] != [[c, x, y, z]] || selfWords.contains [c, x, y, z]) = true := by
  decide +kernel

theorem selfWords_of_wordsOf {c x y z : Char} (hc : c ∈ ['S', 's', longS]) (hx : x ∈ ['e', 'E'])
    (hy : y ∈ ['l', 'L']) (hz : z ∈ ['f', 'F']) (h : wordsOf [c, x, y, z] = [[c, x, y, z]]) :
    [c, x, y, z] ∈ selfWords := by
  have hcheck := List.all_eq_true.mp (List.all_eq_true.mp (List.all_eq_true.mp
    (List.all_eq_true.mp selfWords_check c hc) x hx) y hy) z hz
  simpa [h] using hcheck

/-- The labels named `Self` are those of one word, which is `self` in one of four spellings. -/
theorem upperCamelCase_eq_self_iff (label : String) :
    upperCamelCase label = "Self" ↔ ∃ w ∈ selfWords, words label.toList = [w] := by
  rw [← String.toList_inj, toList_upperCamelCase]
  constructor
  · intro h
    cases hwords : words label.toList with
    | nil =>
      rw [hwords] at h
      cases h
    | cons w ws =>
      have hmem : ∀ w' ∈ w :: ws, w' ∈ words label.toList := fun w' hw' => hwords ▸ hw'
      obtain ⟨c, rest, rfl⟩ := List.exists_cons_of_ne_nil
        (ne_nil_of_mem_words (hmem w List.mem_cons_self))
      have htext : upper c ++ (lowerTail rest ++ ws.flatMap capitalize) =
          ['S', 'e', 'l', 'f'] := by
        rw [hwords] at h
        simpa [capitalize] using h
      obtain ⟨hS, hc⟩ := upper_prefix_self ⟨_, htext⟩
      have htail : lowerTail rest ++ ws.flatMap capitalize = ['e', 'l', 'f'] := by
        simpa [hS] using htext
      obtain rfl : ws = [] := eq_nil_of_flatMap_capitalize htail (by decide)
        (fun w' hw' => ne_nil_of_mem_words (hmem w' (List.mem_cons_of_mem _ hw')))
        (fun w' hw' c hc => (isAlphanumeric_of_mem_words (hmem w' (List.mem_cons_of_mem _ hw'))
          hc).2)
      rw [List.flatMap_nil, List.append_nil] at htail
      obtain ⟨hmap, hascii⟩ := map_toLower_of_lowerTail htail fun _ hd => hd
      obtain ⟨x, _, rfl, hx, hmap⟩ := List.map_eq_cons_iff.mp hmap
      obtain ⟨y, _, rfl, hy, hmap⟩ := List.map_eq_cons_iff.mp hmap
      obtain ⟨z, _, rfl, hz, hmap⟩ := List.map_eq_cons_iff.mp hmap
      obtain rfl := List.map_eq_nil_iff.mp hmap
      have hx' := eq_of_toLower (hascii x (by simp)) (by decide) hx
      have hy' := eq_of_toLower (hascii y (by simp)) (by decide) hy
      have hz' := eq_of_toLower (hascii z (by simp)) (by decide) hz
      refine ⟨_, selfWords_of_wordsOf hc ?_ ?_ ?_ (wordsOf_eq_of_words hwords), rfl⟩
      · rcases hx' with rfl | rfl <;> decide
      · rcases hy' with rfl | rfl <;> decide
      · rcases hz' with rfl | rfl <;> decide
  · rintro ⟨w, hw, hwords⟩
    have hall : ∀ w ∈ selfWords, [w].flatMap capitalize = "Self".toList := by
      decide +kernel
    rw [hwords]
    exact hall w hw

end TraitBuilder.Text.CamelCase
