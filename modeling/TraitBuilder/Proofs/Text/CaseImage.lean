import TraitBuilder.Text.CaseMap
import TraitBuilder.Text.IdentifierChar
import TraitBuilder.Text.Letter

/-!
# Case mappings and identifiers

What the uppercase and the lowercase text of a character may consist of.  The tables are checked
run by run: almost every run and its image lie within one range of characters that begin an
identifier, and the characters of the few other runs are checked one by one.

* `isIdentifierContinue_of_mem_upper`, `isIdentifierContinue_of_mem_lower`: the text of a character
  that may follow in an identifier consists of such characters.
* `isIdentifierStart_head_upper_iff`: the uppercase text of a character may begin an identifier
  exactly if the character may, or is the one combining mark whose uppercase text is a letter.
* `upper_prefix_self`, `lower_ascii_image`: the characters past ASCII whose texts are ASCII.
-/

namespace TraitBuilder.Text

/-! ## Runs -/

/-- Whether all characters of a run and their images satisfy the check. -/
def runForall (check : Nat → Nat → Bool) : Nat × Nat × Nat × Nat → Bool
  | (first, last, step, image) => (List.range (last - first + 1)).all fun k =>
    k % step != 0 || check (first + k) (k + image)

theorem mapRuns_cases (runs : List (Nat × Nat × Nat × Nat)) (c : Char) :
    mapRuns runs c = c ∨ ∃ first last step image, (first, last, step, image) ∈ runs ∧
      inRun first last step c.toNat = true ∧
        mapRuns runs c = Char.ofNat (c.toNat - first + image) := by
  cases hfind : runs.find? fun (first, last, step, _) => inRun first last step c.toNat with
  | none =>
    left
    simp only [mapRuns, hfind]
  | some run =>
    obtain ⟨first, last, step, image⟩ := run
    right
    refine ⟨first, last, step, image, List.mem_of_find?_eq_some hfind, ?_, ?_⟩
    · simpa using List.find?_some hfind
    · simp only [mapRuns, hfind]

theorem inRun_bounds {first last step n : Nat} (h : inRun first last step n = true) :
    first ≤ n ∧ n ≤ last := by
  simp only [inRun, Bool.and_eq_true, decide_eq_true_eq] at h
  exact h.1

theorem check_of_runForall {check : Nat → Nat → Bool} {first last step image n : Nat}
    (h : runForall check (first, last, step, image) = true)
    (hn : inRun first last step n = true) : check n (n - first + image) = true := by
  obtain ⟨hfirst, hlast⟩ := inRun_bounds hn
  have hk := List.all_eq_true.mp h (n - first) (List.mem_range.mpr (by omega))
  have hstep : (n - first) % step = 0 := by
    simp only [inRun, Bool.and_eq_true, beq_iff_eq] at hn
    exact hn.2
  simpa [hstep, show first + (n - first) = n by omega] using hk

/-! ## Ranges of identifier characters -/

/-- Whether one of the ranges holds all numbers from `first` to `last`. -/
def covers (ranges : List (Nat × Nat)) (first last : Nat) : Bool :=
  ranges.any fun r => Nat.ble r.1 first && Nat.ble last r.2

/-- The tabulated ranges are past ASCII and free of numbers that are no character. -/
theorem bounds_of_identifierRanges : ∀ r ∈ identifierStartRanges ++ identifierExtraRanges,
    128 ≤ r.1 ∧ r.2 < 0x110000 ∧ (r.2 < 0xd800 ∨ 0xdfff < r.1) := by
  decide +kernel

theorem toNat_ofNat_of_valid {n : Nat} (h : n < 0x110000) (hs : n < 0xd800 ∨ 0xdfff < n) :
    (Char.ofNat n).toNat = n := by
  have hvalid : n.isValidChar := by
    unfold Nat.isValidChar
    omega
  rw [Char.ofNat, dif_pos hvalid]
  rfl

theorem inRanges_of_covers {ranges : List (Nat × Nat)} {first last n : Nat}
    (hsub : ranges ⊆ identifierStartRanges ++ identifierExtraRanges)
    (h : covers ranges first last = true) (hfirst : first ≤ n) (hlast : n ≤ last) :
    128 ≤ (Char.ofNat n).toNat ∧ inRanges ranges (Char.ofNat n) = true := by
  obtain ⟨⟨a, b⟩, hr, hab⟩ := List.any_eq_true.mp h
  simp only [Bool.and_eq_true, Nat.ble_eq] at hab
  obtain ⟨hlow, hhigh, hsurrogate⟩ := bounds_of_identifierRanges _ (hsub hr)
  rw [toNat_ofNat_of_valid (by omega) (by omega)]
  refine ⟨by omega, List.any_eq_true.mpr ⟨(a, b), hr, ?_⟩⟩
  rw [toNat_ofNat_of_valid (by omega) (by omega)]
  simp only [Bool.and_eq_true, decide_eq_true_eq]
  omega

theorem isIdentifierStart_of_covers {first last n : Nat}
    (h : covers identifierStartRanges first last = true) (hfirst : first ≤ n) (hlast : n ≤ last) :
    isIdentifierStart (Char.ofNat n) = true := by
  obtain ⟨hlow, hin⟩ := inRanges_of_covers (List.subset_append_left _ _) h hfirst hlast
  simp only [isIdentifierStart, show ¬ (Char.ofNat n).toNat < 128 by omega, if_false, hin]

/-- Whether the character of number `n` may begin an identifier. -/
def mayStart (n : Nat) : Bool :=
  if n < 128 then isIdentifierStart (Char.ofNat n) else covers identifierStartRanges n n

/-- Whether the character of number `n` may follow in an identifier. -/
def mayFollow (n : Nat) : Bool := mayStart n || covers identifierExtraRanges n n

theorem isIdentifierStart_of_mayStart {n : Nat} (h : mayStart n = true) :
    isIdentifierStart (Char.ofNat n) = true := by
  unfold mayStart at h
  split at h
  · exact h
  · exact isIdentifierStart_of_covers h (Nat.le_refl n) (Nat.le_refl n)

theorem isIdentifierContinue_of_mayFollow {n : Nat} (h : mayFollow n = true) :
    isIdentifierContinue (Char.ofNat n) = true := by
  rcases Bool.or_eq_true _ _ ▸ h with h | h
  · exact isIdentifierContinue_of_start (isIdentifierStart_of_mayStart h)
  · obtain ⟨hlow, hin⟩ :=
      inRanges_of_covers (List.subset_append_right _ _) h (Nat.le_refl n) (Nat.le_refl n)
    simp only [isIdentifierContinue, show ¬ (Char.ofNat n).toNat < 128 by omega, if_false, hin,
      Bool.or_true]

/-- Whether no number from `first` to `last` is a character that may follow in an identifier. -/
def avoidsIdentifiers (first last : Nat) : Bool :=
  Nat.ble 128 first && (identifierStartRanges ++ identifierExtraRanges).all fun r =>
    Nat.blt r.2 first || Nat.blt last r.1

theorem not_isIdentifierContinue_of_avoids {first last : Nat} {c : Char}
    (h : avoidsIdentifiers first last = true) (hfirst : first ≤ c.toNat)
    (hlast : c.toNat ≤ last) : isIdentifierContinue c = false := by
  simp only [avoidsIdentifiers, Bool.and_eq_true, Nat.ble_eq, List.all_eq_true,
    Bool.or_eq_true, Nat.blt_eq] at h
  obtain ⟨hlow, hall⟩ := h
  have hout : ∀ ranges ⊆ identifierStartRanges ++ identifierExtraRanges,
      inRanges ranges c = false := by
    intro ranges hsub
    refine List.any_eq_false.mpr fun r hr => ?_
    have := hall r (hsub hr)
    simp only [Bool.and_eq_true, decide_eq_true_eq]
    omega
  simp only [isIdentifierContinue, show ¬ c.toNat < 128 by omega, if_false,
    Bool.or_eq_false_iff]
  exact ⟨hout _ (List.subset_append_left _ _), hout _ (List.subset_append_right _ _)⟩

/-! ## Characters of ASCII -/

/-- A fact about all characters of ASCII can be decided. -/
theorem ascii_forall {P : Char → Prop} (h : ∀ n < 128, P (Char.ofNat n)) {c : Char}
    (hc : c.toNat < 128) : P c := by
  have := h c.toNat hc
  rwa [Char.ofNat_toNat] at this

/-- The other case of a character of ASCII is as good for an identifier, and no letter of `self` is
the lowercase letter of any character but its own two cases. -/
def AsciiCase (c : Char) : Prop :=
  (isIdentifierStart c.toUpper = isIdentifierStart c ∧
    isIdentifierContinue c.toUpper = isIdentifierContinue c ∧
    isIdentifierContinue c.toLower = isIdentifierContinue c) ∧
  (isAlphanumeric c = true → c.toUpper.isLower = false ∧ c.toUpper ≠ '_') ∧
  (c.toUpper = 'S' → c = 'S' ∨ c = 's') ∧
  (c.toLower = 'e' → c = 'e' ∨ c = 'E') ∧
  (c.toLower = 'l' → c = 'l' ∨ c = 'L') ∧
  (c.toLower = 'f' → c = 'f' ∨ c = 'F')

instance (c : Char) : Decidable (AsciiCase c) := inferInstanceAs (Decidable (_ ∧ _))

theorem asciiCase {c : Char} (hc : c.toNat < 128) : AsciiCase c :=
  ascii_forall (by decide +kernel) hc

/-! ## Uppercase texts -/

/-- The combining mark whose uppercase text is a letter. -/
def combiningIota : Char := Char.ofNat 0x345

/-- A run of characters that begin an identifier, as their images do. -/
def startRun : Nat × Nat × Nat × Nat → Bool
  | (first, last, _, image) => covers identifierStartRanges first last &&
    covers identifierStartRanges image (last - first + image)

/-- The image begins an identifier, as does the character unless it is the combining mark. -/
def upperCheck (n image : Nat) : Bool := mayStart image && (mayStart n || n == 0x345)

/-- What holds of every run; only the runs of the dotless i and of the long s lead into ASCII. -/
theorem upperRuns_check : ∀ r ∈ upperRuns,
    (startRun r || avoidsIdentifiers r.1 r.2.1 || runForall upperCheck r) = true ∧
      (r.2.2.2 < 128 → r = (0x131, 0x131, 1, 0x49) ∨ r = (0x17f, 0x17f, 1, 0x53)) := by
  decide +kernel

/-- What holds of every listed text; none begins with a lowercase letter of ASCII. -/
theorem upperExpansions_check : ∀ e ∈ upperExpansions,
    (mayStart e.1 && e.2.head?.any mayStart && e.2.all mayFollow) = true ∧
      (e.2.head?.all fun n => !(Char.ofNat n).isLower && Char.ofNat n != '_') = true ∧
      ¬ e.2.map Char.ofNat <+: ['S', 'e', 'l', 'f'] := by
  decide +kernel

/-- The uppercase image of a character of identifiers begins an identifier if it is another one. -/
theorem mapRuns_upperRuns {c : Char} (hc : isIdentifierContinue c = true) :
    mapRuns upperRuns c = c ∨ isIdentifierStart (mapRuns upperRuns c) = true ∧
      (isIdentifierStart c = true ∨ c = combiningIota) := by
  rcases mapRuns_cases upperRuns c with hsame | ⟨first, last, step, image, hr, hin, himage⟩
  · exact Or.inl hsame
  right
  rw [himage]
  obtain ⟨hfirst, hlast⟩ := inRun_bounds hin
  have hcheck := (upperRuns_check _ hr).1
  simp only [Bool.or_eq_true] at hcheck
  rcases hcheck with (hstart | havoid) | hall
  · simp only [startRun, Bool.and_eq_true] at hstart
    have hsource := isIdentifierStart_of_covers hstart.1 hfirst hlast
    rw [Char.ofNat_toNat] at hsource
    exact ⟨isIdentifierStart_of_covers hstart.2 (by omega) (by omega), Or.inl hsource⟩
  · rw [not_isIdentifierContinue_of_avoids havoid hfirst hlast] at hc
    cases hc
  · have hone := check_of_runForall hall hin
    simp only [upperCheck, Bool.and_eq_true, Bool.or_eq_true, beq_iff_eq] at hone
    refine ⟨isIdentifierStart_of_mayStart hone.1, ?_⟩
    rcases hone.2 with hsource | hiota
    · left
      simpa using isIdentifierStart_of_mayStart hsource
    · right
      rw [combiningIota, ← hiota, Char.ofNat_toNat]

/-- The uppercase text of a character past ASCII is a listed one or the image under the runs. -/
theorem upper_cases {c : Char} (h : 128 ≤ c.toNat) :
    (∃ e ∈ upperExpansions, e.1 = c.toNat ∧ upper c = e.2.map Char.ofNat) ∨
      upper c = [mapRuns upperRuns c] := by
  simp only [upper, show ¬ c.toNat < 128 by omega, if_false]
  cases hfind : upperExpansions.find? (·.1 == c.toNat) with
  | none => exact Or.inr rfl
  | some e =>
    left
    have hnumber := List.find?_some hfind
    exact ⟨e, List.mem_of_find?_eq_some hfind, by simpa using hnumber, rfl⟩

theorem upper_ne_nil (c : Char) : upper c ≠ [] := by
  by_cases h : c.toNat < 128
  · simp [upper_ascii h]
  rcases upper_cases (Nat.le_of_not_lt h) with ⟨e, he, -, hup⟩ | hup
  · have hcheck := (upperExpansions_check e he).1
    simp only [Bool.and_eq_true] at hcheck
    rw [hup]
    intro hnil
    rw [List.map_eq_nil_iff.mp hnil] at hcheck
    exact absurd hcheck.1.2 (by decide)
  · simp [hup]

theorem isIdentifierContinue_of_mem_upper {c d : Char} (hd : d ∈ upper c)
    (hc : isIdentifierContinue c = true) : isIdentifierContinue d = true := by
  by_cases h : c.toNat < 128
  · rw [upper_ascii h, List.mem_singleton] at hd
    rw [hd, (asciiCase h).1.2.1, hc]
  rcases upper_cases (Nat.le_of_not_lt h) with ⟨e, he, -, hup⟩ | hup
  · have hcheck := (upperExpansions_check e he).1
    simp only [Bool.and_eq_true] at hcheck
    rw [hup] at hd
    obtain ⟨n, hn, rfl⟩ := List.mem_map.mp hd
    exact isIdentifierContinue_of_mayFollow (List.all_eq_true.mp hcheck.2 n hn)
  · rw [hup, List.mem_singleton] at hd
    rw [hd]
    rcases mapRuns_upperRuns hc with hsame | ⟨hstart, -⟩
    · rw [hsame, hc]
    · exact isIdentifierContinue_of_start hstart

/-- An uppercase text begins an identifier exactly if its character does or is the combining
mark. -/
theorem isIdentifierStart_head_upper_iff {c d : Char} (hd : (upper c).head? = some d)
    (hc : isIdentifierContinue c = true) :
    isIdentifierStart d = true ↔ isIdentifierStart c = true ∨ c = combiningIota := by
  by_cases h : c.toNat < 128
  · have hne : c ≠ combiningIota := fun heq => absurd (heq ▸ h) (by decide)
    rw [upper_ascii h, List.head?_cons, Option.some.injEq] at hd
    simp [← hd, (asciiCase h).1.1, hne]
  rcases upper_cases (Nat.le_of_not_lt h) with ⟨e, he, hnumber, hup⟩ | hup
  · have hcheck := (upperExpansions_check e he).1
    simp only [Bool.and_eq_true] at hcheck
    obtain ⟨⟨hsource, hhead⟩, -⟩ := hcheck
    have hc' := isIdentifierStart_of_mayStart hsource
    rw [hnumber, Char.ofNat_toNat] at hc'
    rw [hup, List.head?_map] at hd
    obtain ⟨n, hn, rfl⟩ := Option.map_eq_some_iff.mp hd
    rw [hn] at hhead
    simp [hc', isIdentifierStart_of_mayStart hhead]
  · rw [hup, List.head?_cons, Option.some.injEq] at hd
    subst hd
    rcases mapRuns_upperRuns hc with hsame | ⟨hstart, hsource⟩
    · have hne : c ≠ combiningIota := fun heq => absurd (heq ▸ hsame) (by decide +kernel)
      simp [hsame, hne]
    · simp [hstart, hsource]

/-! ## Lowercase texts -/

/-- The image may follow in an identifier. -/
def lowerCheck (_ image : Nat) : Bool := mayFollow image

/-- What holds of every run; only that of the Kelvin sign leads into ASCII. -/
theorem lowerRuns_check : ∀ r ∈ lowerRuns,
    (covers identifierStartRanges r.2.2.2 (r.2.1 - r.1 + r.2.2.2) ||
      avoidsIdentifiers r.1 r.2.1 || runForall lowerCheck r) = true ∧
      (r.2.2.2 < 128 → r = (0x212a, 0x212a, 1, 0x6b)) := by
  decide +kernel

theorem isIdentifierContinue_of_mem_lower {c d : Char} (hd : d ∈ lower c)
    (hc : isIdentifierContinue c = true) : isIdentifierContinue d = true := by
  unfold lower at hd
  split at hd
  · rename_i h
    rw [List.mem_singleton.mp hd, (asciiCase h).1.2.2, hc]
  split at hd
  · have hboth : [Char.ofNat 0x69, Char.ofNat 0x307].all isIdentifierContinue = true := by
      decide +kernel
    exact List.all_eq_true.mp hboth d hd
  rw [List.mem_singleton.mp hd]
  rcases mapRuns_cases lowerRuns c with hsame | ⟨first, last, step, image, hr, hin, himage⟩
  · rw [hsame, hc]
  rw [himage]
  obtain ⟨hfirst, hlast⟩ := inRun_bounds hin
  have hcheck := (lowerRuns_check _ hr).1
  simp only [Bool.or_eq_true] at hcheck
  rcases hcheck with (hstart | havoid) | hall
  · exact isIdentifierContinue_of_start
      (isIdentifierStart_of_covers hstart (by omega) (by omega))
  · rw [not_isIdentifierContinue_of_avoids havoid hfirst hlast] at hc
    cases hc
  · exact isIdentifierContinue_of_mayFollow (check_of_runForall hall hin)

/-! ## Images in ASCII -/

/-- A number whose character is in ASCII, and not the null character, is that of the character. -/
theorem eq_toNat_of_ofNat {n : Nat} {d : Char} (h : Char.ofNat n = d) (hne : d ≠ '\x00') :
    n = d.toNat := by
  by_cases hvalid : n.isValidChar
  · rw [← h, Char.ofNat, dif_pos hvalid]
    rfl
  · rw [Char.ofNat, dif_neg hvalid] at h
    exact absurd h.symm hne

/-- A character past ASCII whose image is in ASCII lies in a run whose images begin in ASCII. -/
theorem run_of_ascii_image {runs : List (Nat × Nat × Nat × Nat)} {c d : Char}
    (h : 128 ≤ c.toNat) (hd : mapRuns runs c = d) (hlt : d.toNat < 128) (hne : d ≠ '\x00') :
    ∃ r ∈ runs, r.2.2.2 < 128 ∧ inRun r.1 r.2.1 r.2.2.1 c.toNat = true ∧
      d.toNat = c.toNat - r.1 + r.2.2.2 := by
  rcases mapRuns_cases runs c with hsame | ⟨first, last, step, image, hr, hin, himage⟩
  · rw [hsame] at hd
    rw [hd] at h
    omega
  · have hnumber := eq_toNat_of_ofNat (himage.symm.trans hd) hne
    exact ⟨_, hr, show image < 128 by omega, hin, hnumber.symm⟩

/-- The long s, a lowercase letter with the uppercase letter `S`. -/
def longS : Char := Char.ofNat 0x17f

/-- A character past ASCII whose uppercase image is in ASCII is the dotless i or the long s. -/
theorem mapRuns_upperRuns_ascii {c d : Char} (h : 128 ≤ c.toNat)
    (hd : mapRuns upperRuns c = d) (hlt : d.toNat < 128) (hne : d ≠ '\x00') :
    d = 'I' ∨ d = 'S' ∧ c = longS := by
  obtain ⟨r, hr, himage, hin, hnumber⟩ := run_of_ascii_image h hd hlt hne
  obtain ⟨hfirst, hlast⟩ := inRun_bounds hin
  rcases (upperRuns_check r hr).2 himage with rfl | rfl
  · left
    have hd' : d.toNat = 'I'.toNat := by
      rw [hnumber, show 'I'.toNat = 0x49 from rfl]
      simp only at hfirst hlast ⊢
      omega
    exact Char.toNat_inj.mp hd'
  · right
    have hc' : c.toNat = longS.toNat := by
      rw [show longS.toNat = 0x17f from rfl]
      simp only at hfirst hlast
      omega
    have hd' : d.toNat = 'S'.toNat := by
      rw [hnumber, hc']
      rfl
    exact ⟨Char.toNat_inj.mp hd', Char.toNat_inj.mp hc'⟩

theorem not_isLower_of_past_ascii {d : Char} (h : 128 ≤ d.toNat) :
    d.isLower = false ∧ d ≠ '_' := by
  constructor
  · have hiff : d.isLower = true ↔ 97 ≤ d.toNat ∧ d.toNat ≤ 122 := by
      rw [show d.isLower = (d.val ≥ 'a'.val && d.val ≤ 'z'.val) from rfl]
      simp [UInt32.le_iff_toNat_le, ← Char.toNat_val]
    rw [← Bool.not_eq_true, hiff]
    omega
  · rintro rfl
    exact absurd h (by decide)

/-- No uppercase text begins with a lowercase letter of ASCII. -/
theorem head_upper_not_lower {c d : Char} (hd : (upper c).head? = some d)
    (hc : isAlphanumeric c = true) : d.isLower = false ∧ d ≠ '_' := by
  by_cases h : c.toNat < 128
  · rw [upper_ascii h, List.head?_cons, Option.some.injEq] at hd
    exact hd ▸ (asciiCase h).2.1 hc
  rcases upper_cases (Nat.le_of_not_lt h) with ⟨e, he, -, hup⟩ | hup
  · have hcheck := (upperExpansions_check e he).2.1
    rw [hup, List.head?_map] at hd
    obtain ⟨n, hn, rfl⟩ := Option.map_eq_some_iff.mp hd
    simpa [hn] using hcheck
  · rw [hup, List.head?_cons, Option.some.injEq] at hd
    by_cases hlt : d.toNat < 128
    · by_cases hne : d = '\x00'
      · subst hne
        decide
      · rcases mapRuns_upperRuns_ascii (Nat.le_of_not_lt h) hd hlt hne with rfl | ⟨rfl, -⟩ <;>
          decide
    · exact not_isLower_of_past_ascii (Nat.le_of_not_lt hlt)

theorem upper_prefix_self {c : Char} (h : upper c <+: ['S', 'e', 'l', 'f']) :
    upper c = ['S'] ∧ c ∈ ['S', 's', longS] := by
  by_cases hc : c.toNat < 128
  · rw [upper_ascii hc] at h ⊢
    have hS : c.toUpper = 'S' := (List.cons_prefix_cons.mp h).1
    rcases (asciiCase hc).2.2.1 hS with rfl | rfl <;> exact ⟨by rw [hS], by simp⟩
  rcases upper_cases (Nat.le_of_not_lt hc) with ⟨e, he, -, hup⟩ | hup
  · exact absurd (hup ▸ h) (upperExpansions_check e he).2.2
  · rw [hup, List.cons_prefix_cons] at h
    obtain ⟨hS, -⟩ := h
    rcases mapRuns_upperRuns_ascii (Nat.le_of_not_lt hc) hS (by decide) (by decide) with
      hI | ⟨-, rfl⟩
    · exact absurd hI (by decide)
    · simp [hup, hS]

/-- Only the two cases of a letter other than i and k have it in their lowercase text. -/
theorem lower_ascii_image {c d : Char} (hd : (lower c).head? = some d)
    (hd' : d ∈ ['e', 'l', 'f']) : c.toNat < 128 ∧ c.toLower = d := by
  have hlt : d.toNat < 128 ∧ d ≠ '\x00' ∧ d ≠ 'i' ∧ d ≠ 'k' := by
    simp only [List.mem_cons, List.not_mem_nil, or_false] at hd'
    rcases hd' with rfl | rfl | rfl <;> decide
  unfold lower at hd
  split at hd
  · rename_i h
    exact ⟨h, by simpa using hd⟩
  exfalso
  split at hd
  · exact hlt.2.2.1 (by simpa using hd.symm)
  · rename_i h _
    rw [List.head?_cons, Option.some.injEq] at hd
    obtain ⟨r, hr, himage, hin, hnumber⟩ :=
      run_of_ascii_image (Nat.le_of_not_lt h) hd hlt.1 hlt.2.1
    obtain ⟨hfirst, hlast⟩ := inRun_bounds hin
    obtain rfl := (lowerRuns_check r hr).2 himage
    refine hlt.2.2.2 (Char.toNat_inj.mp ?_)
    rw [hnumber, show 'k'.toNat = 0x6b from rfl]
    simp only at hfirst hlast ⊢
    omega

end TraitBuilder.Text
