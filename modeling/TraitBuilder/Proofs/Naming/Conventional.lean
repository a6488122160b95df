import TraitBuilder.Proofs.Naming.Trackable

/-!
# Conventional labels

A conventional label consists of words with single underscores between them, and each word of a
lowercase letter with lowercase letters and digits after it, all of them ASCII.  Labels are cut at
underscores and where the case changes, so no cut falls into such a word.  In camel case the
capitals then mark exactly where the words begin, and with an underscore and the lowercase letter in
place of each of them the label can be read back.

* `words_of_conventional`: the words of a conventional label are those it is made of.
* `underscored_upperCamelCase`: the label can be read back from its name in camel case.
* `variant?_of_conventional`: conventional labels have a name by which they can be tracked, and
  different ones have different names.
-/

namespace TraitBuilder

open Text

namespace Text.CamelCase

/-! ## Plain words -/

/-- A lowercase letter or a digit of ASCII. -/
def isPlain (c : Char) : Bool := c.isLower || c.isDigit

/-- The characters are a lowercase letter with lowercase letters and digits after it. -/
def isPlainWord : List Char → Bool
  | [] => false
  | c :: rest => c.isLower && rest.all isPlain

theorem isPlainWord_iff {w : List Char} :
    isPlainWord w = true ↔
      ∃ c rest, w = c :: rest ∧ c.isLower = true ∧ ∀ d ∈ rest, isPlain d = true := by
  cases w <;> simp [isPlainWord]

/-- The label consists of plain words with single underscores between them. -/
def Conventional (label : String) : Prop :=
  ∃ ws : List (List Char), ws ≠ [] ∧ (∀ w ∈ ws, isPlainWord w = true) ∧
    label.toList = ['_'].intercalate ws

theorem isPlain_of_isLower {c : Char} (h : c.isLower = true) : isPlain c = true := by
  simp [isPlain, h]

theorem toNat_lt_of_isPlain {c : Char} (h : isPlain c = true) : c.toNat < 128 := by
  have hbounds : (('a'.val ≤ c.val && c.val ≤ 'z'.val) ||
      ('0'.val ≤ c.val && c.val ≤ '9'.val)) = true := h
  simp only [Bool.or_eq_true, Bool.and_eq_true, decide_eq_true_eq,
    UInt32.le_iff_toNat_le] at hbounds
  have hz : 'z'.val.toNat = 122 := rfl
  have hnine : '9'.val.toNat = 57 := rfl
  rw [← Char.toNat_val]
  omega

/-- What is used of lowercase letters and digits: they are letters or numbers, have no capitals
among them, and are their own lowercase texts. -/
structure PlainChar (c : Char) : Prop where
  alphanumeric : isAlphanumeric c = true
  notUppercase : isUppercase c = false
  notUpper : c.isUpper = false
  lower : Text.lower c = [c]
  follows : isIdentifierContinue c = true

/-- What is used of lowercase letters: they may begin an identifier, and are told by their
capitals. -/
structure PlainLetter (c : Char) : Prop where
  starts : isIdentifierStart c = true
  upper : Text.upper c = [c.toUpper]
  capital : c.toUpper.isUpper = true
  lowered : c.toUpper.toLower = c

theorem plainChar {c : Char} (h : isPlain c = true) : PlainChar c := by
  have hascii := toNat_lt_of_isPlain h
  have hfacts : isAlphanumeric c = true ∧ isUppercase c = false ∧ c.isUpper = false ∧
      c.toLower = c ∧ isIdentifierContinue c = true :=
    ascii_forall (P := fun c => isPlain c = true → isAlphanumeric c = true ∧
      isUppercase c = false ∧ c.isUpper = false ∧ c.toLower = c ∧ isIdentifierContinue c = true)
      (by decide +kernel) hascii h
  obtain ⟨halpha, huppercase, hupper, hlower, hfollows⟩ := hfacts
  exact ⟨halpha, huppercase, hupper, by rw [lower_ascii hascii, hlower], hfollows⟩

theorem plainLetter {c : Char} (h : c.isLower = true) : PlainLetter c := by
  have hascii := toNat_lt_of_isPlain (isPlain_of_isLower h)
  have hfacts : isIdentifierStart c = true ∧ c.toUpper.isUpper = true ∧ c.toUpper.toLower = c :=
    ascii_forall (P := fun c => c.isLower = true → isIdentifierStart c = true ∧
      c.toUpper.isUpper = true ∧ c.toUpper.toLower = c) (by decide +kernel) hascii h
  exact ⟨hfacts.1, upper_ascii hascii, hfacts.2.1, hfacts.2.2⟩

theorem isPlain_of_isPlainWord {w : List Char} (h : isPlainWord w = true) :
    ∀ c ∈ w, isPlain c = true := by
  obtain ⟨c, rest, rfl, hc, hrest⟩ := isPlainWord_iff.mp h
  intro d hd
  rcases List.mem_cons.mp hd with rfl | hd
  · exact isPlain_of_isLower hc
  · exact hrest d hd

/-! ## Cutting -/

/-- A separator ends the first part. -/
theorem parts_append_separator {part : List Char} (h : ∀ c ∈ part, isAlphanumeric c = true)
    {separator : Char} (hseparator : isAlphanumeric separator = false) (rest : List Char) :
    parts (part ++ separator :: rest) = part :: parts rest := by
  induction part with
  | nil => simp [parts, hseparator]
  | cons c part ih =>
    rw [List.cons_append, parts, if_pos (h c List.mem_cons_self),
      ih fun d hd => h d (List.mem_cons_of_mem c hd)]

theorem parts_intercalate {ws : List (List Char)} (hne : ws ≠ [])
    (h : ∀ w ∈ ws, ∀ c ∈ w, isAlphanumeric c = true) : parts (['_'].intercalate ws) = ws := by
  induction ws with
  | nil => exact absurd rfl hne
  | cons w ws ih =>
    have hw := h w List.mem_cons_self
    cases ws with
    | nil => rw [List.intercalate_singleton, parts_of_all hw]
    | cons w' ws =>
      have hrest := ih (List.cons_ne_nil w' ws) fun v hv => h v (List.mem_cons_of_mem w hv)
      rw [List.intercalate_cons_cons, List.append_assoc, List.singleton_append,
        parts_append_separator hw rfl, hrest]

theorem wordsOf_of_isPlainWord {w : List Char} (h : isPlainWord w = true) : wordsOf w = [w] := by
  refine wordsOf_eq_singleton (fun c hc => ?_) ?_
  · exact (plainChar (isPlain_of_isPlainWord h c hc)).notUppercase
  · rintro rfl
    cases h

/-- No cut falls into a word of a conventional label. -/
theorem words_of_conventional {ws : List (List Char)} (hne : ws ≠ [])
    (h : ∀ w ∈ ws, isPlainWord w = true) : words (['_'].intercalate ws) = ws := by
  have hparts : parts (['_'].intercalate ws) = ws :=
    parts_intercalate hne fun w hw c hc =>
      (plainChar (isPlain_of_isPlainWord (h w hw) c hc)).alphanumeric
  rw [words, hparts, List.flatMap_congr fun w hw => wordsOf_of_isPlainWord (h w hw)]
  exact List.flatMap_singleton' ws

/-! ## Reading a name back -/

theorem lowerTail_of_isPlain {cs : List Char} (h : ∀ c ∈ cs, isPlain c = true) :
    lowerTail cs = cs := by
  fun_induction lowerTail cs with
  | case1 => rfl
  | case2 => exact absurd (h _ List.mem_cons_self) (by decide)
  | case3 c => exact (plainChar (h c List.mem_cons_self)).lower
  | case4 c rest _ ih =>
    rw [(plainChar (h c List.mem_cons_self)).lower, ih fun d hd => h d (List.mem_cons_of_mem c hd),
      List.singleton_append]

/-- The characters with an underscore and the lowercase letter in place of each capital. -/
def underscored (cs : List Char) : List Char :=
  cs.flatMap fun c => if c.isUpper then ['_', c.toLower] else [c]

theorem underscored_of_isPlain {cs : List Char} (h : ∀ c ∈ cs, isPlain c = true) :
    underscored cs = cs := by
  rw [underscored, List.flatMap_congr (g := fun c => [c]) fun c hc => ?_]
  · exact List.flatMap_singleton' cs
  · rw [(plainChar (h c hc)).notUpper]
    rfl

/-- Of a capitalised word only the first character is a capital. -/
theorem underscored_capitalize {w : List Char} (h : isPlainWord w = true) :
    underscored (capitalize w) = '_' :: w := by
  obtain ⟨c, rest, rfl, hc, hrest⟩ := isPlainWord_iff.mp h
  have hletter := plainLetter hc
  rw [capitalize, hletter.upper, lowerTail_of_isPlain hrest, underscored, List.singleton_append,
    List.flatMap_cons, hletter.capital, if_pos rfl, hletter.lowered]
  exact congrArg _ (underscored_of_isPlain hrest)

theorem flatMap_cons_underscore {ws : List (List Char)} (hne : ws ≠ []) :
    (ws.flatMap fun w => '_' :: w) = '_' :: ['_'].intercalate ws := by
  induction ws with
  | nil => exact absurd rfl hne
  | cons w ws ih =>
    cases ws with
    | nil => simp
    | cons w' ws =>
      rw [List.flatMap_cons, ih (List.cons_ne_nil w' ws), List.intercalate_cons_cons]
      simp

/-- With an underscore before every capital the name in camel case is the label again. -/
theorem underscored_upperCamelCase {label : String} (h : Conventional label) :
    underscored (upperCamelCase label).toList = '_' :: label.toList := by
  obtain ⟨ws, hne, hws, hlabel⟩ := h
  rw [toList_upperCamelCase, hlabel, words_of_conventional hne hws, underscored,
    List.flatMap_assoc, ← flatMap_cons_underscore hne]
  exact List.flatMap_congr fun w hw => underscored_capitalize (hws w hw)

theorem upperCamelCase_injective_of_conventional {label label' : String} (h : Conventional label)
    (h' : Conventional label') (heq : upperCamelCase label = upperCamelCase label') :
    label = label' := by
  have hread := underscored_upperCamelCase h
  rw [heq, underscored_upperCamelCase h', List.cons_eq_cons] at hread
  exact String.toList_inj.mp hread.2.symm

end Text.CamelCase

/-! ## Names for tracking -/

open Text.CamelCase

/-- The characters of a conventional label are those of identifiers. -/
theorem isIdentifierContinue_of_conventional {label : String} (h : Conventional label) :
    ∀ c ∈ label.toList, isIdentifierContinue c = true := by
  obtain ⟨ws, hne, hws, hlabel⟩ := h
  intro c hc
  have hmem : c ∈ ws.flatMap fun w => '_' :: w := by
    rw [flatMap_cons_underscore hne, ← hlabel]
    exact List.mem_cons_of_mem _ hc
  obtain ⟨w, hw, hc⟩ := List.mem_flatMap.mp hmem
  rcases List.mem_cons.mp hc with rfl | hc
  · rfl
  · exact (plainChar (isPlain_of_isPlainWord (hws w hw) c hc)).follows

/-- The first letter of a conventional label may begin an identifier. -/
theorem nameable_of_conventional {label : String} (h : Conventional label) : Nameable label := by
  obtain ⟨ws, hne, hws, hlabel⟩ := h
  obtain ⟨w, rest, rfl⟩ := List.exists_cons_of_ne_nil hne
  obtain ⟨c, cs, rfl, hc, -⟩ := isPlainWord_iff.mp (hws w List.mem_cons_self)
  refine ⟨c, ?_, Or.inl (plainLetter hc).starts⟩
  rw [hlabel, ← flatten_words, words_of_conventional hne hws]
  rfl

/-- Conventional labels have a name by which they can be tracked, and labels of one name are the
same. -/
theorem variant?_of_conventional {label label' : String} (h : Conventional label)
    (h' : Conventional label') :
    (∃ x, variant? label = .ok x) ∧ (variant? label = variant? label' → label = label') := by
  have hsome := (variant?_eq_ok_iff (isIdentifierContinue_of_conventional h)).mpr
    (nameable_of_conventional h)
  refine ⟨hsome, fun heq => ?_⟩
  obtain ⟨x, hx⟩ := hsome
  have hname := eq_variantName_of_variant? hx
  have hname' := eq_variantName_of_variant? (heq ▸ hx)
  refine upperCamelCase_injective_of_conventional h h' ?_
  exact congrArg Ident.name (hname.symm.trans hname')

/-- The labels `utf8_text` and `utf8text` are named `Utf8Text` and `Utf8text`. -/
theorem utf8Text_variant? : Conventional "utf8_text" ∧ Conventional "utf8text" ∧
    (∃ x, variant? "utf8_text" = .ok x) ∧
      (variant? "utf8_text" = variant? "utf8text" → "utf8_text" = "utf8text") := by
  have h : Conventional "utf8_text" :=
    ⟨["utf8".toList, "text".toList], by decide, by decide, by decide⟩
  have h' : Conventional "utf8text" := ⟨["utf8text".toList], by decide, by decide, by decide⟩
  exact ⟨h, h', variant?_of_conventional h h'⟩

end TraitBuilder
