import TraitBuilder.Text.CaseMap
import TraitBuilder.Text.Letter

/-!
# Capitalised words

A label in any convention (`first_name`, `firstName`, `FIRST_NAME`) becomes a name of capitalised
words without separators (`FirstName`).  The label is cut at every character that is no letter or
number, and each part is cut again where the case changes: after a lowercase stretch that an
uppercase letter follows, and before the last letter of an uppercase stretch that a lowercase
letter follows.

* `parts_of_all`: a label of letters and numbers only is one part.
* `wordsOf_eq_singleton`: a part without uppercase letters is one word.
-/

namespace TraitBuilder.Text.CamelCase

/-- The case of the last cased character of the current word. -/
inductive Mode where
  /-- The word has no cased character yet. -/
  | boundary
  | lowercase
  | uppercase
  deriving DecidableEq, Repr

/-- The mode once `c` belongs to the word; an uncased character changes nothing. -/
def Mode.after (mode : Mode) (c : Char) : Mode :=
  if isLowercase c then .lowercase else if isUppercase c then .uppercase else mode

/-- The maximal stretches of letters and numbers, with an empty one between two neighbouring
separators and at an end that is a separator. -/
def parts : List Char → List (List Char)
  | [] => [[]]
  | c :: rest =>
    if isAlphanumeric c then
      match parts rest with
      | [] => [[c]]
      | part :: others => (c :: part) :: others
    else [] :: parts rest

/-- The words of one part.  `word` holds the characters of the current word read so far and `mode`
the case of the last cased one among them. -/
def wordsFrom (mode : Mode) (word : List Char) : List Char → List (List Char)
  | [] => []
  | [c] => [word ++ [c]]
  | c :: next :: rest =>
    let after := mode.after c
    if after = .lowercase && isUppercase next then
      (word ++ [c]) :: wordsFrom .boundary [] (next :: rest)
    else if mode = .uppercase && isUppercase c && isLowercase next then
      word :: wordsFrom .boundary [c] (next :: rest)
    else wordsFrom after (word ++ [c]) (next :: rest)

/-- The words of one part. -/
def wordsOf (part : List Char) : List (List Char) := wordsFrom .boundary [] part

/-- The capital sigma. -/
def capitalSigma : Char := Char.ofNat 0x3a3

/-- The small sigma that ends a word. -/
def finalSigma : Char := Char.ofNat 0x3c2

/-- The tail of a word in lowercase; a sigma at its end takes the form for the end of a word. -/
def lowerTail : List Char → List Char
  | [] => []
  | [c] => if c = capitalSigma then [finalSigma] else lower c
  | c :: rest => lower c ++ lowerTail rest

/-- The word with a capital first letter and the rest in lowercase. -/
def capitalize : List Char → List Char
  | [] => []
  | c :: rest => upper c ++ lowerTail rest

/-- The label as capitalised words without separators. -/
def upperCamelCase (label : String) : String :=
  String.ofList ((parts label.toList).flatMap fun part => (wordsOf part).flatMap capitalize)

theorem parts_of_all {label : List Char} (h : ∀ c ∈ label, isAlphanumeric c = true) :
    parts label = [label] := by
  induction label with
  | nil => rfl
  | cons c rest ih =>
    simp only [List.mem_cons, forall_eq_or_imp] at h
    simp [parts, h.1, ih h.2]

theorem wordsFrom_eq_singleton {part : List Char} (h : ∀ c ∈ part, isUppercase c = false)
    (hne : part ≠ []) (mode : Mode) (word : List Char) :
    wordsFrom mode word part = [word ++ part] := by
  induction part generalizing mode word with
  | nil => exact absurd rfl hne
  | cons c rest ih =>
    simp only [List.mem_cons, forall_eq_or_imp] at h
    cases rest with
    | nil => rfl
    | cons next rest =>
      have hnext : isUppercase next = false := h.2 next (by simp)
      simp [wordsFrom, h.1, hnext, ih h.2]

theorem wordsOf_eq_singleton {part : List Char} (h : ∀ c ∈ part, isUppercase c = false)
    (hne : part ≠ []) : wordsOf part = [part] := by
  simpa [wordsOf] using wordsFrom_eq_singleton h hne .boundary []

end TraitBuilder.Text.CamelCase
