import Mathlib.Data.List.Forall2
import TraitBuilder.Generated.Source

/-!
# Renaming identifiers in tokens

A renaming sends identifiers to identifiers.  It is applied to the identifiers of a token sequence
at every depth, all at once; punctuation and literals stay as they are.  Raw identifiers and plain
ones are renamed apart.

The words that generated code has of its own form a vocabulary, which the renamings of interest
keep.

* `keeps_of_idents`: a renaming that keeps all identifiers of a sequence keeps the sequence.
* `Token.renameAll_flatMap`: the parts of a sequence are renamed one by one.
* `KeepsWords.library`: the functions of libraries are kept.
-/

namespace TraitBuilder

open Code

/-- A map of identifiers. -/
abbrev Renaming := Ident → Ident

namespace Token

mutual

/-- The identifiers in a token. -/
def idents : Token → List Ident
  | .ident x => [x]
  | .punct _ _ | .literal _ => []
  | .group _ content => identsOfAll content

/-- The identifiers in tokens. -/
def identsOfAll : List Token → List Ident
  | [] => []
  | t :: rest => t.idents ++ identsOfAll rest

end

mutual

/-- The token with its identifiers renamed. -/
def rename (r : Renaming) : Token → Token
  | .ident x => .ident (r x)
  | .punct char joint => .punct char joint
  | .literal text => .literal text
  | .group delimiter content => .group delimiter (renameAll r content)

/-- The tokens with their identifiers renamed. -/
def renameAll (r : Renaming) : List Token → List Token
  | [] => []
  | t :: rest => t.rename r :: renameAll r rest

end

/-! ## Sequences -/

section

variable (r : Renaming)

@[simp] theorem rename_ident (x : Ident) : (ident x).rename r = .ident (r x) := by
  simp [rename]

@[simp] theorem rename_punct (char : Char) (joint : Bool) :
    (punct char joint).rename r = .punct char joint := by
  simp [rename]

@[simp] theorem rename_literal (text : String) : (literal text).rename r = .literal text := by
  simp [rename]

@[simp] theorem rename_string (text : String) : (string text).rename r = string text :=
  rename_literal r _

@[simp] theorem rename_group (delimiter : Delimiter) (content : Tokens) :
    (group delimiter content).rename r = .group delimiter (renameAll r content) := by
  simp [rename]

@[simp] theorem renameAll_nil : renameAll r [] = [] := by
  simp [renameAll]

@[simp] theorem renameAll_cons (t : Token) (ts : Tokens) :
    renameAll r (t :: ts) = t.rename r :: renameAll r ts := by
  simp [renameAll]

@[simp] theorem renameAll_append (ts us : Tokens) :
    renameAll r (ts ++ us) = renameAll r ts ++ renameAll r us := by
  induction ts with
  | nil => simp
  | cons t ts ih => simp [ih]

variable {r}

theorem renameAll_flatMap {α : Type} {xs : List α} {f g : α → Tokens}
    (h : ∀ x ∈ xs, renameAll r (f x) = g x) : renameAll r (xs.flatMap f) = xs.flatMap g := by
  induction xs with
  | nil => simp
  | cons x xs ih =>
    have hx := h x List.mem_cons_self
    have hxs := ih fun y hy => h y (List.mem_cons_of_mem _ hy)
    simp [hx, hxs]

theorem renameAll_flatMap₂ {α β : Type} {xs : List α} {ys : List β} {f : α → Tokens}
    {g : β → Tokens} (h : List.Forall₂ (fun x y => renameAll r (f x) = g y) xs ys) :
    renameAll r (xs.flatMap f) = ys.flatMap g := by
  induction h with
  | nil => simp
  | cons hxy _ ih => simp [hxy, ih]

@[simp] theorem renameAll_operator (chars : List Char) :
    renameAll r (operator chars) = operator chars := by
  induction chars using operator.induct with
  | case1 => simp [operator]
  | case2 c => simp [operator]
  | case3 c rest _ ih => simp [operator, ih]

@[simp] theorem renameAll_colons : renameAll r colons = colons := renameAll_operator _

end

/-! ## Identifiers of sequences -/

theorem identsOfAll_append (ts us : Tokens) :
    identsOfAll (ts ++ us) = identsOfAll ts ++ identsOfAll us := by
  induction ts with
  | nil => simp [identsOfAll]
  | cons t ts ih => simp [identsOfAll, ih]

variable {r : Renaming}

theorem length_renameAll (ts : Tokens) : (renameAll r ts).length = ts.length := by
  induction ts with
  | nil => simp
  | cons t ts ih => simp [ih]

mutual

theorem rename_eq_self : (t : Token) → (∀ x ∈ t.idents, r x = x) → t.rename r = t
  | .ident x, h => by simp [h x (by simp [idents])]
  | .punct _ _, _ | .literal _, _ => by simp
  | .group _ content, h => by simp [renameAll_eq_self content (by simpa [idents] using h)]

theorem renameAll_eq_self : (ts : List Token) → (∀ x ∈ identsOfAll ts, r x = x) →
    renameAll r ts = ts
  | [], _ => by simp
  | t :: rest, h => by
    have ht := rename_eq_self t fun x hx => h x (by simp [identsOfAll, hx])
    have hrest := renameAll_eq_self rest fun x hx => h x (by simp [identsOfAll, hx])
    simp [ht, hrest]

end

mutual

theorem idents_rename : (t : Token) → (t.rename r).idents = t.idents.map r
  | .ident _ | .punct _ _ | .literal _ => by simp [idents]
  | .group _ content => by simp [idents, identsOfAll_renameAll content]

theorem identsOfAll_renameAll : (ts : List Token) →
    identsOfAll (renameAll r ts) = (identsOfAll ts).map r
  | [] => by simp [identsOfAll]
  | t :: rest => by simp [identsOfAll, idents_rename t, identsOfAll_renameAll rest]

end

end Token

/-! ## What is kept -/

/-- The renaming does not change the tokens. -/
def Keeps (r : Renaming) (ts : Tokens) : Prop := Token.renameAll r ts = ts

section

variable {r : Renaming} {ts us : Tokens}

theorem Keeps.eq (h : Keeps r ts) : Token.renameAll r ts = ts := h

theorem keeps_of_idents (h : ∀ x ∈ Token.identsOfAll ts, r x = x) : Keeps r ts :=
  Token.renameAll_eq_self ts h

@[simp] theorem keeps_nil : Keeps r [] := Token.renameAll_nil r

@[simp] theorem keeps_ident_cons {x : Ident} :
    Keeps r (.ident x :: ts) ↔ r x = x ∧ Keeps r ts := by
  simp [Keeps]

@[simp] theorem keeps_word_cons {text : String} :
    Keeps r (Token.word text :: ts) ↔ r (plain text) = plain text ∧ Keeps r ts := keeps_ident_cons

@[simp] theorem keeps_punct_cons {char : Char} {joint : Bool} :
    Keeps r (.punct char joint :: ts) ↔ Keeps r ts := by
  simp [Keeps]

@[simp] theorem keeps_literal_cons {text : String} :
    Keeps r (.literal text :: ts) ↔ Keeps r ts := by
  simp [Keeps]

@[simp] theorem keeps_string_cons {text : String} :
    Keeps r (Token.string text :: ts) ↔ Keeps r ts := keeps_literal_cons

@[simp] theorem keeps_group_cons {delimiter : Delimiter} {content : Tokens} :
    Keeps r (.group delimiter content :: ts) ↔ Keeps r content ∧ Keeps r ts := by
  simp [Keeps]

@[simp] theorem keeps_append : Keeps r (ts ++ us) ↔ Keeps r ts ∧ Keeps r us := by
  have hlength := Token.length_renameAll (r := r) ts
  simp only [Keeps, Token.renameAll_append]
  constructor
  · intro h
    exact List.append_inj h hlength
  · rintro ⟨hts, hus⟩
    rw [hts, hus]

@[simp] theorem keeps_flatMap {α : Type} {xs : List α} {f : α → Tokens} :
    Keeps r (xs.flatMap f) ↔ ∀ x ∈ xs, Keeps r (f x) := by
  induction xs with
  | nil => simp
  | cons x xs ih => simp [ih]

@[simp] theorem keeps_operator {chars : List Char} : Keeps r (operator chars) :=
  Token.renameAll_operator chars

@[simp] theorem keeps_colons : Keeps r colons := keeps_operator

end

/-! ## Words of generated code -/

/-- The words that generated code has of its own. -/
abbrev vocabulary : List String := [
  "BTreeSet", "COMMA_JOINER", "Clone", "Copy", "D", "Debug", "Default", "Deserialize",
  "Deserializer", "Display", "Eq", "Err", "Error", "Extend", "Fields", "Formatter", "FromIterator",
  "H", "Hash", "Hasher", "Into", "IntoIterator", "Item", "Iterator", "None", "Ok", "Option", "Ord",
  "PartialEq", "PartialOrd", "Result", "S", "Self", "Serialize", "SerializeStruct", "Serializer",
  "Sized", "Some", "String", "ToOwned", "Vec", "_", "_builder", "_fields", "_other", "_state",
  "_template", "_unset_properties", "_value", "allow", "as", "as_deref", "as_ref", "as_str",
  "automatically_derived", "bool", "borrow", "build", "build_partial", "builder", "clear", "clone",
  "cloned", "cmp", "collect", "collections", "compile_error", "const", "contains", "convert",
  "copied", "core", "custom", "de", "dead_code", "default", "derive", "deserialize", "deserializer",
  "doc", "element", "elements", "end", "enum", "enumerate", "eq", "error", "extend", "f", "false",
  "fields", "fmt", "fn", "for", "from", "from_iter", "hash", "if", "impl", "in", "index", "into",
  "into_iter", "is_empty", "iter", "len", "let", "map", "map_err", "marker", "match", "merge_from",
  "merge_from_builder", "must_use", "mut", "new", "ok_or_else", "option", "other", "panic",
  "property", "pub", "push", "remove", "result", "return", "self", "separator", "ser", "serde",
  "serialize", "serialize_field", "serialize_struct", "serializer", "state", "static", "std", "str",
  "string", "struct", "template", "to_bits", "to_builder", "to_owned", "true", "unset",
  "unset_properties", "unused_assignments", "value", "vec", "where", "write_str"]

/-- The renaming keeps each of the words. -/
@[reducible] def Fixes (r : Renaming) : List String → Prop
  | [] => True
  | word :: rest => r (plain word) = plain word ∧ Fixes r rest

/-- The renaming keeps the words of generated code. -/
abbrev KeepsWords (r : Renaming) : Prop := Fixes r vocabulary

theorem fixes_iff {r : Renaming} {words : List String} :
    Fixes r words ↔ ∀ word ∈ words, r (plain word) = plain word := by
  induction words with
  | nil => simp
  | cons word rest ih => simp [ih]

@[simp] theorem name_plain (text : String) : (plain text).name = text := rfl

@[simp] theorem ident_plain (text : String) : Token.ident (plain text) = Token.word text := rfl

@[simp] theorem rename_word (r : Renaming) (text : String) :
    (Token.word text).rename r = .ident (r (plain text)) := Token.rename_ident r _

@[simp] theorem keeps_pathTokens {r : Renaming} {path : List String} :
    Keeps r (pathTokens path) ↔ ∀ word ∈ path, r (plain word) = plain word := by
  simp [pathTokens]

theorem KeepsWords.library {r : Renaming} (h : KeepsWords r) (f : Library) : Keeps r f.tokens := by
  cases f <;> simp [Library.tokens, Library.path, h]

end TraitBuilder
