import TraitBuilder.Text.IdentifierChar
import TraitBuilder.Text.Quoted

/-!
# Tokens

Source text as a tree of tokens: identifiers, single punctuation characters, literals in their
source spelling, and delimited groups.  A punctuation character is *joint* when it is written
directly before another one.  A group may be invisible: it then only marks where a substituted
fragment begins and ends.

* `Ident.ofString?`: which texts are identifiers, and what is wrong with the others.
* `Token.decEq`: equality of tokens is decidable.
-/

namespace TraitBuilder

/-- An identifier, possibly written as a raw one (`r#type`).  A raw identifier and a plain one of
the same name are different identifiers. -/
structure Ident where
  name : String
  raw : Bool := false
  deriving DecidableEq, Repr, Inhabited

namespace Ident

/-- The identifier as written. -/
def spelling (x : Ident) : String := if x.raw then "r#" ++ x.name else x.name

/-- Whether `x` is the plain identifier `name`. -/
def is (x : Ident) (name : String) : Bool := !x.raw && x.name == name

/-- What keeps a text from being an identifier. -/
inductive Invalid where
  | empty
  | number
  | characters (text : String)
  deriving DecidableEq, Repr

/-- The wording of the fault. -/
def Invalid.message : Invalid → String
  | .empty => "Ident is not allowed to be empty; use Option<Ident>"
  | .number => "Ident cannot be a number; use Literal instead"
  | .characters text => Text.quote text ++ " is not a valid Ident"

/-- Whether the characters form an identifier. -/
def validChars : List Char → Bool
  | [] => false
  | c :: rest => Text.isIdentifierStart c && rest.all Text.isIdentifierContinue

/-- The plain identifier spelled `text`. -/
def ofString? (text : String) : Except Invalid Ident :=
  if text.toList.isEmpty then .error .empty
  else if text.toList.all (fun c => c.isDigit) then .error .number
  else if validChars text.toList then .ok ⟨text, false⟩
  else .error (.characters text)

end Ident

/-- What encloses a group. -/
inductive Delimiter where
  | parenthesis
  | bracket
  | brace
  /-- Nothing visible. -/
  | invisible
  deriving DecidableEq, Repr

/-- A token, or a delimited group of tokens. -/
inductive Token where
  | ident (name : Ident)
  | punct (char : Char) (joint : Bool)
  | literal (text : String)
  | group (delimiter : Delimiter) (content : List Token)
  deriving Repr, Inhabited

/-- A sequence of tokens. -/
abbrev Tokens := List Token

mutual

/-- Equality of tokens is decidable. -/
def Token.decEq : (a b : Token) → Decidable (a = b)
  | .ident x, .ident y =>
    if h : x = y then isTrue (h ▸ rfl) else isFalse fun e => h (Token.ident.inj e)
  | .punct c i, .punct d j =>
    if h : c = d ∧ i = j then isTrue (h.1 ▸ h.2 ▸ rfl) else isFalse fun e => h (Token.punct.inj e)
  | .literal s, .literal t =>
    if h : s = t then isTrue (h ▸ rfl) else isFalse fun e => h (Token.literal.inj e)
  | .group d as, .group e bs =>
    if h : d = e then
      match Token.decEqAll as bs with
      | isTrue h' => isTrue (h ▸ h' ▸ rfl)
      | isFalse h' => isFalse fun e => h' (Token.group.inj e).2
    else isFalse fun e => h (Token.group.inj e).1
  | .ident _, .punct _ _ => isFalse nofun
  | .ident _, .literal _ => isFalse nofun
  | .ident _, .group _ _ => isFalse nofun
  | .punct _ _, .ident _ => isFalse nofun
  | .punct _ _, .literal _ => isFalse nofun
  | .punct _ _, .group _ _ => isFalse nofun
  | .literal _, .ident _ => isFalse nofun
  | .literal _, .punct _ _ => isFalse nofun
  | .literal _, .group _ _ => isFalse nofun
  | .group _ _, .ident _ => isFalse nofun
  | .group _ _, .punct _ _ => isFalse nofun
  | .group _ _, .literal _ => isFalse nofun

/-- Equality of token sequences is decidable. -/
def Token.decEqAll : (as bs : List Token) → Decidable (as = bs)
  | [], [] => isTrue rfl
  | [], _ :: _ => isFalse nofun
  | _ :: _, [] => isFalse nofun
  | a :: as, b :: bs =>
    match Token.decEq a b, Token.decEqAll as bs with
    | isTrue h, isTrue h' => isTrue (h ▸ h' ▸ rfl)
    | isFalse h, _ => isFalse fun e => h (List.cons.inj e).1
    | _, isFalse h' => isFalse fun e => h' (List.cons.inj e).2

end

instance : DecidableEq Token := Token.decEq

namespace Token

/-- Whether the next token follows without a blank. -/
def isJoint : Token → Bool
  | .punct _ joint => joint
  | _ => false

/-- The plain identifier `name` as a token. -/
def word (name : String) : Token := .ident ⟨name, false⟩

/-- A string literal that denotes `text`. -/
def string (text : String) : Token := .literal (Text.quote text)

end Token

/-- The characters of an operator as tokens, all but the last joint. -/
def operator : List Char → Tokens
  | [] => []
  | [c] => [.punct c false]
  | c :: rest => .punct c true :: operator rest

/-- The tokens of a lifetime `'name`. -/
def lifetime (name : Ident) : Tokens := [.punct '\'' true, .ident name]

end TraitBuilder
