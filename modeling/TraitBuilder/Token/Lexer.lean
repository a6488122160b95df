import TraitBuilder.Text.Blank
import TraitBuilder.Token.Basic
import TraitBuilder.Token.Literal

/-!
# Reading tokens

Reading source text into tokens.  Comments and blanks separate tokens; a documentation comment is
the attribute it abbreviates.  Reading fails on an unbalanced delimiter, an unterminated literal or
comment, and a character that begins no token.

* `Tokens.ofText?`: the tokens of a text.
-/

namespace TraitBuilder.Lexer

open Text

/-- The characters of operators and separators. -/
def punctuation : List Char := "~!@#$%^&*-=+|;:,<.>/?'".toList

/-- Whether a comment begins the text. -/
def beginsComment : List Char → Bool
  | '/' :: '/' :: _ => true
  | '/' :: '*' :: _ => true
  | _ => false

/-- Whether a punctuation character begins the text. -/
def beginsPunct (cs : List Char) : Bool :=
  match cs with
  | c :: _ => punctuation.contains c && !beginsComment cs
  | [] => false

/-- The text of the rest of the line, without the line break, and what follows it. -/
def restOfLine : List Char → List Char × List Char
  | [] => ([], [])
  | '\n' :: rest => ([], '\n' :: rest)
  | '\r' :: '\n' :: rest => ([], '\n' :: rest)
  | c :: rest =>
    let (line, rest) := restOfLine rest
    (c :: line, rest)

/-- The text up to the end of a block comment, without its closing mark, and what follows it.
Block comments nest; `depth` counts the open ones besides the outermost. -/
def restOfBlock (depth : Nat) : List Char → Option (List Char × List Char)
  | [] => none
  | '/' :: '*' :: rest => do
    let (body, rest) ← restOfBlock (depth + 1) rest
    return ('/' :: '*' :: body, rest)
  | '*' :: '/' :: rest =>
    match depth with
    | 0 => some ([], rest)
    | depth + 1 => do
      let (body, rest) ← restOfBlock depth rest
      return ('*' :: '/' :: body, rest)
  | c :: rest => do
    let (body, rest) ← restOfBlock depth rest
    return (c :: body, rest)

/-- What the beginning of a text is, as far as blanks and comments go. -/
inductive Lead where
  /-- A blank or an ordinary comment, before the rest. -/
  | skip (rest : List Char)
  /-- A documentation comment of the given text; `inner` ones document what encloses them. -/
  | doc (inner : Bool) (text : List Char) (rest : List Char)
  /-- Neither. -/
  | other
  /-- A comment that does not end, or a stray carriage return in a documentation comment. -/
  | broken

/-- Whether every carriage return stands before a line break. -/
def wellBroken : List Char → Bool
  | [] => true
  | '\r' :: '\n' :: rest => wellBroken rest
  | '\r' :: _ => false
  | _ :: rest => wellBroken rest

/-- A documentation comment, unless its text is ill-formed. -/
def docLead (inner : Bool) (found : Option (List Char × List Char)) : Lead :=
  match found with
  | some (text, rest) => if wellBroken text then .doc inner text rest else .broken
  | none => .broken

/-- An ordinary block comment. -/
def blockLead (found : Option (List Char × List Char)) : Lead :=
  match found with
  | some (_, rest) => .skip rest
  | none => .broken

/-- What begins the text, as far as blanks and comments go.  Four slashes or three leading stars
make an ordinary comment. -/
def lead : List Char → Lead
  | '/' :: '/' :: '!' :: rest => docLead true (some (restOfLine rest))
  | '/' :: '/' :: '/' :: '/' :: rest => .skip (restOfLine rest).2
  | '/' :: '/' :: '/' :: rest => docLead false (some (restOfLine rest))
  | '/' :: '/' :: rest => .skip (restOfLine rest).2
  | '/' :: '*' :: '!' :: rest => docLead true (restOfBlock 0 rest)
  | '/' :: '*' :: '*' :: '/' :: rest => .skip rest
  | '/' :: '*' :: '*' :: '*' :: rest => blockLead (restOfBlock 0 ('*' :: '*' :: rest))
  | '/' :: '*' :: '*' :: rest => docLead false (restOfBlock 0 rest)
  | '/' :: '*' :: rest => blockLead (restOfBlock 0 rest)
  | c :: rest => if isBlank c then .skip rest else .other
  | [] => .other

/-- The attribute that a documentation comment abbreviates. -/
def docAttribute (inner : Bool) (text : List Char) : Tokens :=
  [.punct '#' false] ++ (if inner then [.punct '!' false] else []) ++
    [.group .bracket [.word "doc", .punct '=' false, .string (String.ofList text)]]

/-- The name at the beginning of the text, without a raw mark. -/
def plainName : List Char → Option (List Char × List Char)
  | c :: rest =>
    if isIdentifierStart c then
      some (c :: rest.takeWhile isIdentifierContinue, rest.dropWhile isIdentifierContinue)
    else none
  | [] => none

/-- The names that no raw identifier may have. -/
def neverRaw : List String := ["_", "super", "self", "Self", "crate"]

/-- The identifier at the beginning of the text. -/
def identifier : List Char → Option (Ident × List Char)
  | 'r' :: '#' :: rest => do
    let (name, rest) ← plainName rest
    if neverRaw.contains (String.ofList name) then none
    else some (⟨String.ofList name, true⟩, rest)
  | cs => do
    let (name, rest) ← plainName cs
    return (⟨String.ofList name, false⟩, rest)

/-- Whether the text begins like a string or byte literal, so that no identifier begins it. -/
def beginsQuoted : List Char → Bool
  | 'r' :: '"' :: _ | 'r' :: '#' :: '"' :: _ | 'r' :: '#' :: '#' :: _ => true
  | 'b' :: '"' :: _ | 'b' :: '\'' :: _ | 'b' :: 'r' :: '"' :: _ | 'b' :: 'r' :: '#' :: _ => true
  | 'c' :: '"' :: _ | 'c' :: 'r' :: '"' :: _ | 'c' :: 'r' :: '#' :: _ => true
  | _ => false

/-- The apostrophe of a lifetime at the beginning of the text, given the text after it: a name
follows, and neither another apostrophe nor, after a plain name, a hash sign. -/
def lifetimeFollows (cs : List Char) : Bool :=
  match identifier cs with
  | some (_, '\'' :: _) => false
  | some (name, '#' :: _) => name.raw
  | some _ => true
  | none => false

/-- The single token at the beginning of a text that no group, blank or comment begins. -/
def leaf (cs : List Char) : Option (Token × List Char) :=
  match Literal.after cs with
  | some rest => some (.literal (String.ofList (cs.take (cs.length - rest.length))), rest)
  | none =>
    if beginsPunct cs then
      match cs with
      | '\'' :: rest => if lifetimeFollows rest then some (.punct '\'' true, rest) else none
      | c :: rest => some (.punct c (beginsPunct rest), rest)
      | [] => none
    else if beginsQuoted cs then none
    else (identifier cs).map fun (name, rest) => (.ident name, rest)

/-- The delimiter that `c` opens. -/
def opens : Char → Option Delimiter
  | '(' => some .parenthesis
  | '[' => some .bracket
  | c => if c = Char.ofNat 0x7b then some .brace else none

/-- The delimiter that `c` closes. -/
def closes : Char → Option Delimiter
  | ')' => some .parenthesis
  | ']' => some .bracket
  | c => if c = Char.ofNat 0x7d then some .brace else none

/-- The mark that stands for a fragment in error; it is one literal. -/
def errorMark : List Char := "(/*ERROR*/)".toList

/-- Reads the tokens of `cs`.  `done` holds the tokens of the current group read so far, last
first, and `open_` the delimiters and tokens of the groups around it, innermost first.  The first
argument bounds the number of steps. -/
def read (open_ : List (Delimiter × List Token)) (done : List Token) :
    Nat → List Char → Option Tokens
  | 0, _ => none
  | n + 1, cs =>
    match lead cs with
    | .skip rest => read open_ done n rest
    | .doc inner text rest => read open_ ((docAttribute inner text).reverse ++ done) n rest
    | .broken => none
    | .other =>
      match cs with
      | [] => if open_.isEmpty then some done.reverse else none
      | c :: rest =>
        if errorMark.isPrefixOf cs then
          read open_ (.literal (String.ofList errorMark) :: done) n (cs.drop errorMark.length)
        else match opens c with
          | some d => read ((d, done) :: open_) [] n rest
          | none =>
            match closes c with
            | some d =>
              match open_ with
              | (e, outer) :: open_ =>
                if d = e then read open_ (.group d done.reverse :: outer) n rest else none
              | [] => none
            | none =>
              match leaf cs with
              | some (t, rest) => read open_ (t :: done) n rest
              | none => none

end TraitBuilder.Lexer

namespace TraitBuilder

/-- The tokens of a text, without a byte order mark at its beginning. -/
def Tokens.ofText? (text : String) : Option Tokens :=
  let cs := match text.toList with
    | c :: rest => if c = Char.ofNat 0xfeff then rest else c :: rest
    | [] => []
  Lexer.read [] [] (cs.length + 1) cs

end TraitBuilder
