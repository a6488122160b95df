import TraitBuilder.Token.Literal

/-!
# What literals denote

The kind of a literal, judged by its spelling, and the text that a string literal denotes.  Both are
meant for the spellings that `Literal.after` accepts.

* `wholeNumber?`: the value and the suffix of a whole number.
* `denoted?`: the text and the suffix of a string literal.
-/

namespace TraitBuilder.Literal

/-! ## Kinds -/

/-- The kinds of literal tokens.  The mark of a fragment in error is of none of the other kinds. -/
inductive Kind where
  | string | byteString | cString | byte | character | int | float | unknown
  deriving DecidableEq, Repr

/-- What follows the digits, of base `base`, and the underscores at the beginning of the text. -/
def dropDigits (base : Nat) : List Char → List Char :=
  List.dropWhile fun c => c.isDigit || c = '_' || (base = 16 && isHexDigit c)

/-- Whether an exponent begins the text: `e` and a sign, or `e` and a digit. -/
def beginsExponent : List Char → Bool
  | e :: rest =>
    (e = 'e' || e = 'E') &&
      match rest.dropWhile (· = '_') with
      | c :: _ => c.isDigit || c = '+' || c = '-'
      | [] => false
  | [] => false

/-- Whether a number has neither a dot nor an exponent.  A suffix does not matter, so `1f32` is
whole. -/
def isWhole : List Char → Bool
  | '0' :: 'x' :: _ | '0' :: 'o' :: _ | '0' :: 'b' :: _ => true
  | cs =>
    match dropDigits 10 cs with
    | '.' :: _ => false
    | rest => !beginsExponent rest

/-- The kind of the literal spelled `text`. -/
def kind (text : String) : Kind :=
  match text.toList with
  | '"' :: _ | 'r' :: _ => .string
  | 'b' :: '\'' :: _ => .byte
  | 'b' :: _ => .byteString
  | 'c' :: _ => .cString
  | '\'' :: _ => .character
  | c :: cs => if !c.isDigit then .unknown else if isWhole (c :: cs) then .int else .float
  | [] => .unknown

/-! ## Numbers -/

/-- The base that the beginning of a whole number gives, and the text after it. -/
def baseOf : List Char → Nat × List Char
  | '0' :: 'x' :: rest => (16, rest)
  | '0' :: 'o' :: rest => (8, rest)
  | '0' :: 'b' :: rest => (2, rest)
  | cs => (10, cs)

/-- The value of the digits of base `base` at the beginning of the text, after digits of the value
`value`, and what follows them.  Underscores between digits have no value. -/
def digitsValue (base value : Nat) : List Char → Nat × List Char
  | [] => (value, [])
  | c :: rest =>
    if c = '_' then digitsValue base value rest
    else if isHexDigit c && hexValue c < base then digitsValue base (value * base + hexValue c) rest
    else (value, c :: rest)

/-- The value and the suffix of a whole number. -/
def wholeNumber? (text : String) : Option (Nat × String) :=
  if kind text = .int then
    let (base, cs) := baseOf text.toList
    let (value, suffix) := digitsValue base 0 cs
    some (value, String.ofList suffix)
  else none

/-! ## Texts -/

/-- The character that an escape denotes, given the text after the backslash, and the rest. -/
def decodeEscape : List Char → Option (Char × List Char)
  | 'x' :: a :: b :: rest => some (Char.ofNat (hexValue a * 16 + hexValue b), rest)
  | 'u' :: rest => (unicodeEscape rest).map fun (value, rest) => (Char.ofNat value, rest)
  | 'n' :: rest => some ('\n', rest)
  | 'r' :: rest => some ('\r', rest)
  | 't' :: rest => some ('\t', rest)
  | '0' :: rest => some ('\x00', rest)
  | c :: rest => if c ∈ ['\\', '\'', '"'] then some (c, rest) else none
  | [] => none

/-- Whether a line break begins the text. -/
def beginsLine : List Char → Bool
  | '\n' :: _ | '\r' :: _ => true
  | _ => false

/-- Whether `c` is skipped after a line break that a backslash continues. -/
def isContinued (c : Char) : Bool := c ∈ [' ', '\t', '\n', '\r']

/-- The characters up to the closing quote as they are denoted, and what follows the quote.  The
first argument bounds the number of steps. -/
def decodeQuoted : Nat → List Char → Option (List Char × List Char)
  | _, '"' :: rest => some ([], rest)
  | n + 1, '\\' :: rest =>
    if beginsLine rest then decodeQuoted n (rest.dropWhile isContinued)
    else match decodeEscape rest with
      | some (c, rest) => (decodeQuoted n rest).map fun (cs, rest) => (c :: cs, rest)
      | none => none
  | n + 1, '\r' :: '\n' :: rest => (decodeQuoted n rest).map fun (cs, rest) => ('\n' :: cs, rest)
  | n + 1, c :: rest => (decodeQuoted n rest).map fun (cs, rest) => (c :: cs, rest)
  | _, _ => none

/-- The characters up to the closing quote with `hashes` hash signs, and what follows them. -/
def decodeRaw (hashes : Nat) : List Char → Option (List Char × List Char)
  | [] => none
  | '"' :: rest =>
    match afterHashes hashes rest with
    | some rest => some ([], rest)
    | none => (decodeRaw hashes rest).map fun (cs, rest) => ('"' :: cs, rest)
  | c :: rest => (decodeRaw hashes rest).map fun (cs, rest) => (c :: cs, rest)

/-- The text that a string literal denotes, and its suffix. -/
def denoted? (text : String) : Option (String × String) :=
  let found := match text.toList with
    | '"' :: rest => decodeQuoted rest.length rest
    | 'r' :: rest =>
      match rawOpening rest with
      | some (hashes, rest) => decodeRaw hashes rest
      | none => none
    | _ => none
  found.map fun (cs, suffix) => (String.ofList cs, String.ofList suffix)

end TraitBuilder.Literal
