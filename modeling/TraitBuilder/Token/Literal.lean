import TraitBuilder.Text.IdentifierChar

/-!
# Literals in source text

Where a literal at the beginning of a text ends: strings, byte strings, C strings, their raw forms,
bytes, characters, and numbers, each with an optional suffix.  Every function here maps the text to
what follows the literal, and to `none` if no such literal begins the text.
-/

namespace TraitBuilder.Literal

open Text

/-- What follows the identifier characters at the beginning of `cs`, if an identifier begins there;
else `cs` itself.  So ends a literal's optional suffix. -/
def afterSuffix : List Char → List Char
  | [] => []
  | c :: rest => if isIdentifierStart c then rest.dropWhile isIdentifierContinue else c :: rest

/-- Whether `c` is a hexadecimal digit. -/
def isHexDigit (c : Char) : Bool :=
  c.isDigit || ('a' ≤ c && c ≤ 'f') || ('A' ≤ c && c ≤ 'F')

/-- The value of a hexadecimal digit. -/
def hexValue (c : Char) : Nat :=
  if c.isDigit then c.toNat - 0x30 else if c.toNat < 0x61 then c.toNat - 0x37 else c.toNat - 0x57

/-- The three families of literals between double quotes. -/
inductive StringKind where
  | text
  /-- ASCII only. -/
  | bytes
  /-- Without the character zero. -/
  | zeroFree
  deriving DecidableEq, Repr

/-- The value of `\u` with the braces and up to six digits that follow it, and the rest. -/
def unicodeDigits (value count : Nat) : List Char → Option (Nat × List Char)
  | [] => none
  | c :: rest =>
    if isHexDigit c then
      if count = 6 then none else unicodeDigits (value * 16 + hexValue c) (count + 1) rest
    else if count = 0 then none
    else if c = '_' then unicodeDigits value count rest
    else if c = Char.ofNat 0x7d then if value.isValidChar then some (value, rest) else none
    else none

/-- The value of an escape after `\u`, and the rest. -/
def unicodeEscape : List Char → Option (Nat × List Char)
  | c :: rest => if c = Char.ofNat 0x7b then unicodeDigits 0 0 rest else none
  | [] => none

/-- What follows the blanks after a line break that a backslash continues. -/
def afterContinuation : List Char → Option (List Char)
  | [] => none
  | ' ' :: rest | '\t' :: rest | '\n' :: rest => afterContinuation rest
  | '\r' :: '\n' :: rest => afterContinuation rest
  | '\r' :: _ => none
  | cs => some cs

/-- Whether the two digits of `\x` fit the family. -/
def fitsHexEscape (kind : StringKind) (a b : Char) : Bool :=
  isHexDigit a && isHexDigit b &&
    match kind with
    | .text => '0' ≤ a && a ≤ '7'
    | .bytes => true
    | .zeroFree => !(a == '0' && b == '0')

/-- What follows an escape, given the text after the backslash. -/
def afterEscape (kind : StringKind) : List Char → Option (List Char)
  | 'x' :: a :: b :: rest => if fitsHexEscape kind a b then some rest else none
  | 'u' :: rest =>
    match kind, unicodeEscape rest with
    | .bytes, _ => none
    | .zeroFree, some (0, _) => none
    | _, some (_, rest) => some rest
    | _, none => none
  | '0' :: rest => if kind = .zeroFree then none else some rest
  | '\n' :: rest => afterContinuation rest
  | '\r' :: '\n' :: rest => afterContinuation rest
  | c :: rest => if c ∈ ['n', 'r', 't', '\\', '\'', '"'] then some rest else none
  | [] => none

/-- Whether a character may stand in a literal of the family. -/
def fits (kind : StringKind) (c : Char) : Bool :=
  match kind with
  | .text => true
  | .bytes => c.toNat < 128
  | .zeroFree => c != '\x00'

/-- What follows the rest of a quoted literal whose opening quote is read.  The first argument
bounds the number of characters. -/
def afterQuoted (kind : StringKind) : Nat → List Char → Option (List Char)
  | _, '"' :: rest => some (afterSuffix rest)
  | n + 1, '\r' :: '\n' :: rest => afterQuoted kind n rest
  | _, '\r' :: _ => none
  | n + 1, '\\' :: rest => (afterEscape kind rest).bind (afterQuoted kind n)
  | n + 1, c :: rest => if fits kind c then afterQuoted kind n rest else none
  | _, _ => none

/-- The number of hash signs before the opening quote of a raw literal, and the text after it. -/
def rawOpening : List Char → Option (Nat × List Char)
  | '"' :: rest => some (0, rest)
  | '#' :: rest => (rawOpening rest).map fun (n, rest) => (n + 1, rest)
  | _ => none

/-- What follows `n` hash signs. -/
def afterHashes : Nat → List Char → Option (List Char)
  | 0, cs => some cs
  | n + 1, '#' :: rest => afterHashes n rest
  | _ + 1, _ => none

/-- What follows the rest of a raw literal that ends with a quote and `hashes` hash signs. -/
def afterRawQuoted (kind : StringKind) (hashes : Nat) : List Char → Option (List Char)
  | [] => none
  | '"' :: rest =>
    match afterHashes hashes rest with
    | some rest => some (afterSuffix rest)
    | none => afterRawQuoted kind hashes rest
  | '\r' :: '\n' :: rest => afterRawQuoted kind hashes rest
  | '\r' :: _ => none
  | c :: rest => if fits kind c then afterRawQuoted kind hashes rest else none

/-- What follows a raw literal whose letters are read.  At most 255 hash signs are allowed. -/
def afterRaw (kind : StringKind) (cs : List Char) : Option (List Char) :=
  match rawOpening cs with
  | some (hashes, rest) => if hashes ≤ 255 then afterRawQuoted kind hashes rest else none
  | none => none

/-- What follows a string literal of any family. -/
def afterString : List Char → Option (List Char)
  | '"' :: rest => afterQuoted .text rest.length rest
  | 'r' :: rest => afterRaw .text rest
  | 'b' :: '"' :: rest => afterQuoted .bytes rest.length rest
  | 'b' :: 'r' :: rest => afterRaw .bytes rest
  | 'c' :: '"' :: rest => afterQuoted .zeroFree rest.length rest
  | 'c' :: 'r' :: rest => afterRaw .zeroFree rest
  | _ => none

/-- What follows a closing apostrophe and the suffix. -/
def afterApostrophe : List Char → Option (List Char)
  | '\'' :: rest => some (afterSuffix rest)
  | _ => none

/-- Whether `c` after a backslash denotes one character in an apostrophe literal. -/
def isSimpleEscape (c : Char) : Bool := c ∈ ['n', 'r', 't', '\\', '0', '\'', '"']

/-- What follows a byte literal whose `b'` is read. -/
def afterByte : List Char → Option (List Char)
  | '\\' :: 'x' :: a :: b :: rest =>
    if isHexDigit a && isHexDigit b then afterApostrophe rest else none
  | '\\' :: c :: rest => if isSimpleEscape c then afterApostrophe rest else none
  | c :: rest => if c.toNat < 128 && c != '\\' then afterApostrophe rest else none
  | [] => none

/-- What follows a character literal whose opening apostrophe is read. -/
def afterCharacter : List Char → Option (List Char)
  | '\\' :: 'x' :: a :: b :: rest =>
    if fitsHexEscape .text a b then afterApostrophe rest else none
  | '\\' :: 'u' :: rest => (unicodeEscape rest).bind fun (_, rest) => afterApostrophe rest
  | '\\' :: c :: rest => if isSimpleEscape c then afterApostrophe rest else none
  | c :: rest => if c != '\\' then afterApostrophe rest else none
  | [] => none

/-- What follows a number and the suffix, provided it does not run into more identifier
characters. -/
def afterNumber (cs : List Char) : Option (List Char) :=
  let rest := afterSuffix cs
  match rest with
  | c :: _ => if isIdentifierContinue c then none else some rest
  | [] => some rest

/-- The digits, underscores and the dot before a possible exponent: whether there was a dot, and
the rest.  A dot that another dot or an identifier follows belongs to no number. -/
def mantissa (dot : Bool) : List Char → Option (Bool × List Char)
  | [] => some (dot, [])
  | c :: rest =>
    if c.isDigit || c = '_' then mantissa dot rest
    else if c = '.' then
      if dot then some (dot, c :: rest)
      else match rest with
        | next :: _ =>
          if next = '.' || isIdentifierStart next then none else mantissa true rest
        | [] => some (true, [])
    else some (dot, c :: rest)

/-- What follows the sign and the digits of an exponent; `none` if it has no digit. -/
def afterExponent (sign digits : Bool) : List Char → Option (List Char)
  | [] => if digits then some [] else none
  | c :: rest =>
    if c = '+' || c = '-' then
      if digits then some (c :: rest)
      else if sign then none
      else afterExponent true digits rest
    else if c.isDigit then afterExponent sign true rest
    else if c = '_' then afterExponent sign digits rest
    else if digits then some (c :: rest)
    else none

/-- What follows the digits of a number with a dot or an exponent. -/
def afterFloatDigits : List Char → Option (List Char)
  | [] => none
  | c :: rest =>
    if c.isDigit then
      match mantissa false rest with
      | some (dot, e :: tail) =>
        if e = 'e' || e = 'E' then
          match afterExponent false false tail with
          | some rest => some rest
          | none => if dot then some (e :: tail) else none
        else if dot then some (e :: tail) else none
      | some (dot, []) => if dot then some [] else none
      | none => none
    else none

/-- What follows the digits of base `base`; `none` without a digit, or if a decimal digit exceeds
the base.  The flag says whether a digit was read. -/
def afterDigits (base : Nat) (seen : Bool) : List Char → Option (List Char)
  | [] => if seen then some [] else none
  | c :: rest =>
    if c.isDigit then
      if c.toNat - 0x30 < base then afterDigits base true rest else none
    else if isHexDigit c && base = 16 then afterDigits base true rest
    else if c = '_' then
      if !seen && base = 10 then none else afterDigits base seen rest
    else if seen then some (c :: rest)
    else none

/-- What follows the digits of a whole number. -/
def afterIntDigits : List Char → Option (List Char)
  | '0' :: 'x' :: rest => afterDigits 16 false rest
  | '0' :: 'o' :: rest => afterDigits 8 false rest
  | '0' :: 'b' :: rest => afterDigits 2 false rest
  | cs => afterDigits 10 false cs

/-- What follows the literal at the beginning of the text. -/
def after (cs : List Char) : Option (List Char) :=
  (afterString cs)
    <|> (match cs with
      | 'b' :: '\'' :: rest => afterByte rest
      | '\'' :: rest => afterCharacter rest
      | _ => none)
    <|> (afterFloatDigits cs).bind afterNumber
    <|> (afterIntDigits cs).bind afterNumber

end TraitBuilder.Literal
