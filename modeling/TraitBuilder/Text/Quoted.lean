import TraitBuilder.Text.Visible

/-!
# Quoted text

A text between double quotes as a string literal spells it.  The quote and the backslash get a
backslash, the four usual controls their letter, every other character that is not visible its code
point in hexadecimal.
-/

namespace TraitBuilder.Text

/-- The digits of `n` in lowercase hexadecimal. -/
def hexDigits (n : Nat) : List Char := Nat.toDigits 16 n

/-- Whether `c` is an octal digit. -/
def isOctalDigit (c : Char) : Bool := '0' ≤ c && c ≤ '7'

/-- The spelling of `c` inside quotes when `rest` follows.  A NUL before an octal digit is written
in hexadecimal, since `\0` and the digit would read as one octal escape elsewhere. -/
def escapeChar (c : Char) (rest : List Char) : List Char :=
  if c = '\x00' then
    match rest with
    | d :: _ => if isOctalDigit d then ['\\', 'x', '0', '0'] else ['\\', '0']
    | [] => ['\\', '0']
  else if c = '\t' then ['\\', 't']
  else if c = '\r' then ['\\', 'r']
  else if c = '\n' then ['\\', 'n']
  else if c = '\\' then ['\\', '\\']
  else if c = '"' then ['\\', '"']
  else if isVisible c then [c]
  else ['\\', 'u', Char.ofNat 0x7b] ++ hexDigits c.toNat ++ [Char.ofNat 0x7d]

/-- The characters of `text` as they stand inside quotes. -/
def escape : List Char → List Char
  | [] => []
  | c :: rest => escapeChar c rest ++ escape rest

/-- The string literal that denotes `text`. -/
def quote (text : String) : String :=
  String.ofList ('"' :: escape text.toList ++ ['"'])

end TraitBuilder.Text
