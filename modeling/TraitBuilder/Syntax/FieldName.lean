import TraitBuilder.Syntax.Reader

/-!
# Names of fields

A field is called by its name or by its number.  The number is a whole number without a sign or a
suffix that takes at most 32 bits, and is written in decimal.  Where numbers of fields follow each
other, the lexer may have taken two of them and the dot between them for a fraction.
-/

namespace TraitBuilder.Syntax

/-- Whether a literal begins the sequence whose kind has the property, perhaps a negated number. -/
def beginsLiteralOf (p : Literal.Kind → Bool) (ts : Tokens) : Bool :=
  match Tokens.exposed ts with
  | .literal text :: _ => p (Literal.kind text)
  | .punct '-' _ :: rest =>
    match Tokens.exposed rest with
    | .literal text :: _ => isNumber text && p (Literal.kind text)
    | _ => false
  | _ => false

/-- Whether a whole number begins the sequence. -/
def beginsWholeNumber : Tokens → Bool := beginsLiteralOf (· = .int)

/-- Whether a number with a fraction or an exponent begins the sequence. -/
def beginsFraction : Tokens → Bool := beginsLiteralOf (· = .float)

/-- The number of a field, given its digits and whether a sign precedes them. -/
def fieldNumber (negated : Bool) (text : String) : Except SyntaxError Nat :=
  match Literal.wholeNumber? text with
  | none => .error (.expected ["integer literal"] false)
  | some (value, suffix) =>
    if !suffix.isEmpty then .error .suffixedIndex
    else if negated then .error .signedIndex
    else if value < UInt32.size then .ok value
    else .error .largeIndex

/-- The numbers of fields of fields between the dots of a text. -/
def fieldNumbers (negated : Bool) : List String → Except SyntaxError (List Nat)
  | [] => .ok []
  | part :: parts => do return (← fieldNumber negated part) :: (← fieldNumbers false parts)

/-- The number as it is written. -/
def numberToken (n : Nat) : Token := .literal (toString n)

/-- Reads a whole number as the number of a field. -/
def readNumber : Reader Nat := do
  match ← captured literal with
  | (.token negated text, _) => fieldNumber negated text
  | (.truth _, _) => expected Nat "integer literal"

/-- Reads the name of a field, or its number. -/
def member : Reader (Option Ident) := do
  let ts ← look
  if beginsName ts then return some (← name)
  if beginsWholeNumber ts then
    write [numberToken (← readNumber)]
    return none
  expected (Option Ident) "identifier or integer"

/-- Reads the numbers of fields of fields that were taken for a fraction, without writing them.  A
dot at the end says that a further field follows. -/
def fractionFields : Reader (List Nat × Bool) := do
  match ← captured literal with
  | (.token negated text, _) =>
    let parts := text.splitOn "."
    let dotted := parts.getLast? = some ""
    return (← fieldNumbers negated (if dotted then parts.dropLast else parts), dotted)
  | (.truth _, _) => expected (List Nat × Bool) "integer literal"

end TraitBuilder.Syntax
