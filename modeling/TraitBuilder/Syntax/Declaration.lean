import TraitBuilder.Syntax.TraitDecl

/-!
# Declarations in bodies

Functions, values, names for types, imports, structures and enumerations in bodies of methods and
block expressions.  A declaration is written as it is read; one of unusual form is written as it
stands in the source, with its attributes.

A reader of a declaration answers whether it is to be written as it stands.
-/

namespace TraitBuilder.Syntax

/-- Reads a declaration and writes it, as it stands if its reader says so. -/
def copied (item : Reader Bool) : Reader Unit := discard (copyingIf id item)

/-! ## Parts of declarations -/

/-- Reads generic parameters and writes them. -/
def copyParameters (g : Grammar) : Reader Unit := do write (← genericParameters g)

/-- Reads a where clause and writes it, unless it is empty; whether it is there. -/
def copyConditions (g : Grammar) : Reader Bool := do
  let conditions ← whereClause g
  write (Generics.conditionTokens ⟨[], conditions⟩)
  return conditions.isSome

/-- Whether a name begins the sequence, or the word `_`. -/
def beginsNameOrBlank (ts : Tokens) : Bool := beginsName ts || beginsWord "_" ts

/-- Reads items up to the end of the tokens, after the attributes of what encloses them. -/
def itemsWithin (g : Grammar) (item : Reader Bool) : Reader Unit := do
  copyInnerAttributes g
  repeatWhile do
    if ← atEnd then return false
    copied item
    return true

/-! ## Functions and values -/

/-- Reads a function with its body, or with a semicolon; one without a body is kept. -/
def functionItem (g : Grammar) : Reader Bool := do
  write (← signature g).tokens
  if ← tryOp ";" then return true
  g.block true
  return false

/-- Reads the value after the sign `=`, if there is one. -/
def tryValue (g : Grammar) : Reader Bool := do
  if ← tryOp "=" then
    g.copyExpr
    return true
  else return false

/-- Reads a constant after its word.  One with parameters or without a value is kept. -/
def constantItem (g : Grammar) : Reader Bool := do
  if !(← sees beginsNameOrBlank) then expectedOneOf Unit ["identifier", "`_`"]
  discard anyIdent
  let generic ← sees (beginsOp "<")
  copyParameters g
  op ":"
  discard g.type
  let valued ← tryValue g
  let conditioned ← copyConditions g
  op ";"
  return generic || conditioned || !valued

/-- Reads a static after its word.  One without a type or a value is kept. -/
def staticItem (g : Grammar) : Reader Bool := do
  discard (tryWord "mut")
  discard name
  let typed := !(← sees (beginsOp "="))
  if typed then
    op ":"
    discard g.type
  let valued ← tryValue g
  op ";"
  return !(typed && valued)

/-- Where the where clause of a type alias may stand. -/
inductive ConditionPlace where
  | beforeDefinition
  | afterDefinition
  | anywhere
  deriving DecidableEq

/-- Reads a type alias after its word; whether bounds follow its name, and whether it is defined. -/
def aliasItem (g : Grammar) (place : ConditionPlace) : Reader (Bool × Bool) := do
  discard name
  copyParameters g
  let bounded ← tryOp ":"
  if bounded then
    discard (separated (fun ts => beginsWord "where" ts || beginsOp "=" ts || beginsOp ";" ts) "+"
      g.bound)
  let conditioned ← if place = .afterDefinition then pure false else copyConditions g
  let defined ← tryOp "="
  if defined then discard g.type
  if place ≠ .beforeDefinition && !conditioned then discard (copyConditions g)
  op ";"
  return (bounded, defined)

/-! ## Macros -/

/-- Reads a macro in its own right: a name, its parameters and its body. -/
def macroItem : Reader Bool := do
  word "macro"
  discard name
  let parenthesized ← sees (beginsGroup .parenthesis)
  if parenthesized then discard verbatimGroup
  if !(← sees (beginsGroup .brace)) then
    expectedOneOf Unit ((if parenthesized then [] else ["parentheses"]) ++ ["curly braces"])
  discard verbatimGroup
  return true

/-- Reads a macro call, which may give a name. -/
def namedMacro : Reader Unit := do
  discard namePath
  op "!"
  let ts ← look
  if beginsName ts || beginsWord "try" ts then discard anyIdent
  let d ← verbatimGroup
  if d ≠ .brace then op ";"

/-! ## Imports -/

/-- What an import may begin with, in the words of messages. -/
def useBeginnings : List String := [
  "identifier", "`self`", "`super`", "`crate`", "`try`", "`*`", "curly braces"]

/-- Reads an import; whether a path that begins with `::` is nested in it.  The number bounds its
depth. -/
def useTree : Nat → (allowRoot : Bool) → Reader Bool
  | 0, _ => throw .unexpected
  | n + 1, allowRoot => do
    let ts ← look
    if beginsOp "*" ts then
      op "*"
      return false
    if beginsGroup .brace ts then
      let rooted ← inside .brace <| commaSeparated do
        let rooted ← if allowRoot then tryOp "::" else pure false
        return (← useTree n (allowRoot && !rooted)) || rooted
      return rooted.any id
    if !(beginsName ts || beginsAnyWord ["self", "super", "crate", "try"] ts) then
      expectedOneOf Unit useBeginnings
    discard anyIdent
    if ← tryOp "::" then return ← useTree n false
    if ← tryWord "as" then
      if !(← sees beginsNameOrBlank) then expected Unit "identifier or underscore"
      discard anyIdent
    return false

/-- Reads an import after its word. -/
def importItem : Reader Bool := do
  let rooted ← tryOp "::"
  let kept ← useTree (Tokens.size (← look) + 1) (!rooted)
  op ";"
  return kept

/-- Reads the import of a whole library. -/
def libraryItem : Reader Unit := do
  word "extern"
  word "crate"
  if ← sees (beginsWord "self") then discard anyIdent else discard name
  if ← tryWord "as" then
    if ← sees (beginsWord "_") then discard anyIdent else discard name
  op ";"

/-! ## Structures and enumerations -/

/-- Reads the fields of a structure in braces.  The type of a field without a name may be a
structure or union, which is kept as it stands.  The number bounds their depth. -/
def nestedFields (g : Grammar) : Nat → Reader Unit
  | 0 => throw .unexpected
  | n + 1 => discard <| inside .brace <| commaSeparated do
    copyOuterAttributes g
    visibility
    let blank ← sees (beginsWord "_")
    if blank then discard anyIdent else discard name
    op ":"
    let ts ← look
    if blank && (beginsWord "struct" ts
        || (beginsWord "union" ts && beginsGroup .brace (next ts))) then
      let (_, source) ← withSource do
        discard anyIdent
        nestedFields g n
      write source
    else discard g.type

/-- Reads the fields of a structure in braces. -/
def namedFields (g : Grammar) : Reader Unit := do nestedFields g (Tokens.size (← look) + 1)

/-- Reads the fields of a structure in parentheses. -/
def numberedFields (g : Grammar) : Reader Unit :=
  discard <| inside .parenthesis <| commaSeparated do
    copyOuterAttributes g
    visibility
    discard g.type

/-- Reads a where clause, if there is one; otherwise it is wanted together with `others`, unless one
of those comes next. -/
def conditionsBefore (g : Grammar) (others : List (String × (Tokens → Bool))) : Reader Unit := do
  let conditioned ← copyConditions g
  let ts ← look
  if !others.any (·.2 ts) then
    expectedOneOf Unit ((if conditioned then [] else ["`where`"]) ++ others.map (·.1))

/-- Reads a structure after its word. -/
def structItem (g : Grammar) : Reader Unit := do
  discard name
  copyParameters g
  let ends : List (String × (Tokens → Bool)) := [("`;`", beginsOp ";")]
  let ways := ("curly braces", beginsGroup .brace) :: ends
  if ← sees (beginsWord "where") then conditionsBefore g ways
  else conditionsBefore g (("parentheses", beginsGroup .parenthesis) :: ways)
  let ts ← look
  if beginsGroup .brace ts then namedFields g
  else
    if beginsGroup .parenthesis ts then
      numberedFields g
      conditionsBefore g ends
    op ";"

/-- Reads an enumeration after its word.  The visibility of a variant is not written. -/
def enumItem (g : Grammar) : Reader Unit := do
  discard name
  copyParameters g
  discard (copyConditions g)
  discard <| inside .brace <| commaSeparated do
    copyOuterAttributes g
    discard (captured visibility)
    discard name
    let ts ← look
    if beginsGroup .brace ts then namedFields g
    else if beginsGroup .parenthesis ts then numberedFields g
    tryValue g

/-- Reads an untagged union after its word. -/
def unionItem (g : Grammar) : Reader Unit := do
  discard name
  copyParameters g
  discard (copyConditions g)
  namedFields g

end TraitBuilder.Syntax
