import TraitBuilder.Syntax.Path

/-!
# Attributes

An attribute is a path with nothing, a group of tokens as they stand, or a value.  The value is an
expression; a single literal counts as one even with a sign.
-/

namespace TraitBuilder

open Syntax

/-- What follows the path of an attribute. -/
inductive AttributeBody where
  | word
  /-- A group, with the content as it stands in the source. -/
  | list (delimiter : Delimiter) (content : Tokens)
  | value (tokens : Tokens)
  deriving DecidableEq, Repr

/-- An attribute. -/
structure Attribute where
  /-- Whether it is written inside of what it describes. -/
  inner : Bool
  path : NamePath
  body : AttributeBody
  deriving DecidableEq, Repr

namespace AttributeBody

/-- The body as syntax writes it. -/
def tokens : AttributeBody → Tokens
  | .word => []
  | .list delimiter content => [.group delimiter content]
  | .value tokens => .punct '=' false :: tokens

end AttributeBody

namespace Attribute

/-- The attribute as syntax writes it. -/
def tokens (a : Attribute) : Tokens :=
  .punct '#' false :: ((if a.inner then [.punct '!' false] else []) ++
    [.group .bracket (a.path.tokens ++ a.body.tokens)])

/-- Whether the attribute is called `name`. -/
def is (a : Attribute) (name : String) : Bool := a.path.is name

end Attribute

namespace Syntax

/-- Reads the path of an attribute. -/
def attributePath : Reader NamePath := do
  if ← tryWord "unsafe" then return ⟨false, [⟨"unsafe", false⟩]⟩ else namePath

/-- Reads the value after the sign `=`.  A literal, even one with a sign, is read as such only if
nothing follows it. -/
def attributeValue (g : Grammar) : Reader ExprTree := do
  let s ← get
  match ← attempt (captured literal) with
  | some (value, tokens) =>
    if ← atEnd then return .closed [] (.literal value) tokens
    set s
  | none => pure ()
  let ts ← look
  if beginsOp "#" ts && beginsGroup .bracket (next ts) then throw .nestedAttribute
  g.expr true

/-- Whether a value follows the path of an attribute. -/
def beginsValue (ts : Tokens) : Bool :=
  beginsOp "=" ts && !beginsOp "==" ts && !beginsOp "=>" ts

/-- Whether a list follows the path of an attribute. -/
def beginsList (ts : Tokens) : Bool :=
  beginsGroup .parenthesis ts || beginsGroup .bracket ts || beginsGroup .brace ts

/-- Reads what follows the path of an attribute. -/
def attributeBody (g : Grammar) : Reader AttributeBody := do
  let ts ← look
  if beginsList ts then
    let (d, content) ← groupContent
    return .list d content
  if beginsValue ts then
    discard (captured (op "="))
    return .value (← attributeValue g).tokens
  return .word

/-- Reads an attribute after its hash sign. -/
def attributeAfterHash (g : Grammar) (inner : Bool) : Reader Attribute :=
  inside .bracket do
    let path ← attributePath
    return ⟨inner, path, ← attributeBody g⟩

/-- Reads an attribute of what follows it, without writing it. -/
def outerAttribute (g : Grammar) : Reader Attribute := do
  let (a, _) ← captured do
    op "#"
    attributeAfterHash g false
  return a

/-- Reads an attribute of what encloses it, without writing it. -/
def innerAttribute (g : Grammar) : Reader Attribute := do
  let (a, _) ← captured do
    op "#"
    op "!"
    attributeAfterHash g true
  return a

/-- Reads the attributes of what follows them, without writing them. -/
def outerAttributes (g : Grammar) : Reader (List Attribute) :=
  collect do
    if ← sees (beginsOp "#") then return some (← outerAttribute g) else return none

/-- Reads the attributes of what encloses them, without writing them. -/
def innerAttributes (g : Grammar) : Reader (List Attribute) :=
  collect do
    let ts ← look
    if beginsOp "#" ts && beginsOp "!" (next ts) then return some (← innerAttribute g)
    else return none

/-- Writes attributes. -/
def writeAttributes (attributes : List Attribute) : Reader Unit :=
  write (attributes.flatMap Attribute.tokens)

/-- Reads and writes the attributes of what follows them. -/
def copyOuterAttributes (g : Grammar) : Reader Unit := do
  writeAttributes (← outerAttributes g)

/-- Reads and writes the attributes of what encloses them. -/
def copyInnerAttributes (g : Grammar) : Reader Unit := do
  writeAttributes (← innerAttributes g)

end Syntax

end TraitBuilder
