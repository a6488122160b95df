import TraitBuilder.Syntax.Declaration

/-!
# Implementations, traits and foreign items in bodies

What holds items of its own: blocks of foreign items, implementations, and traits.  They are written
as they are read, except for what only newer or stricter declarations may have.
-/

namespace TraitBuilder.Syntax

/-! ## Foreign items -/

/-- Whether the static of a foreign block begins the sequence, perhaps with a word before it. -/
def beginsForeignStatic (ts : Tokens) : Bool :=
  beginsWord "static" ts || (beginsAnyWord ["unsafe", "safe"] ts && beginsWord "static" (next ts))

/-- Reads a foreign static.  One with a word before it or with a value is kept. -/
def foreignStatic (g : Grammar) : Reader Bool := do
  let modified := !(← sees (beginsWord "static"))
  if modified then discard anyIdent
  word "static"
  discard (tryWord "mut")
  discard name
  op ":"
  discard g.type
  let valued ← tryValue g
  op ";"
  return modified || valued

/-- Reads a foreign function.  One that is marked as safe or has a body is kept. -/
def foreignFunction (g : Grammar) : Reader Bool := do
  let (s, isSafe) ← markedSignature g true
  write s.tokens
  if ← sees (beginsGroup .brace) then
    g.block true
    return true
  op ";"
  return isSafe

/-- Reads a foreign item with its attributes. -/
def foreignItem (g : Grammar) : Reader Bool := do
  copyOuterAttributes g
  let visible ← tokensOf visibility
  write visible
  let ts ← look
  if beginsSignature true ts then return ← foreignFunction g
  if beginsForeignStatic ts then return ← foreignStatic g
  if beginsWord "type" ts then
    word "type"
    let (bounded, defined) ← aliasItem g .anywhere
    return bounded || defined
  if visible.isEmpty && beginsItemMacro ts then
    itemMacro
    return false
  expectedOneOf Bool
    (["`fn`", "`static`", "`type`"] ++ if visible.isEmpty then macroBeginnings else [])

/-- Reads a block of foreign items. -/
def foreignBlock (g : Grammar) : Reader Unit := do
  discard (tryWord "unsafe")
  word "extern"
  conventionName
  inside .brace (itemsWithin g (foreignItem g))

/-- Reads what the word `extern` begins and what is no function: the import of a library, or a block
of foreign items, which has no visibility. -/
def externItem (g : Grammar) (visible : Bool) : Reader Unit := do
  let following := next (← look)
  if beginsWord "crate" following then libraryItem
  else
    let named := beginsLiteralOf (· = .string) following
    let body := if named then next following else following
    if !beginsGroup .brace body then
      throw (.expected
        (if named then ["curly braces"] else ["`crate`", "curly braces", "string literal"])
        body.isEmpty)
    if visible then throw (.expected ["`extern`"] false)
    foreignBlock g

/-! ## Traits -/

/-- Reads another name for bounds, none of which is for constant contexts. -/
def traitAlias (g : Grammar) : Reader Unit := do
  word "trait"
  discard name
  copyParameters g
  op "="
  discard (separated (fun ts => beginsWord "where" ts || beginsOp ";" ts) "+"
    (bound g false false))
  discard (copyConditions g)
  op ";"

/-- Reads a trait that is no other name for bounds. -/
def traitItemInBody (g : Grammar) : Reader Unit := do write (← traitAfterAttributes g []).tokens

/-- Reads a trait that no other word precedes, or another name for bounds. -/
def traitOrAlias (g : Grammar) : Reader Unit := do
  let s ← get
  word "trait"
  discard name
  discard (genericParameters g)
  let ts ← look
  if beginsOp "=" ts then
    set s
    traitAlias g
  else if beginsGroup .brace ts || beginsOp ":" ts || beginsWord "where" ts then
    set s
    traitItemInBody g
  else expectedOneOf Unit ["curly braces", "`:`", "`where`", "`=`"]

/-! ## Implementations -/

/-- Whether `default` begins the sequence and is no name of a macro. -/
def beginsDefault (ts : Tokens) : Bool := beginsWord "default" ts && !beginsOp "!" (next ts)

/-- Reads an item of an implementation with its attributes. -/
def implItem (g : Grammar) : Reader Bool := do
  copyOuterAttributes g
  let visible ← tokensOf visibility
  write visible
  let modified ← if ← sees beginsDefault then tryWord "default" else pure false
  let ts ← look
  if beginsSignature false ts then return ← functionItem g
  if beginsWord "const" ts then
    word "const"
    return ← constantItem g
  if beginsWord "type" ts then
    word "type"
    let (bounded, defined) ← aliasItem g .afterDefinition
    return bounded || !defined
  let plain := visible.isEmpty && !modified
  if plain && beginsItemMacro ts then
    itemMacro
    return false
  expectedOneOf Bool ((if modified || beginsWord "default" ts then [] else ["`default`"]) ++
    ["`fn`", "`const`", "`type`"] ++ if plain then macroBeginnings else [])

/-- Whether a type is a path, perhaps in invisible groups. -/
def namesTrait : Ty → Bool
  | .path head _ => !head.qualified
  | .applied head _ _ _ => !head.qualified
  | .group inner => namesTrait inner
  | _ => false

/-- Reads an implementation after its visibility.  One for what is no path is kept, and so is a
constant one. -/
def implBlock (g : Grammar) : Reader Bool := do
  discard (tryWord "default")
  discard (tryWord "unsafe")
  word "impl"
  if ← sees beginsParameters then copyParameters g
  let isConst ← sees fun ts =>
    beginsWord "const" ts || (beginsOp "?" ts && beginsWord "const" (next ts))
  if isConst then
    discard (tryOp "?")
    word "const"
  let negative ← sees fun ts => beginsOp "!" ts && !beginsGroup .brace (next ts)
  if negative then op "!"
  let first ← g.type
  let isFor ← tryWord "for"
  if isFor then discard g.type else if negative then throw .negatedInherent
  discard (copyConditions g)
  inside .brace (itemsWithin g (implItem g))
  return isConst || (isFor && !namesTrait first)

end TraitBuilder.Syntax
