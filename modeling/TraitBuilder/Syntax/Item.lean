import TraitBuilder.Syntax.Implementation

/-!
# Items in bodies

Bodies of methods and block expressions may hold any item.  An item is only written as it is read,
or as it stands in the source; its reader answers which.
-/

namespace TraitBuilder.Syntax

/-- Reads a module. -/
def moduleItem (g : Grammar) : Reader Unit := do
  discard (tryWord "unsafe")
  word "mod"
  if ← sees (beginsWord "try") then discard anyIdent else discard name
  let ts ← look
  if beginsOp ";" ts then op ";"
  else if beginsGroup .brace ts then
    inside .brace <| itemsWithin g do
      copyOuterAttributes g
      g.item
  else expectedOneOf Unit ["`;`", "curly braces"]

/-- Reads what the word `unsafe` begins and what is no function. -/
def unsafeItem (g : Grammar) (visible : Bool) : Reader Bool := do
  let following := next (← look)
  if beginsWord "trait" following
      || (beginsWord "auto" following && beginsWord "trait" (next following)) then
    traitItemInBody g
    return false
  if beginsWord "impl" following then return (← implBlock g) || visible
  if beginsWord "extern" following then
    if visible then throw (.expected ["`extern`"] false)
    foreignBlock g
    return false
  if beginsWord "mod" following then
    moduleItem g
    return false
  throw (.expected (["`trait`"] ++ (if beginsWord "auto" following then [] else ["`auto`"]) ++
    ["`impl`", "`extern`", "`mod`"]) following.isEmpty)

/-- What may begin an item, in the words of messages, given the tokens that begin none.  A word that
begins an item only before certain others is left out if it stands there. -/
def itemBeginnings (visible : Bool) (ts : Tokens) : List String :=
  let absent (w : String) : List String := if beginsWord w ts then [] else ["`" ++ w ++ "`"]
  ["`fn`", "`extern`", "`use`", "`static`", "`const`", "`unsafe`", "`mod`", "`type`", "`struct`",
    "`enum`"] ++ absent "union" ++ ["`trait`"] ++ absent "auto" ++ ["`impl`"] ++
    absent "default" ++ ["`macro`"] ++ if visible then [] else macroBeginnings

/-- Reads an item that a word of its own begins, if `ts` begin with one.  The value is whether the
item is kept as it stands. -/
def wordItem? (g : Grammar) (visible : Bool) (ts : Tokens) : Option (Reader Bool) :=
  let plain (r : Reader Unit) : Reader Bool := do
    r
    return false
  match (leadingIdent? ts).map Ident.spelling with
  | some "extern" => some (plain (externItem g visible))
  | some "use" => some do
    word "use"
    importItem
  | some "static" => some do
    word "static"
    staticItem g
  | some "const" => some do
    word "const"
    constantItem g
  | some "unsafe" => some (unsafeItem g visible)
  | some "mod" => some (plain (moduleItem g))
  | some "type" => some do
    word "type"
    let (bounded, defined) ← aliasItem g .beforeDefinition
    return bounded || !defined
  | some "struct" => some <| plain do
    word "struct"
    structItem g
  | some "enum" => some <| plain do
    word "enum"
    enumItem g
  | some "trait" => some (plain (traitOrAlias g))
  | some "impl" => some do return (← implBlock g) || visible
  | some "macro" => some macroItem
  | _ => none

/-- Reads what follows the attributes of an item and its visibility; `visible` says whether it has
one. -/
def itemAfterVisibility (g : Grammar) (visible : Bool) : Reader Bool := do
  let ts ← look
  if beginsSignature false ts then return ← functionItem g
  match wordItem? g visible ts with
  | some r => return ← r
  | none => pure ()
  if beginsWord "union" ts && beginsName (next ts) then
    word "union"
    unionItem g
    return false
  if beginsWord "auto" ts && beginsWord "trait" (next ts) then
    traitItemInBody g
    return false
  if beginsDefault ts then return (← implBlock g) || visible
  if !visible && beginsItemMacro ts then
    namedMacro
    return false
  expectedOneOf Bool (itemBeginnings visible ts)

/-- Reads what follows the attributes of an item. -/
def readItem (g : Grammar) : Reader Bool := do
  let visible ← tokensOf visibility
  write visible
  itemAfterVisibility g (!visible.isEmpty)

end TraitBuilder.Syntax
