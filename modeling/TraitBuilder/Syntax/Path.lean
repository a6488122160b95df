import TraitBuilder.Syntax.Grammar

/-!
# Paths and their arguments

Paths of names (`a::b`), as attributes and visibilities have them, and paths whose segments may have
arguments in angle brackets, as types and expressions have them.

Arguments are written with the lifetimes first, whatever their order in the source.
-/

namespace TraitBuilder

/-- A path of names. -/
structure NamePath where
  /-- Whether it begins with `::`. -/
  rooted : Bool
  names : List Ident
  deriving DecidableEq, Repr

namespace NamePath

/-- The path that is one name. -/
def ofIdent (x : Ident) : NamePath := ⟨false, [x]⟩

/-- Whether the path is the single plain name `name`. -/
def is (p : NamePath) (name : String) : Bool :=
  match p with
  | ⟨false, [x]⟩ => x.is name
  | _ => false

/-- The names joined by `::`. -/
def joined (p : NamePath) : String := String.intercalate "::" (p.names.map Ident.spelling)

/-- The path as syntax writes it. -/
def tokens (p : NamePath) : Tokens :=
  (if p.rooted then operator [':', ':'] else []) ++
    ((p.names.map fun x => [Token.ident x]).intersperse (operator [':', ':'])).flatten

end NamePath

namespace Syntax

/-- The words that may stand for a segment of a path. -/
def pathWords : List String := ["super", "self", "Self", "crate"]

/-- Whether a segment of a path of names begins the sequence. -/
def beginsPathName (ts : Tokens) : Bool := beginsName ts || beginsAnyWord pathWords ts

/-- Reads a path of names. -/
def namePath : Reader NamePath := do
  let rooted ← tryOp "::"
  let step : List Ident × Bool → Reader (Option (List Ident × Bool)) := fun (names, more) => do
    if more && (← sees beginsPathName) then
      let x ← anyIdent
      return some (x :: names, ← tryOp "::")
    else return none
  let (names, more) ← iterate step ([], true)
  if names.isEmpty then discard name
  if more then expected Unit "path segment after `::`"
  return ⟨rooted, names.reverse⟩

/-- What an argument in angle brackets is. -/
inductive ArgumentForm where
  | lifetime
  | type (ty : Ty)
  | other

/-- An element of a list, as written, with its form and whether a comma follows. -/
structure ListItem (α : Type) where
  form : α
  tokens : Tokens
  comma : Bool

/-- The comma. -/
def comma : Tokens := [.punct ',' false]

/-- Reads a list up to where `stop` holds, without writing it. -/
def listItems {α : Type} (stop : Tokens → Bool) (element : Reader α) :
    Reader (List (ListItem α)) := do
  let step : List (ListItem α) × Bool → Reader (Option (List (ListItem α) × Bool)) :=
    fun (found, more) => do
      if !more || (← sees stop) then return none
      let (form, tokens) ← captured element
      if ← sees stop then return some (⟨form, tokens, false⟩ :: found, false)
      discard (captured (op ","))
      return some (⟨form, tokens, true⟩ :: found, true)
  return (← iterate step ([], true)).1.reverse

/-- The elements one after the other, with a comma put in where none separates two. -/
def joinItems {α : Type} : List (ListItem α) → Tokens
  | [] => []
  | [x] => x.tokens ++ if x.comma then comma else []
  | x :: rest => x.tokens ++ comma ++ joinItems rest

/-- Reads the literal, name or block that is an argument. -/
def constantArgument (g : Grammar) : Reader Unit := do
  if ← sees beginsLiteral then discard literal
  else if ← sees beginsName then discard name
  else if ← sees (beginsGroup .brace) then g.block true
  else expectedOneOf Unit []

/-- Whether a path is one name, perhaps with arguments. -/
def isSingleSegment : Ty → Bool
  | .path head _ => !head.qualified && head.lead.isEmpty
  | .applied head _ _ _ => !head.qualified && head.lead.isEmpty
  | _ => false

/-- Reads bounds joined by `+` up to where `stop` holds. -/
def boundsUpTo (stop : Tokens → Bool) (bound : Reader Unit) : Reader Unit :=
  discard (iterate (fun more => do
    if !more || (← sees stop) then return none
    bound
    return some (← tryOp "+")) true)

/-- Reads an argument in angle brackets. -/
def argument (g : Grammar) : Reader ArgumentForm := do
  let ts ← look
  if beginsLifetime ts && !beginsOp "+" (next ts) then
    discard lifetimeName
    return .lifetime
  if beginsLiteral ts || beginsGroup .brace ts then
    constantArgument g
    return .other
  let ty ← g.type
  if isSingleSegment ty then
    if ← tryOp "=" then
      let ts ← look
      if beginsLiteral ts || beginsGroup .brace ts then constantArgument g
      else discard g.type
      return .other
    if ← tryOp ":" then
      boundsUpTo (fun ts => beginsOp "," ts || beginsOp ">" ts) g.bound
      return .other
  return .type ty

/-- Reads arguments in angle brackets. -/
def angleArguments (g : Grammar) : Reader Arguments := do
  let (items, opening) ← captured do
    discard (tryOp "::")
    op "<"
    listItems (beginsOp ">") (argument g)
  let closing ← tokensOf (op ">")
  let isLifetime : ListItem ArgumentForm → Bool := fun x => x.form matches .lifetime
  let lifetimes := items.filter isLifetime
  let others := items.filter (!isLifetime ·)
  match items, others with
  | ⟨.type ty, _, _⟩ :: _, x :: others =>
    let more := (if x.comma || !others.isEmpty then comma else []) ++ joinItems others ++ closing
    let between := if lifetimes.isEmpty then [] else comma
    let written := joinItems (lifetimes.map ({ · with comma := false }))
    return .typed (opening ++ written ++ between) ty more
  | _, _ => return .plain (opening ++ joinItems (lifetimes ++ others) ++ closing)

/-- Whether arguments in angle brackets follow a name.  In expressions they follow `::` only. -/
def beginsArguments (inExpr : Bool) (ts : Tokens) : Bool :=
  (!inExpr && beginsOp "<" ts && !beginsOp "<=" ts && !beginsOp "<<=" ts)
    || (beginsOp "::" ts && beginsOp "<" (next (next ts)))

/-- Reads a segment of a path, without writing it. -/
def segment (g : Grammar) (inExpr : Bool) : Reader (Ident × Arguments) := do
  let ((x, arguments), _) ← captured do
    if ← sees (beginsAnyWord ["super", "self", "crate", "try"]) then
      return (← anyIdent, Arguments.plain [])
    let x ← if ← sees (beginsWord "Self") then anyIdent else name
    if ← sees (beginsArguments inExpr) then return (x, ← angleArguments g)
    else return (x, .plain [])
  return (x, arguments)

/-- Reads a further segment of a path after `::`, without writing it. -/
def furtherSegment (g : Grammar) (inExpr : Bool) (p : PathTree) : Reader PathTree := do
  discard (captured (op "::"))
  let (x, arguments) ← segment g inExpr
  return p.extend x arguments

/-- Reads the further segments of a path, without writing them.  A parenthesis after `::` belongs to
what follows the path. -/
def moreSegments (g : Grammar) (inExpr : Bool) (p : PathTree) : Reader PathTree :=
  iterate (fun p => do
    let ts ← look
    if beginsOp "::" ts && !beginsGroup .parenthesis (next (next ts)) then
      return some (← furtherSegment g inExpr p)
    else return none) p

/-- Reads a path that does not begin with a type in angle brackets, without writing it. -/
def unqualifiedPath (g : Grammar) (inExpr : Bool) : Reader PathTree := do
  let lead ← tokensOf (tryOp "::")
  let (x, arguments) ← segment g inExpr
  moreSegments g inExpr (.single false lead x arguments)

/-- Reads a path, without writing it. -/
def path (g : Grammar) (inExpr : Bool) : Reader PathTree := do
  if ← sees (beginsOp "<") then
    let lead ← tokensOf do
      op "<"
      discard g.type
      if ← tryWord "as" then write (← unqualifiedPath g false).tokens
      op ">"
      op "::"
    let (x, arguments) ← segment g inExpr
    iterate (fun p => do
      if ← sees (beginsOp "::") then return some (← furtherSegment g inExpr p)
      else return none) (.single true lead x arguments)
  else unqualifiedPath g inExpr

end Syntax

end TraitBuilder
