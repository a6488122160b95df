import TraitBuilder.Syntax.Item

/-!
# Statements

Bodies of methods and block expressions hold statements: local variables, items, macro calls and
expressions.  They are only written as they are read.
-/

namespace TraitBuilder.Syntax

/-- Whether the word `async` begins the sequence and one of the words follows. -/
def beginsAsyncWith (words : List String) (ts : Tokens) : Bool :=
  beginsWord "async" ts && beginsAnyWord words (next ts)

/-- Whether an item begins the sequence. -/
def beginsItem (ts : Tokens) : Bool :=
  let after := next ts
  beginsAnyWord ["pub", "extern", "use"] ts || (beginsWord "crate" ts && !beginsOp "::" after)
    || (beginsWord "static" ts && (beginsWord "mut" after || beginsName after))
    || (beginsWord "const" ts && !(beginsGroup .brace after || beginsWord "static" after
      || (beginsWord "async" after && !beginsAnyWord ["unsafe", "extern", "fn"] (next after))
      || beginsWord "move" after || beginsOp "|" after))
    || (beginsWord "unsafe" ts && !beginsGroup .brace after)
    || beginsAsyncWith ["unsafe", "extern", "fn"] ts
    || beginsAnyWord ["fn", "mod", "type", "struct", "enum", "trait", "impl", "macro"] ts
    || (beginsWord "union" ts && beginsName after)
    || (beginsWord "auto" ts && beginsWord "trait" after)
    || (beginsWord "default" ts && beginsAnyWord ["unsafe", "impl"] after)

/-- What a path of names and an exclamation mark begin. -/
inductive CallStatement where
  /-- A named macro, which is an item. -/
  | item
  /-- A macro call in braces, which ends the statement. -/
  | braced
  | none

/-- Whether the sequence begins with a macro call that is a statement of its own. -/
def callStatement : Reader CallStatement := do
  let s ← get
  let (found, _) ← captured do
    match ← attempt namePath with
    | some _ =>
      let ts ← look
      let after := next ts
      if !beginsOp "!" ts then return .none
      if beginsName after || beginsWord "try" after then return .item
      let last := next after
      if beginsGroup .brace after
          && !((beginsOp "." last && !beginsOp ".." last) || beginsOp "?" last) then
        return .braced
      return .none
    | none => return .none
  set s
  return found

/-- Reads a local variable after its attributes.  What is done otherwise may follow the value,
unless the value ends with a brace. -/
def localStatement (g : Grammar) : Reader Unit := do
  word "let"
  discard g.pattern
  if ← tryOp ":" then discard g.type
  if ← tryOp "=" then
    let value ← g.expr true
    write value.tokens
    if !value.endsWithBrace && (← tryWord "else") then g.block false
  op ";"

/-- Reads an item as a statement, given the tokens from its attributes on and the attributes.  One
that is kept as it stands keeps them, too. -/
def itemStatement (g : Grammar) (before attributes : Tokens) : Reader Unit := do
  let (kept, tokens) ← captured g.item
  let source ← sourceSince before
  write (if kept then source else attributes ++ tokens)

/-- Reads an expression as a statement, given the tokens from its attributes on and the attributes.
The attributes belong to the first operand.  Whether the statement needs no semicolon before a
further one. -/
def exprStatement (g : Grammar) (before attributes : Tokens) : Reader Bool := do
  let e ← g.statement
  let source ← sourceSince before
  write (if e.form = .verbatim then source
    else (e.markFirst attributes).tokensIn .ofStatement)
  return (← tryOp ";") || e.form.endsStatement

/-- Reads a macro call in braces as a statement. -/
def braceCall : Reader Unit := do
  discard namePath
  op "!"
  discard verbatimGroup
  discard (tryOp ";")

/-- Reads a statement; whether it needs no semicolon before a further one. -/
def statement (g : Grammar) : Reader Bool := do
  let before ← look
  let attributes := (← outerAttributes g).flatMap Attribute.tokens
  let call ← callStatement
  let ts ← look
  if call matches .braced then
    write attributes
    braceCall
    return true
  if beginsWord "let" ts && !beginsInvisible ts then
    write attributes
    localStatement g
    return true
  if beginsItem ts || call matches .item then
    itemStatement g before attributes
    return true
  exprStatement g before attributes

/-- Reads the statements of a block to the end of the tokens. -/
def readStatements (g : Grammar) : Reader Unit :=
  repeatWhile do
    repeatWhile (tryOp ";")
    if ← atEnd then return false
    let ended ← statement g
    if ← atEnd then return false
    if !ended then throw (.surplus ';')
    return true

/-- Reads a block in braces. -/
def readBlock (g : Grammar) (inner : Bool) : Reader Unit :=
  inside .brace do
    if inner then copyInnerAttributes g
    readStatements g

end TraitBuilder.Syntax
