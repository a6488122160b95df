import TraitBuilder.Argument.Fault
import TraitBuilder.Token.Lexer

/-!
# Entries of argument lists

The arguments of an attribute are entries with commas between them.  An entry has a name, which is a
path, and after it nothing, a list in a group, or a value; a literal may stand in place of an entry
but never means anything.

* `Entry.listOfTokens?`: the entries that the tokens are.
-/

namespace TraitBuilder

open Syntax

/-- What follows the name of an entry. -/
inductive EntryBody where
  | word
  | list (content : Tokens)
  | value (value : Expr)
  deriving DecidableEq, Repr

/-- An entry of an argument list. -/
inductive Entry where
  | literal
  | named (path : NamePath) (body : EntryBody)
  deriving DecidableEq, Repr

namespace Syntax

/-- Whether a literal begins the tokens that is not the name of a value. -/
def beginsLiteralEntry (ts : Tokens) : Bool :=
  beginsLiteral ts && !(beginsAnyWord ["true", "false"] ts && beginsOp "=" (next ts))

/-- Reads what follows the name of an entry. -/
def entryBody (g : Grammar) : Reader EntryBody := do
  let ts ← look
  if beginsList ts then return .list (← groupContent).2
  if beginsValue ts then
    op "="
    let value ← attributeValue g
    return .value ⟨value.form, value.tokens⟩
  return .word

/-- Reads an entry. -/
def entry (g : Grammar) : Reader Entry := do
  let ts ← look
  if beginsLiteralEntry ts then
    discard literal
    return .literal
  if beginsIdent ts || (beginsOp "::" ts && beginsIdent (next (next ts))) then
    let path ← attributePath
    return .named path (← entryBody g)
  expected Entry "identifier or literal"

end Syntax

/-- The entries that the tokens are. -/
def Entry.listOfTokens? (ts : Tokens) : Except SyntaxError (List Entry) :=
  (parse (fun g => commaSeparated (entry g)) ts).map (·.1)

/-! ## Values -/

/-- The expression inside all invisible groups. -/
def Expr.ungrouped (e : Expr) : Expr :=
  match e with
  | ⟨.group inner tokens, _⟩ => ungroup inner tokens
  | e => e
where
  /-- The expression of the given form and tokens inside all invisible groups. -/
  ungroup : Form → Tokens → Expr
    | .group inner tokens, _ => ungroup inner tokens
    | form, tokens => ⟨form, tokens⟩

/-- The word for a kind of literal in messages. -/
def Literal.Kind.word : Literal.Kind → String
  | .string => "string"
  | .byteString => "byte string"
  | .cString => "unknown"
  | .byte => "byte"
  | .character => "char"
  | .int => "int"
  | .float => "float"
  | .unknown => "verbatim"

/-- The word for the kind of an expression in messages. -/
def Expr.kindWord (e : Expr) : String :=
  match e.form with
  | .literal (.token _ text) => (Literal.kind text).word
  | .literal (.truth _) => "bool"
  | form => form.word

/-- The name that the expression is, if it is one. -/
def Expr.name? (e : Expr) : Option Ident :=
  match e.form with
  | .path p => p.toTy.bareName?
  | _ => none

/-- The text that the expression denotes if it is a string literal, and its suffix. -/
def Expr.text? (e : Expr) : Option (String × String) :=
  match e.form with
  | .literal (.token _ text) => Literal.denoted? text
  | _ => none

/-- What the text of a string literal with the given suffix is, read as source text. -/
def readText {α : Type} (r : Tokens → Except SyntaxError α) (text suffix : String) :
    Except ArgumentFault α :=
  if suffix.isEmpty then
    match (Tokens.ofText? text).map r with
    | some (.ok value) => .ok value
    | _ => .error (.unknownValue text)
  else .error (.unknownValue text)

namespace EntryBody

/-- The value of the entry.  A list is first judged as such. -/
def value? : EntryBody → Except ArgumentFault Expr
  | .word => .error .wordEntry
  | .list content =>
    match Entry.listOfTokens? content with
    | .ok _ => .error .listEntry
    | .error e => .error (.malformed e)
  | .value e => .ok e.ungrouped

/-- The identifier that the entry gives, as a name or as a string. -/
def ident? (body : EntryBody) : Except ArgumentFault Ident := do
  let e ← body.value?
  match e.name?, e.text? with
  | some x, _ => return x
  | none, some (text, suffix) => readText Ident.ofTokens? text suffix
  | none, none => throw (.valueKind e.kindWord)

/-- The truth value that the entry gives; an entry without a value says yes. -/
def truth? (body : EntryBody) : Except ArgumentFault Bool :=
  match body with
  | .word => .ok true
  | body => do
    let e ← body.value?
    match e.form, e.text? with
    | .literal (.truth answer), _ => return answer
    | _, some (text, _) =>
      if text = "true" then return true
      else if text = "false" then return false
      else throw (.unknownValue text)
    | _, none => throw (.valueKind e.kindWord)

/-- Whether the entry is a word, as a switch must be. -/
def switch? (body : EntryBody) : Except ArgumentFault Unit :=
  match body with
  | .word => .ok ()
  | body => do throw (.valueKind (← body.value?).kindWord)

/-- The expression that the entry gives; a string is read as the text of one. -/
def expr? (body : EntryBody) : Except ArgumentFault Expr := do
  let e ← body.value?
  match e.text? with
  | some (text, suffix) => readText Expr.ofTokens? text suffix
  | none => return e

end EntryBody

end TraitBuilder
