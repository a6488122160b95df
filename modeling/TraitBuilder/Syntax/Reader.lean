import TraitBuilder.Syntax.SyntaxError
import TraitBuilder.Token.LiteralValue

/-!
# Reading syntax

Readers take syntax from the front of a token sequence.  A reader either fails with a
`SyntaxError` or consumes tokens; what it consumes it also *writes*, with the spacing of syntax
instead of the spacing of the source: the characters of an operator joint, everything else apart.

Invisible groups are transparent: a reader that wants a visible token finds it inside of them.
Only readers of types, expressions and visibilities look at such a group itself.

Tokens left over in a group are noted, and count only if nothing else fails.

* `Tokens.exposed_of_visible`: a sequence that begins with a visible token is exposed already.
-/

namespace TraitBuilder

/-- Whether `t` is an invisible group. -/
def Token.isInvisible : Token → Bool
  | .group .invisible _ => true
  | _ => false

mutual

/-- The tokens of `t` with a visible one first, or nothing if `t` holds no visible token. -/
def Token.exposed : Token → List Token
  | .group .invisible content => Tokens.exposed content
  | t => [t]

/-- The sequence with its leading invisible groups opened, so that a visible token comes first. -/
def Tokens.exposed : List Token → List Token
  | [] => []
  | t :: rest =>
    match t.exposed with
    | [] => Tokens.exposed rest
    | visible => visible ++ rest

end

mutual

/-- The number of tokens in `t`, itself included. -/
def Token.size : Token → Nat
  | .group _ content => Tokens.size content + 1
  | _ => 1

/-- The number of tokens at every depth. -/
def Tokens.size : List Token → Nat
  | [] => 0
  | t :: rest => t.size + Tokens.size rest

end

mutual

/-- The number of tokens that `t` is, where an invisible group is its content. -/
def Token.visibleCount : Token → Nat
  | .group .invisible content => Tokens.visibleCount content
  | _ => 1

/-- The number of tokens, where an invisible group is its content. -/
def Tokens.visibleCount : List Token → Nat
  | [] => 0
  | t :: rest => t.visibleCount + Tokens.visibleCount rest

end

mutual

/-- The first `n` tokens of `t`, which has more if it is an invisible group. -/
def Token.takeVisible (n : Nat) : Token → List Token
  | .group .invisible content => Tokens.takeVisible n content
  | t => [t]

/-- The first `n` tokens of the sequence, where an invisible group that is cut is its content. -/
def Tokens.takeVisible (n : Nat) : List Token → List Token
  | [] => []
  | t :: rest =>
    if n = 0 then []
    else if t.visibleCount ≤ n then t :: Tokens.takeVisible (n - t.visibleCount) rest
    else t.takeVisible n

end

theorem Tokens.exposed_of_visible {t : Token} (h : t.isInvisible = false) (rest : Tokens) :
    Tokens.exposed (t :: rest) = t :: rest := by
  unfold Tokens.exposed
  cases t with
  | group d content => cases d <;> simp_all [Token.exposed, Token.isInvisible]
  | _ => simp [Token.exposed]

namespace Syntax

/-! ## Looking ahead -/

/-- The words that are no names, unless raw. -/
def keywords : List String := [
  "_", "abstract", "as", "async", "await", "become", "box", "break", "const", "continue", "crate",
  "do", "dyn", "else", "enum", "extern", "false", "final", "fn", "for", "if", "impl", "in", "let",
  "loop", "macro", "match", "mod", "move", "mut", "override", "priv", "pub", "ref", "return",
  "Self", "self", "static", "struct", "super", "trait", "true", "try", "type", "typeof", "unsafe",
  "unsized", "use", "virtual", "where", "while", "yield"]

/-- Whether `x` is a name and no keyword. -/
def isName (x : Ident) : Bool := x.raw || !keywords.contains x.name

/-- Whether `text` is a number literal, whole or not. -/
def isNumber (text : String) : Bool :=
  match text.toList with
  | c :: _ => c.isDigit
  | [] => false

/-- Whether the characters of an operator begin the sequence, all but the last joint.  An
apostrophe belongs to a lifetime and is no operator. -/
def beginsChars : List Char → Tokens → Bool
  | [], _ => true
  | c :: cs, ts =>
    match Tokens.exposed ts with
    | .punct d joint :: rest =>
      c == d && d != '\'' && (cs.isEmpty || (joint && beginsChars cs rest))
    | _ => false

/-- Whether the operator `symbol` begins the sequence, perhaps of a longer operator. -/
def beginsOp (symbol : String) (ts : Tokens) : Bool := beginsChars symbol.toList ts

/-- The identifier that begins the sequence. -/
def leadingIdent? (ts : Tokens) : Option Ident :=
  match Tokens.exposed ts with
  | .ident x :: _ => some x
  | _ => none

/-- Whether an identifier begins the sequence, keyword or not. -/
def beginsIdent (ts : Tokens) : Bool := (leadingIdent? ts).isSome

/-- Whether the word `w` begins the sequence. -/
def beginsWord (w : String) (ts : Tokens) : Bool :=
  match leadingIdent? ts with
  | some x => x.is w
  | none => false

/-- Whether one of the words begins the sequence. -/
def beginsAnyWord (ws : List String) (ts : Tokens) : Bool := ws.any (beginsWord · ts)

/-- Whether a name begins the sequence. -/
def beginsName (ts : Tokens) : Bool :=
  match leadingIdent? ts with
  | some x => isName x
  | none => false

/-- Whether a lifetime begins the sequence. -/
def beginsLifetime (ts : Tokens) : Bool :=
  match Tokens.exposed ts with
  | .punct '\'' true :: .ident _ :: _ => true
  | _ => false

/-- Whether a literal begins the sequence; the truth values and negated numbers are literals. -/
def beginsLiteral (ts : Tokens) : Bool :=
  match Tokens.exposed ts with
  | .literal _ :: _ => true
  | .ident x :: _ => x.is "true" || x.is "false"
  | .punct '-' _ :: rest =>
    match Tokens.exposed rest with
    | .literal text :: _ => isNumber text
    | _ => false
  | _ => false

/-- The content of the group with delimiter `d` that begins the sequence, and the rest. -/
def leadingGroup? (d : Delimiter) (ts : Tokens) : Option (Tokens × Tokens) :=
  match Tokens.exposed ts with
  | .group e content :: rest => if d = e then some (content, rest) else none
  | _ => none

/-- Whether a group with delimiter `d` begins the sequence. -/
def beginsGroup (d : Delimiter) (ts : Tokens) : Bool := (leadingGroup? d ts).isSome

/-- Whether an invisible group begins the sequence. -/
def beginsInvisible : Tokens → Bool
  | t :: _ => t.isInvisible
  | [] => false

/-- The sequence after one token, where a lifetime counts as one. -/
def next (ts : Tokens) : Tokens :=
  match Tokens.exposed ts with
  | .punct '\'' true :: .ident _ :: rest => rest
  | _ :: rest => rest
  | [] => []

/-- Whether nothing visible is left. -/
def isDone (ts : Tokens) : Bool := (Tokens.exposed ts).isEmpty

/-! ## Readers -/

/-- The state of a reader. -/
structure State where
  /-- The tokens still to read. -/
  rest : Tokens
  /-- The tokens written, last first. -/
  written : List Token
  /-- The error of the first group with tokens left over.  It counts if nothing else fails. -/
  leftOver : Option SyntaxError

/-- A reader of an `α`. -/
abbrev Reader (α : Type) := StateT State (Except SyntaxError) α

/-- The tokens still to read. -/
def look : Reader Tokens := return (← get).rest

/-- Whether the tokens still to read have the property. -/
def sees (p : Tokens → Bool) : Reader Bool := return p (← look)

/-- Whether all tokens are read. -/
def atEnd : Reader Bool := return (← look).isEmpty

/-- Appends to the tokens written. -/
def write (ts : Tokens) : Reader Unit :=
  modify fun s => { s with written := ts.reverse ++ s.written }

/-- Goes on with the given tokens. -/
def goOn (rest : Tokens) : Reader Unit := modify fun s => { s with rest := rest }

/-- Fails because one of several things was wanted. -/
def expectedOneOf (α : Type) (wanted : List String) : Reader α := do
  throw (.expected wanted (← atEnd))

/-- Fails because `what` was wanted. -/
def expected (α : Type) (what : String) : Reader α := expectedOneOf α [what]

/-- What `r` reads, and what it writes, without writing it. -/
def captured {α : Type} (r : Reader α) : Reader (α × Tokens) := do
  let outer := (← get).written
  modify fun s => { s with written := [] }
  let value ← r
  let inner := (← get).written
  modify fun s => { s with written := outer }
  return (value, inner.reverse)

/-- What `r` writes, without writing it. -/
def tokensOf {α : Type} (r : Reader α) : Reader Tokens := return (← captured r).2

/-- Tries `r`; if it fails, nothing is consumed. -/
def attempt {α : Type} (r : Reader α) : Reader (Option α) := fun s =>
  match r s with
  | .ok (value, s) => .ok (some value, s)
  | .error _ => .ok (none, s)

/-- Reads the operator `symbol`. -/
def op (symbol : String) : Reader Unit := do
  let ts ← look
  if beginsOp symbol ts then
    goOn (symbol.toList.foldl (fun ts _ => next ts) ts)
    write (operator symbol.toList)
  else throw (.missing symbol)

/-- Reads the operator `symbol` if it comes next. -/
def tryOp (symbol : String) : Reader Bool := do
  if ← sees (beginsOp symbol) then
    op symbol
    return true
  else return false

/-- Reads an identifier, keyword or not. -/
def anyIdent : Reader Ident := do
  match Tokens.exposed (← look) with
  | .ident x :: rest =>
    goOn rest
    write [.ident x]
    return x
  | _ => expected Ident "identifier"

/-- Reads a name. -/
def name : Reader Ident := do
  match leadingIdent? (← look) with
  | some x => if isName x then anyIdent else throw (.keyword x.spelling)
  | none => expected Ident "identifier"

/-- Reads the word `w`. -/
def word (w : String) : Reader Unit := do
  if ← sees (beginsWord w) then discard anyIdent
  else expected Unit ("`" ++ w ++ "`")

/-- Reads the word `w` if it comes next. -/
def tryWord (w : String) : Reader Bool := do
  if ← sees (beginsWord w) then
    word w
    return true
  else return false

/-- Reads a lifetime. -/
def lifetimeName : Reader Ident := do
  match Tokens.exposed (← look) with
  | .punct '\'' true :: .ident x :: rest =>
    goOn rest
    write (lifetime x)
    return x
  | _ => expected Ident "lifetime"

/-- Reads a lifetime if one comes next. -/
def tryLifetime : Reader (Option Ident) := do
  if ← sees beginsLifetime then return some (← lifetimeName) else return none

/-- The literals of syntax. -/
inductive Literal where
  /-- A literal token, with a sign before a negated number. -/
  | token (negated : Bool) (text : String)
  | truth (value : Bool)
  deriving DecidableEq, Repr

/-- Reads a literal. -/
def literal : Reader Literal := do
  match Tokens.exposed (← look) with
  | .literal text :: rest =>
    goOn rest
    write [.literal text]
    return .token false text
  | .ident x :: _ =>
    if x.is "true" || x.is "false" then
      discard anyIdent
      return .truth (x.name == "true")
    else expected Literal "literal"
  | .punct '-' _ :: rest =>
    match Tokens.exposed rest with
    | .literal text :: rest =>
      if isNumber text then
        goOn rest
        write [.punct '-' false, .literal text]
        return .token true text
      else expected Literal "literal"
    | _ => expected Literal "literal"
  | _ => expected Literal "literal"

/-- Runs `r` on the content of a group and returns to what follows the group.  What `r` leaves of
the content is noted as left over. -/
def withContent {α : Type} (d : Delimiter) (content rest : Tokens) (r : Reader α) :
    Reader (α × Tokens) := do
  let outer ← get
  set { outer with rest := content, written := [] }
  let value ← r
  let s ← get
  let leftOver := s.leftOver <|> if isDone s.rest then none else some (.leftIn d)
  set { outer with rest := rest, leftOver := leftOver }
  return (value, s.written.reverse)

/-- The name of a delimiter in messages. -/
def delimiterName : Delimiter → String
  | .parenthesis => "parentheses"
  | .bracket => "square brackets"
  | .brace => "curly braces"
  | .invisible => "invisible group"

/-- Reads a group with delimiter `d`, and its content with `r`. -/
def inside {α : Type} (d : Delimiter) (r : Reader α) : Reader α := do
  match leadingGroup? d (← look) with
  | some (content, rest) =>
    let (value, written) ← withContent d content rest r
    write [.group d written]
    return value
  | none => expected α (delimiterName d)

/-- Reads an invisible group, and its content with `r`.  The group is not written. -/
def insideInvisible {α : Type} (r : Reader α) : Reader (α × Tokens) := do
  match ← look with
  | .group .invisible content :: rest => withContent .invisible content rest r
  | _ => expected (α × Tokens) "invisible group"

/-- Reads a group in parentheses, brackets or braces, without writing it. -/
def groupContent : Reader (Delimiter × Tokens) := do
  match ← look with
  | .group d content :: rest =>
    if d = .invisible then expected (Delimiter × Tokens) "delimiter"
    else
      goOn rest
      return (d, content)
  | _ => expected (Delimiter × Tokens) "delimiter"

/-- Reads a group in parentheses, brackets or braces as it stands. -/
def verbatimGroup : Reader Delimiter := do
  let (d, content) ← groupContent
  write [.group d content]
  return d

/-- The tokens of `before` that precede `rest`, which reading has come to. -/
def tokensUpTo (before rest : Tokens) : Tokens :=
  Tokens.takeVisible (Tokens.visibleCount before - Tokens.visibleCount rest) before

/-- The tokens of `before`, as they stand in the source, that are read by now. -/
def sourceSince (before : Tokens) : Reader Tokens := return tokensUpTo before (← look)

/-- What `r` reads, and the tokens as they stand in the source, without writing anything. -/
def withSource {α : Type} (r : Reader α) : Reader (α × Tokens) := do
  let before ← look
  let (value, _) ← captured r
  return (value, ← sourceSince before)

/-- Reads with `r`; where `verbatim` holds of the value, the tokens are written as they stand. -/
def copyingIf {α : Type} (verbatim : α → Bool) (r : Reader α) : Reader α := do
  let before ← look
  let (value, tokens) ← captured r
  let source ← sourceSince before
  write (if verbatim value then source else tokens)
  return value

/-- Repeats `step` as long as it changes the value.  The number bounds the repetitions. -/
def iterateAtMost {σ : Type} (step : σ → Reader (Option σ)) : Nat → σ → Reader σ
  | 0, _ => throw .unexpected
  | n + 1, value => do
    match ← step value with
    | some value => iterateAtMost step n value
    | none => return value

/-- Repeats `step` as long as it changes the value.  Each repetition must consume a token. -/
def iterate {σ : Type} (step : σ → Reader (Option σ)) (value : σ) : Reader σ := do
  iterateAtMost step (Tokens.size (← look) + 2) value

/-- Repeats `step` as long as it says so.  Each repetition must consume a token. -/
def repeatWhile (step : Reader Bool) : Reader Unit :=
  iterate (fun _ => return if ← step then some () else none) ()

/-- Collects what `step` reads as long as it reads something. -/
def collect {α : Type} (step : Reader (Option α)) : Reader (List α) := do
  let found ← iterate (fun found => return (← step).map (· :: found)) []
  return found.reverse

/-- Reads elements with a separator between them up to where `stop` holds.  A separator may stand
after the last element. -/
def separated {α : Type} (stop : Tokens → Bool) (symbol : String) (element : Reader α) :
    Reader (List α) := do
  let step : (List α × Bool) → Reader (Option (List α × Bool)) := fun (found, more) => do
    if !more || (← sees stop) then return none
    let x ← element
    if ← sees stop then return some (x :: found, false)
    op symbol
    return some (x :: found, true)
  return (← iterate step ([], true)).1.reverse

/-- Reads elements with commas between them up to the end of the tokens. -/
def commaSeparated {α : Type} (element : Reader α) : Reader (List α) :=
  separated List.isEmpty "," element

/-- The result of a reader that must read all tokens, and what it writes. -/
def readAll {α : Type} (r : Reader α) (ts : Tokens) : Except SyntaxError (α × Tokens) :=
  match r ⟨ts, [], none⟩ with
  | .ok (value, s) =>
    match s.leftOver with
    | some e => .error e
    | none => if isDone s.rest then .ok (value, s.written.reverse) else .error .unexpected
  | .error e => .error e

end Syntax

end TraitBuilder
