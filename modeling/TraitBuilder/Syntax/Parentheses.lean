import TraitBuilder.Syntax.ExprTree

/-!
# Writing expressions

The tokens of an expression depend on where it stands: a part of it that would be read differently
there is written in parentheses.  `Surroundings` says where an expression stands; the parts of an
expression stand in surroundings made from those of the whole.

Parentheses are not added wherever precedences differ.  What extends as far as it can, such as a
closure, may stand on the left of an operator if it cannot take that operator for its own: `scan`
follows the right ends of an expression to find that out.

* `ExprTree.tokensIn`: the tokens in given surroundings.
* `ExprTree.tokens`: the tokens where nothing surrounds the expression.
-/

namespace TraitBuilder.Syntax

/-! ## Surroundings -/

/-- Where an expression stands. -/
structure Surroundings where
  /-- How tightly the operator before it binds. -/
  previous : Nat
  /-- How tightly the operator after it binds. -/
  next : Nat
  /-- Whether it is a statement. -/
  statement : Bool
  /-- Whether it begins a statement that goes on after it. -/
  beginsStatement : Bool
  /-- Whether it is what an arm of a match gives. -/
  arm : Bool
  /-- Whether it begins what an arm of a match gives. -/
  beginsArm : Bool
  /-- Whether it is read as a condition, in which a brace begins no structure. -/
  condition : Bool
  /-- Whether it ends a condition. -/
  endsCondition : Bool
  /-- Whether it begins an operand that a condition may leave out. -/
  beginsOptional : Bool
  /-- Whether the operator after it may begin an expression. -/
  nextBegins : Bool
  /-- Whether the operator after it may continue an expression. -/
  nextContinues : Bool
  /-- Whether the operator after it may begin arguments of a type. -/
  nextBeginsArguments : Bool
  deriving DecidableEq, Repr

namespace Surroundings

/-- Nothing surrounds the expression. -/
def alone : Surroundings where
  previous := Precedence.jump
  next := Precedence.jump
  statement := false
  beginsStatement := false
  arm := false
  beginsArm := false
  condition := false
  endsCondition := false
  beginsOptional := false
  nextBegins := false
  nextContinues := false
  nextBeginsArguments := false

/-- The expression is a statement. -/
def ofStatement : Surroundings := { alone with statement := true }

/-- The expression is what an arm of a match gives. -/
def ofArm : Surroundings := { alone with arm := true }

/-- The expression is a condition. -/
def ofCondition : Surroundings := { alone with condition := true, endsCondition := true }

/-- The surroundings of the first operand before an operator. -/
def before (s : Surroundings) (precedence : Nat) (begins beginsArguments : Bool) : Surroundings :=
  { s with
    next := precedence
    statement := false
    beginsStatement := s.statement || s.beginsStatement
    arm := false
    beginsArm := s.arm || s.beginsArm
    endsCondition := false
    nextBegins := begins
    nextContinues := true
    nextBeginsArguments := beginsArguments }

/-- The surroundings of the first operand before a dot or a question mark.  These also follow the
closing brace of a statement. -/
def beforeDot (s : Surroundings) : Surroundings :=
  { s with
    next := Precedence.operand
    statement := s.statement || s.beginsStatement
    beginsStatement := false
    arm := s.arm || s.beginsArm
    beginsArm := false
    endsCondition := false
    nextBegins := false
    nextContinues := true
    nextBeginsArguments := false }

/-- The surroundings of the last operand after an operator.  After some operators a brace may begin
a structure even in a condition, and some operators may lack this operand. -/
def after (s : Surroundings) (precedence : Nat) (structures optional : Bool) : Surroundings :=
  { s with
    previous := precedence
    statement := false
    beginsStatement := false
    arm := false
    beginsArm := false
    condition := s.condition && !structures
    beginsOptional := s.condition && optional }

/-- Whether the expression must be in parentheses, lest a statement or condition ends too soon. -/
def encloses (s : Surroundings) (e : ExprTree) : Bool :=
  (s.beginsStatement && e.form.endsStatement)
    || ((s.statement || s.beginsStatement) && e.form = .let_)
    || (s.beginsArm && e.form.endsArm)
    || (s.condition && e.form = .struct_)
    || (s.endsCondition && e.isBareJump && e.form ≠ .break_)
    || (s.endsCondition && !s.condition
      && ((e.isBareJump && e.form = .break_) || e.form matches .path _ || e.lacksUpperEnd))
    || (s.beginsOptional && e.form = .block true && e.attributes.isEmpty)

end Surroundings

/-! ## Precedence of an expression -/

namespace ExprTree

/-- Whether the type of a cast ends with a name that arguments could follow. -/
def endsInPathWord (ty : Tokens) : Bool :=
  match ty.getLast? with
  | some (.ident x) => !x.raw && ["self", "super", "crate", "try"].contains x.name
  | _ => false

/-- How tightly the expression binds by itself.  Attributes count as a sign. -/
def precedence (e : ExprTree) : Nat :=
  match e.form with
  | .closure false => Precedence.jump
  | .break_ | .return_ | .yield_ => if e.isBareJump then Precedence.operand else Precedence.jump
  | .assignment => Precedence.assignment
  | .range => Precedence.range
  | .binary precedence => precedence
  | .let_ => Precedence.trial
  | .cast => Precedence.cast
  | .unary | .reference | .rawReference => Precedence.sign
  | _ => if e.attributes.isEmpty then Precedence.operand else Precedence.sign

/-- Whether the expression extends to the end of whatever it stands in. -/
def extends_ (e : ExprTree) : Bool :=
  match e.form with
  | .break_ | .closure _ | .let_ | .return_ | .yield_ => true
  | _ => e.lacksLowerEnd

/-- How tightly the expression binds in its surroundings. -/
def precedenceIn (e : ExprTree) (s : Surroundings) : Nat :=
  if s.nextBegins && e.isBareJump then Precedence.jump
  else if !s.nextContinues && e.extends_ then Precedence.sign
  else match e with
    | .suffixed _ .cast _ ty =>
      if s.nextBeginsArguments && endsInPathWord ty then Precedence.jump else e.precedence
    | _ => e.precedence

/-! ## How far an expression extends -/

/-- What becomes of the operator after an expression that is written without parentheses. -/
inductive Scan where
  /-- The expression is not read at all as it is meant. -/
  | fails
  /-- The operator is left to what surrounds the expression. -/
  | leaves
  /-- The operator is taken for one of the expression. -/
  | takes
  deriving DecidableEq, Repr

/-- Whether the operators around the expression leave its own operator to it. -/
def holds (e : ExprTree) (s : Surroundings) : Bool :=
  match e.form with
  | .assignment => s.previous ≤ Precedence.assignment
  | .binary precedence =>
    if precedence = Precedence.assignment then s.previous ≤ precedence else s.previous < precedence
  | .cast => s.previous < Precedence.cast
  | .range => e.lacksLowerEnd || s.previous < Precedence.assignment
  | _ => true

/-- What becomes of the operator after an expression, given the surroundings, the precedence of the
operator before the expression, and two counts of what the operators before that one come to. -/
abbrev Scanner := Surroundings → (precedence failing leaving : Nat) → Scan

/-- How tightly the last operand of an operator binds in its surroundings, given its scanner. -/
def lastPrecedence (e : ExprTree) (scan : Scanner) (s : Surroundings) : Nat :=
  let own := e.precedenceIn s
  let loose :=
    if s.previous = Precedence.assignment || s.previous = Precedence.trial
        || s.previous = Precedence.sign then own < s.previous
    else own ≤ s.previous
  let exposed := s.next = Precedence.range || s.next = Precedence.or || s.next = Precedence.and
    || !s.nextBegins
  if loose && exposed && scan s s.previous 1 0 ≠ .takes && e.holds s then Precedence.sign else own

/-- Whether the operator after the expression binds more tightly than the one before it, or no
operator follows. -/
def yields (s : Surroundings) (precedence : Nat) : Bool :=
  s.next = Precedence.jump ||
    if precedence = Precedence.assignment || precedence = Precedence.comparison then
      precedence ≤ s.next
    else precedence < s.next

/-- What becomes of the operator if its precedence alone decides. -/
def byPrecedence (s : Surroundings) (precedence : Nat) : Scan :=
  if yields s precedence then .takes else .leaves

/-- Whether something is applied to the expression. -/
def isApplied (s : Surroundings) : Bool := s.next = Precedence.operand

/-- Whether the operators before the expression already decide. -/
def isDecided (s : Surroundings) (precedence failing leaving : Nat) : Bool :=
  if isApplied s then failing ≥ 2 && (yields s precedence || leaving ≥ 1) else leaving ≥ 1

/-- What becomes of the operator after an expression that has no last operand. -/
def scanWhole (s : Surroundings) (precedence : Nat) : Scan :=
  if (s.next = Precedence.assignment || s.next = Precedence.range)
      && precedence = Precedence.range then .fails
  else if precedence = Precedence.trial && s.next < Precedence.trial then .fails
  else byPrecedence s precedence

/-- What becomes of the operator after a jump without a value. -/
def scanBareJump (s : Surroundings) (precedence : Nat) : Scan :=
  if s.next = Precedence.assignment && precedence > Precedence.assignment then .fails else .takes

/-- What becomes of the operator after an assignment, given the scanner of its right side. -/
def scanAssignment (right : ExprTree) (scan : Scanner) : Scanner := fun s _ failing leaving =>
  if (if isApplied s then failing ≥ 2 else leaving ≥ 1) then .takes
  else
    let s' := s.after Precedence.assignment false false
    if scan s' Precedence.assignment (if isApplied s then failing else 1) 1 ≠ .fails then .takes
    else if right.lastPrecedence scan s' < Precedence.assignment then .takes
    else .fails

/-- What becomes of the operator after an operator of precedence `own`. -/
def scanBinary (own : Nat) (right : ExprTree) (scan : Scanner) : Scanner :=
  fun s precedence failing leaving =>
    if isDecided s precedence failing leaving then .takes
    else if own = Precedence.comparison && s.next = Precedence.comparison then .takes
    else
      let s' := s.after own false false
      match scan s' own (if isApplied s then failing else 1) (if yields s precedence then 1 else 0)
      with
      | .fails =>
        if own ≠ Precedence.assignment && right.lastPrecedence scan s' ≤ own then
          byPrecedence s precedence
        else .fails
      | .leaves => byPrecedence s precedence
      | .takes => .takes

/-- What becomes of the operator after a sign and its operand. -/
def scanSign (right : ExprTree) (scan : Scanner) : Scanner := fun s precedence failing leaving =>
  if isDecided s precedence failing leaving then .takes
  else
    let s' := s.after Precedence.sign false false
    match scan s' precedence (if isApplied s then failing else 1)
      (if yields s precedence then 1 else 0) with
    | .fails =>
      if right.lastPrecedence scan s' < Precedence.sign then byPrecedence s precedence else .fails
    | .leaves => byPrecedence s precedence
    | .takes => .takes

/-- What becomes of the operator after a range with an upper end. -/
def scanRange (right : ExprTree) (scan : Scanner) : Scanner := fun s _ failing _ =>
  if failing ≥ 2 then .takes
  else
    let s' := s.after Precedence.range false true
    let loose := s.next = Precedence.assignment || s.next = Precedence.range
    let found := scan s' Precedence.range failing (if loose then 0 else 1)
    if found = .takes || (found = .leaves && !loose) then .takes
    else if right.lastPrecedence scan s' ≤ Precedence.range then .takes
    else .fails

/-- What becomes of the operator after what extends as far as it can; `s'` are the surroundings of
its operand. -/
def scanJump (s' : Surroundings) (scan : Scanner) (leaving : Nat) : Scan :=
  if leaving ≥ 1 then .takes
  else if scan s' Precedence.jump 1 1 = .fails then .leaves
  else .takes

/-- What becomes of the operator after a pattern tried in a condition. -/
def scanTrial (right : ExprTree) (scan : Scanner) : Scanner := fun s _ _ leaving =>
  if leaving ≥ 1 then .takes
  else
    let s' := s.after Precedence.trial false false
    let loose := s.next < Precedence.trial
    let found := scan s' Precedence.trial 1 (if loose then 0 else 1)
    if found = .takes then .takes
    else if loose then .leaves
    else if right.lastPrecedence scan s' < Precedence.trial then .takes
    else if found = .fails then .leaves
    else .takes

/-- What becomes of the operator after an expression with two operands, given the scanner of the
second one. -/
def scanJoined (marked : Bool) (form : Form) (right : ExprTree) (scan : Scanner) : Scanner :=
  if marked then fun s precedence _ _ => scanWhole s precedence
  else match form with
    | .assignment => scanAssignment right scan
    | .binary own => scanBinary own right scan
    | .range => scanRange right scan
    | _ => fun s precedence _ _ => scanWhole s precedence

/-- What becomes of the operator after an expression with an operand at its end only, given the
scanner of the operand. -/
def scanPrefixed (marked : Bool) (form : Form) (head : Tokens) (right : ExprTree) (scan : Scanner) :
    Scanner :=
  match form with
  | .unary | .reference | .rawReference => scanSign right scan
  | .range =>
    if marked then fun s precedence _ _ => scanWhole s precedence else scanRange right scan
  | .break_ => fun s _ _ leaving =>
    if head.length = 1 && right.beginsWithLabel then .takes
    else scanJump (s.after Precedence.jump true true) scan leaving
  | .return_ | .yield_ => fun s _ _ leaving =>
    scanJump (s.after Precedence.jump true false) scan leaving
  | .closure _ => fun s _ _ leaving => scanJump (s.after Precedence.jump false false) scan leaving
  | .let_ => scanTrial right scan
  | _ => fun s precedence _ _ => scanWhole s precedence

/-- What becomes of the operator after an expression without an operand at its end. -/
def scanClosed (e : ExprTree) (s : Surroundings) (precedence : Nat) : Scan :=
  if e.lacksUpperEnd && e.attributes.isEmpty then
    if s.next = Precedence.range then .takes else .fails
  else if e.isBareJump then scanBareJump s precedence
  else scanWhole s precedence

/-- What becomes of the operator after the expression. -/
def scan (e : ExprTree) : Scanner := fun s precedence failing leaving =>
  if s.encloses e then byPrecedence s precedence
  else match e with
    | .joined attributes form _ _ right =>
      scanJoined (!attributes.isEmpty) form right right.scan s precedence failing leaving
    | .prefixed attributes form head right =>
      scanPrefixed (!attributes.isEmpty) form head right right.scan s precedence failing leaving
    | e => scanClosed e s precedence

/-- How tightly the first operand of an operator binds in its surroundings. -/
def firstPrecedence (e : ExprTree) (s : Surroundings) : Nat :=
  if (!s.nextBegins || s.next = Precedence.range) && e.scan s Precedence.jump 0 0 = .leaves
      && e.holds s then Precedence.operand
  else e.precedenceIn s

/-! ## Tokens -/

/-- The tokens, in parentheses if so said. -/
def enclosed (inside : Bool) (ts : Tokens) : Tokens :=
  if inside then [.group .parenthesis ts] else ts

/-- The operators between two operands that may begin an expression too. -/
def beginning : List String := ["-", "*", "&&", "||", "&", "|", "<<", "<", "..", "..="]

/-- The tokens of an operand in its surroundings; in parentheses nothing surrounds it. -/
def operandIn (inside : Bool) (s : Surroundings) (written : Surroundings → Tokens) : Tokens :=
  enclosed inside (written (if inside then .alone else s))

/-- The tokens of the expression, in parentheses if the surroundings would divide it. -/
def writtenBy (e : ExprTree) (bare : Surroundings → Tokens) (s : Surroundings) : Tokens :=
  operandIn (s.encloses e) s bare

/-- The tokens of what an operator and its operands are.  Attributes before them hold it apart. -/
def apart (attributes : Tokens) (s : Surroundings) (written : Surroundings → Tokens) : Tokens :=
  attributes ++ operandIn (!attributes.isEmpty) s written

/-- The tokens of an expression without operands at its ends. -/
def closedTokens (attributes : Tokens) (form : Form) (tokens : Tokens) : Tokens :=
  attributes ++ enclosed (form = .range && !attributes.isEmpty) tokens

/-- The tokens of an expression with an operand at its beginning only. -/
def suffixedTokens (attributes : Tokens) (form : Form) (base : ExprTree)
    (written : Surroundings → Tokens) (tail : Tokens) (s : Surroundings) : Tokens :=
  match form with
  | .call =>
    let s' := s.before Precedence.operand true false
    let loose := base.form ≠ .field && base.firstPrecedence s' < Precedence.operand
    attributes ++ operandIn loose s' written ++ tail
  | .index =>
    let s' := s.before Precedence.operand true false
    attributes ++ operandIn (base.firstPrecedence s' < Precedence.operand) s' written ++ tail
  | .cast => apart attributes s fun s =>
    let s' := s.before Precedence.cast false false
    operandIn (base.firstPrecedence s' < Precedence.cast) s' written ++ tail
  | .range => apart attributes s fun s =>
    let s' := s.before Precedence.range true false
    operandIn (base.firstPrecedence s' ≤ Precedence.range) s' written ++ tail
  | _ =>
    let s' := s.beforeDot
    attributes ++ operandIn (base.firstPrecedence s' < Precedence.operand) s' written ++ tail

/-- The tokens of an expression with an operand at its end only. -/
def prefixedTokens (attributes : Tokens) (form : Form) (head : Tokens) (right : ExprTree)
    (written : Surroundings → Tokens) (s : Surroundings) : Tokens :=
  match form with
  | .range => apart attributes s fun s =>
    let s' := s.after Precedence.range false true
    head ++ operandIn (right.lastPrecedence right.scan s' ≤ Precedence.range) s' written
  | .break_ =>
    attributes ++ head ++ operandIn (head.length = 1 && right.beginsWithLabel)
      (s.after Precedence.jump true true) written
  | .return_ | .yield_ => attributes ++ head ++ written (s.after Precedence.jump true false)
  | .closure _ => attributes ++ head ++ written (s.after Precedence.jump false false)
  | .let_ =>
    let s' := s.after Precedence.trial false false
    attributes ++ head ++
      operandIn (right.lastPrecedence right.scan s' < Precedence.trial) s' written
  | _ =>
    let s' := s.after Precedence.sign false false
    attributes ++ head ++
      operandIn (right.lastPrecedence right.scan s' < Precedence.sign) s' written

/-- Whether the first operand of an operator of precedence `own` needs parentheses. -/
def firstIsLoose (own : Nat) (left : ExprTree) (s : Surroundings) : Bool :=
  let precedence := left.firstPrecedence s
  if own = Precedence.assignment then precedence ≤ Precedence.range
  else if own = Precedence.comparison || own = Precedence.range then precedence ≤ own
  else precedence < own

/-- Whether the last operand of an operator of precedence `own` needs parentheses. -/
def lastIsLoose (own : Nat) (right : ExprTree) (s : Surroundings) : Bool :=
  own ≠ Precedence.assignment && right.lastPrecedence right.scan s ≤ own

/-- Whether the tokens are one of the operators. -/
def isOneOf (symbols : List String) (symbol : Tokens) : Bool :=
  symbols.any fun s => operator s.toList = symbol

/-- The tokens of an operator of precedence `own` between two operands. -/
def joinedTokens (attributes : Tokens) (own : Nat) (left : ExprTree)
    (leftWritten : Surroundings → Tokens) (symbol : Tokens) (right : ExprTree)
    (rightWritten : Surroundings → Tokens) (s : Surroundings) : Tokens :=
  apart attributes s fun s =>
    let before := s.before own (isOneOf beginning symbol) (isOneOf ["<<", "<"] symbol)
    let after := s.after own false (own = Precedence.range)
    operandIn (firstIsLoose own left before) before leftWritten ++ symbol ++
      operandIn (lastIsLoose own right after) after rightWritten

/-- The tokens of the expression in surroundings that leave its ends to it. -/
def bareTokensIn : ExprTree → Surroundings → Tokens
  | .closed attributes form tokens, _ => closedTokens attributes form tokens
  | .suffixed attributes form base tail, s =>
    suffixedTokens attributes form base (base.writtenBy base.bareTokensIn) tail s
  | .prefixed attributes form head right, s =>
    prefixedTokens attributes form head right (right.writtenBy right.bareTokensIn) s
  | .joined attributes form left symbol right, s =>
    joinedTokens attributes form.operatorPrecedence left
      (left.writtenBy left.bareTokensIn) symbol right (right.writtenBy right.bareTokensIn) s

/-- The tokens of the expression in the given surroundings. -/
def tokensIn (e : ExprTree) (s : Surroundings) : Tokens := e.writtenBy e.bareTokensIn s

/-- The tokens of an expression that nothing surrounds. -/
def tokens (e : ExprTree) : Tokens := e.tokensIn .alone

end ExprTree

end TraitBuilder.Syntax
