import BranchCover.Source.Grammar.Parameter

/-! Operators by precedence, conditional expressions, and expression lists. -/
namespace BranchCover
namespace Source
namespace Grammar

open Parse

def awaitPrimary (r : Rules) : Parse Expr :=
  (withSpan do
    discard (fixed "await")
    return .await (← primary r)) <|>
  primary r

/-- A power binds tighter than a sign on its left and weaker than one on its right. -/
def power (r : Rules) : Parse Expr := do
  let start ← current
  let e ← awaitPrimary r
  (do
    discard (fixed "**")
    let x ← r .factor
    return .binary e .pow x (← spanFrom start)) <|> return e

def factor (r : Rules) : Parse Expr := do
  let t ← current
  let op : Option UnaryOp :=
    if t.isFixed "+" then some .plus
    else if t.isFixed "-" then some .minus
    else if t.isFixed "~" then some .invert
    else none
  match op with
  | some op => withSpan do
    advance
    return .unary op (← r .factor)
  | none => power r

/-- Operators of one precedence, grouped to the left. -/
def leftGrouped (ops : List BinaryOp) (operand : Parse Expr) : Parse Expr := do
  let start ← current
  chain operand fun e => do
    let t ← current
    match ops.find? fun o => t.isFixed o.text with
    | some op =>
      advance
      let x ← operand
      return .binary e op x (← spanFrom start)
    | none => miss

def term (r : Rules) : Parse Expr :=
  leftGrouped [.mult, .div, .floorDiv, .mod, .matMult] (factor r)

def sum (r : Rules) : Parse Expr :=
  leftGrouped [.add, .sub] (term r)

def shift (r : Rules) : Parse Expr :=
  leftGrouped [.leftShift, .rightShift] (sum r)

def bitwiseAnd (r : Rules) : Parse Expr :=
  leftGrouped [.bitAnd] (shift r)

def bitwiseXor (r : Rules) : Parse Expr :=
  leftGrouped [.bitXor] (bitwiseAnd r)

def bitwiseOr (r : Rules) : Parse Expr :=
  memo .bitwiseOr (leftGrouped [.bitOr] (bitwiseXor r))

def comparisonPart (r : Rules) : Parse (Relation × Expr) := do
  let t ← current
  let one : Option Relation :=
    [Relation.eq, .notEq, .lt, .ltE, .gt, .gtE, .isIn].find? fun o => t.isFixed o.text
  match one with
  | some o => do
    advance
    return (o, ← bitwiseOr r)
  | none =>
    if t.isFixed "not" then do
      advance
      discard (fixed "in")
      return (.notIn, ← bitwiseOr r)
    else if t.isFixed "is" then
      (do
        advance
        discard (fixed "not")
        return (.isNot, ← bitwiseOr r)) <|>
      (do
        advance
        return (.is, ← bitwiseOr r))
    else miss

def comparison (r : Rules) : Parse Expr := do
  let start ← current
  let e ← bitwiseOr r
  let parts ← many (comparisonPart r)
  if parts.isEmpty then return e
  else return .compare e (parts.map (·.1)) (parts.map (·.2)) (← spanFrom start)

def inversion (r : Rules) : Parse Expr :=
  (withSpan do
    discard (fixed "not")
    return .unary .not (← r .inversion)) <|>
  comparison r

/-- Operands joined by a word; a single operand stands for itself. -/
def joined (word : String) (op : BoolOp) (operand : Parse Expr) : Parse Expr := do
  let start ← current
  let e ← operand
  let es ← many (do discard (fixed word); operand)
  if es.isEmpty then return e
  else return .boolOp op (e :: es) (← spanFrom start)

def conjunction (r : Rules) : Parse Expr :=
  joined "and" .and (inversion r)

def disjunction (r : Rules) : Parse Expr :=
  memo .disjunction (joined "or" .or (conjunction r))

def choice (r : Rules) : Parse Expr := do
  let start ← current
  let e ← disjunction r
  (do
    discard (fixed "if")
    let test ← disjunction r
    discard (fixed "else")
    let other ← r .expression
    return .conditional test e other (← spanFrom start)) <|> return e

def softKeyword : Parse Token :=
  soft "_" <|> soft "case" <|> soft "match"

/-- Whether an expression is a name that once was a statement. -/
def isPrinting : Expr → Bool
  | .name n _ => n == "print" || n == "exec"
  | _ => false

def depthBehind : Parse Nat :=
  fun e s => (.done (e.tokens.getD (s.pos - 1) default).depth, s)

def neighbourFaults (r : Rules) : List (Parse Unit) :=
  [do
    notAhead ((do discard (kind .name); kind .string) <|> softKeyword)
    let e ← disjunction r
    discard (plainly (choice r <|> lambda r))
    if isPrinting e || (← depthBehind) == 0 then return ()
    else complainAt e.span .forgottenComma,
   do
    let e ← disjunction r
    discard (fixed "if")
    discard (disjunction r)
    notAhead (fixed "else" <|> fixed ":")
    complainAt e.span .missingElse]

def printFaults (r : Rules) : List (Parse Unit) :=
  [do
    let (n, t) ← nameToken
    notAhead (fixed "(")
    discard (r .starExpressions)
    if n == "print" || n == "exec" then complainAtToken t (.printStatement n) else return ()]

def expression (r : Rules) : Parse Expr :=
  memo .expression <|
    diagnosis (neighbourFaults r) <|>
    diagnosis (printFaults r) <|>
    choice r <|>
    lambda r

def starExpression (r : Rules) : Parse Expr :=
  memo .starExpression <|
    (withSpan do
      discard (fixed "*")
      return .starred (← bitwiseOr r) .load) <|>
    expression r

/-- One item, or several with commas between them as a tuple. -/
def orTuple (item : Parse Expr) : Parse Expr := do
  let start ← current
  let e ← item
  let es ← many (do discard (fixed ","); item)
  let comma ← optional (fixed ",")
  if es.isEmpty && comma.isNone then return e
  else return .tuple (e :: es) .load (← spanFrom start)

def starExpressions (r : Rules) : Parse Expr :=
  orTuple (starExpression r)

def expressions (r : Rules) : Parse Expr :=
  orTuple (expression r)

end Grammar
end Source
end BranchCover
