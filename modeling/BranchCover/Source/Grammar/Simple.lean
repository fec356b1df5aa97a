import BranchCover.Source.Grammar.PatternRule

/-! Statements of one line. -/
namespace BranchCover
namespace Source
namespace Grammar

open Parse

def yieldOrExpressions (r : Rules) : Parse Expr :=
  yieldExpression r <|> starExpressions r

def annotatedValue (r : Rules) : Parse (Option Expr) :=
  optional do
    discard (fixed "=")
    yieldOrExpressions r

def augmentingOps : List BinaryOp :=
  [.add, .sub, .mult, .matMult, .div, .mod, .bitAnd, .bitOr, .bitXor, .leftShift, .rightShift,
   .pow, .floorDiv]

def augmenting : Parse BinaryOp := do
  let t ← current
  match augmentingOps.find? fun o => t.isFixed (o.text ++ "=") with
  | some op =>
    advance
    return op
  | none => miss

/-- A display that looks like the target of an annotation. -/
def annotatedDisplay (r : Rules) : Parse Expr :=
  list r <|> tuple r <|> do
    discard (fixed "(")
    let e ← r .annotatedTarget
    discard (fixed ")")
    return e

def assignmentFaults (r : Rules) : List (Parse Unit) :=
  [do
    let e ← annotatedDisplay r
    discard (fixed ":")
    discard (expression r)
    complainAt e.span (.annotatedTarget e.word),
   do
    let e ← starNamedExpression r
    discard (fixed ",")
    discard (many (starNamedExpressions r))
    discard (fixed ":")
    discard (expression r)
    complainAt e.span (.annotatedTarget "tuple"),
   do
    let e ← expression r
    discard (fixed ":")
    discard (expression r)
    complainAt e.span .badTyping,
   do
    discard (many (do discard (starTargets r); fixed "="))
    let e ← starExpressions r
    discard (fixed "=")
    blameTarget .assignment e,
   do
    discard (many (do discard (starTargets r); fixed "="))
    let e ← yieldExpression r
    discard (fixed "=")
    complainAt e.span .assignsYield,
   do
    let e ← starExpressions r
    discard augmenting
    discard (yieldOrExpressions r)
    complainAt e.span (.augments e.word)]

def typing (r : Rules) (target : Parse Expr) : Parse Stmt :=
  withSpan do
    let e ← target
    discard (fixed ":")
    let a ← expression r
    return .annotate e a (← annotatedValue r)

def parenthesized (p : Parse Expr) : Parse Expr := do
  discard (fixed "(")
  let e ← p
  discard (fixed ")")
  return e

/-- Assignments. Once an augmenting operator is read it is one or nothing. -/
def assignment (r : Rules) : Parse Stmt :=
  typing r name <|>
  typing r (parenthesized (singleTarget r) <|> partTarget r .store) <|>
  (withSpan do
    let targets ← many1 do
      let t ← starTargets r
      discard (fixed "=")
      return t
    let e ← yieldOrExpressions r
    notAhead (fixed "=")
    return .assign targets e) <|>
  (do
    let start ← current
    let head ← optional do
      let t ← singleTarget r
      return (t, ← augmenting)
    match head with
    | some (t, op) =>
      let e ← yieldOrExpressions r
      return .augment t op e (← spanFrom start)
    | none => diagnosis (assignmentFaults r))

def returnStmt (r : Rules) : Parse Stmt :=
  withSpan do
    discard (fixed "return")
    return .returnStmt (← optional (starExpressions r))

def raiseStmt (r : Rules) : Parse Stmt :=
  withSpan do
    discard (fixed "raise")
    (do
      let e ← expression r
      return .raise (some e) (← optional do discard (fixed "from"); expression r)) <|>
    return .raise none none

def names : Parse (List String) :=
  sepBy "," plainName

def delStmt (r : Rules) : Parse Stmt :=
  (withSpan do
    discard (fixed "del")
    let es ← sepBy "," (delTarget r)
    discard (optional (fixed ","))
    discard (ahead (fixed ";" <|> kind .newline))
    return .delete es) <|>
  diagnosis
    [do
      discard (fixed "del")
      blameTarget .deletion (← starExpressions r)]

def assertStmt (r : Rules) : Parse Stmt :=
  withSpan do
    discard (fixed "assert")
    let e ← expression r
    return .assert e (← optional do discard (fixed ","); expression r)

def dottedName : Parse String := do
  return ".".intercalate (← sepBy "." plainName)

def asName (path : Parse String) : Parse Alias :=
  withSpan do
    let n ← path
    return Alias.mk n (← optional do discard (fixed "as"); plainName)

def importName : Parse Stmt :=
  withSpan do
    discard (fixed "import")
    return .importStmt (← sepBy "," (asName dottedName))

/-- The dots before the path of an import: how many levels up. -/
def importDots : Parse (List Nat) :=
  many ((do discard (fixed "..."); return 3) <|> (do discard (fixed "."); return 1))

def importedNames : Parse (List Alias) :=
  (do
    discard (fixed "(")
    let ns ← sepBy "," (asName plainName)
    discard (optional (fixed ","))
    discard (fixed ")")
    return ns) <|>
  (do
    let ns ← sepBy "," (asName plainName)
    notAhead (fixed ",")
    return ns) <|>
  (do
    let t ← fixed "*"
    return [⟨"*", none, t.span⟩]) <|>
  diagnosis
    [do
      discard (sepBy "," (asName plainName))
      discard (fixed ",")
      discard (kind .newline)
      complain .trailingImportComma]

def importFrom : Parse Stmt :=
  (withSpan do
    discard (fixed "from")
    let dots ← importDots
    let path ← dottedName
    discard (fixed "import")
    return .importFrom (some path) (← importedNames) (dots.foldl (· + ·) 0)) <|>
  (withSpan do
    discard (fixed "from")
    let dots ← importDots
    if dots.isEmpty then miss
    else
      discard (fixed "import")
      return .importFrom none (← importedNames) (dots.foldl (· + ·) 0))

def simpleStmt (r : Rules) : Parse Stmt :=
  memo .simpleStmt <| firstOf
    [assignment r,
     withSpan do return .expr (← starExpressions r),
     returnStmt r,
     importName,
     importFrom,
     raiseStmt r,
     withSpan do discard (fixed "pass"); return .pass,
     delStmt r,
     withSpan do return .expr (← yieldExpression r),
     assertStmt r,
     withSpan do discard (fixed "break"); return .breakStmt,
     withSpan do discard (fixed "continue"); return .continueStmt,
     withSpan do discard (fixed "global"); return .global (← names),
     withSpan do discard (fixed "nonlocal"); return .nonlocal (← names)]

def simpleStmts (r : Rules) : Parse (List Stmt) := do
  let ss ← sepBy ";" (simpleStmt r)
  discard (optional (fixed ";"))
  discard (kind .newline)
  return ss

end Grammar
end Source
end BranchCover
