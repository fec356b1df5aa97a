import BranchCover.Source.Grammar.Simple

/-! Statements with blocks. -/
namespace BranchCover
namespace Source
namespace Grammar

open Parse

def noBlock : Parse Unit := do
  discard (kind .newline)
  notAhead (kind .indent)

def missingBlock (t : Token) (header : String) : Parse Unit := do
  noBlock
  complain (.expectedBlockAfter header t.line)

def missingColon : Parse Unit := do
  discard (kind .newline)
  complain (.expected "':'")

def statements (statement : Parse (List Stmt)) : Parse (List Stmt) := do
  return (← many1 statement).flatten

def block (r : Rules) (statement : Parse (List Stmt)) : Parse (List Stmt) :=
  memo .block <|
    (do
      discard (kind .newline)
      discard (kind .indent)
      let ss ← statements statement
      discard (kind .dedent)
      return ss) <|>
    simpleStmts r <|>
    diagnosis
      [do
        noBlock
        complain .expectedBlock]

def elseBlock (r : Rules) : Parse (List Stmt) :=
  diagnosis
    [do
      let t ← fixed "else"
      discard (fixed ":")
      missingBlock t "'else' statement"] <|>
  do
    discard (fixed "else")
    discard (forced ":")
    r .block

def optionalElse (r : Rules) : Parse (List Stmt) := do
  return (← optional (elseBlock r)).getD []

def testFaults (r : Rules) (word : String) : List (Parse Unit) :=
  [do
    discard (fixed word)
    discard (namedExpression r)
    missingColon,
   do
    let t ← fixed word
    discard (namedExpression r)
    discard (fixed ":")
    missingBlock t s!"'{word}' statement"]

def conditional (r : Rules) (word : String) : Parse Stmt :=
  diagnosis (testFaults r word) <|>
  (withSpan do
    discard (fixed word)
    let test ← namedExpression r
    discard (fixed ":")
    let body ← r .block
    let other ← r .elseIf
    return .ifStmt test body [other]) <|>
  (withSpan do
    discard (fixed word)
    let test ← namedExpression r
    discard (fixed ":")
    let body ← r .block
    return .ifStmt test body (← optionalElse r))

def whileStmt (r : Rules) : Parse Stmt :=
  diagnosis (testFaults r "while") <|>
  withSpan do
    discard (fixed "while")
    let test ← namedExpression r
    discard (fixed ":")
    let body ← r .block
    return .whileLoop test body (← optionalElse r)

def forFaults (r : Rules) : List (Parse Unit) :=
  [do
    let _ ← header
    missingColon,
   do
    let t ← header
    discard (fixed ":")
    missingBlock t "'for' statement"]
where
  header : Parse Token := do
    discard (optional (fixed "async"))
    let t ← fixed "for"
    discard (starTargets r)
    discard (fixed "in")
    discard (starExpressions r)
    return t

/-- A loop over items. Once its `in` is read it is a loop or nothing. -/
def forStmt (r : Rules) : Parse Stmt :=
  diagnosis (forFaults r) <|> do
    let start ← current
    let head ← optional do
      let isAsync := (← optional (fixed "async")).isSome
      discard (fixed "for")
      let target ← starTargets r
      discard (fixed "in")
      return (isAsync, target)
    match head with
    | some (isAsync, target) =>
      let iter ← starExpressions r
      discard (fixed ":")
      let body ← r .block
      let other ← optionalElse r
      return .forLoop target iter body other isAsync (← spanFrom start)
    | none => diagnosis (loopTargetFaults r)

def withItem (r : Rules) : Parse WithItem :=
  (do
    let e ← expression r
    discard (fixed "as")
    let t ← starTarget r
    discard (ahead (fixed "," <|> fixed ")" <|> fixed ":"))
    return ⟨e, some t⟩) <|>
  diagnosis
    [do
      discard (expression r)
      discard (fixed "as")
      let e ← expression r
      discard (ahead (fixed "," <|> fixed ")" <|> fixed ":"))
      blameTarget .assignment e] <|>
  do return ⟨← expression r, none⟩

/-- Headers of a with statement, loosely read: bare, and in parentheses. -/
def withHeaders (r : Rules) : List (Parse Token) :=
  [do
    discard (optional (fixed "async"))
    let t ← fixed "with"
    discard (sepBy "," (item (expression r)))
    return t,
   do
    discard (optional (fixed "async"))
    let t ← fixed "with"
    discard (fixed "(")
    discard (sepBy "," (item (expressions r)))
    discard (optional (fixed ","))
    discard (fixed ")")
    return t]
where
  item (e : Parse Expr) : Parse Unit := do
    discard e
    discard (optional do discard (fixed "as"); starTarget r)

def withStmt (r : Rules) : Parse Stmt :=
  diagnosis ((withHeaders r).map fun h => do
    let t ← h
    discard (fixed ":")
    missingBlock t "'with' statement") <|>
  (withSpan do
    let isAsync := (← optional (fixed "async")).isSome
    discard (fixed "with")
    discard (fixed "(")
    let items ← sepBy "," (withItem r)
    discard (optional (fixed ","))
    discard (fixed ")")
    discard (fixed ":")
    return .withStmt items (← r .block) isAsync) <|>
  (withSpan do
    let isAsync := (← optional (fixed "async")).isSome
    discard (fixed "with")
    let items ← sepBy "," (withItem r)
    discard (fixed ":")
    return .withStmt items (← r .block) isAsync) <|>
  diagnosis ((withHeaders r).map fun h => do
    discard h
    missingColon)

def handlerName : Parse (Option String) :=
  optional do
    discard (fixed "as")
    plainName

def handlerFaults (r : Rules) : List (Parse Unit) :=
  [do
    discard (fixed "except")
    discard (optional (fixed "*"))
    let e ← expression r
    discard (fixed ",")
    discard (expressions r)
    discard handlerName
    discard (fixed ":")
    complainAt e.span .unparenthesizedHandler,
   do
    discard (fixed "except")
    discard (optional (fixed "*"))
    discard (expression r)
    discard handlerName
    missingColon,
   do
    discard (fixed "except")
    missingColon,
   do
    discard (fixed "except")
    discard (fixed "*")
    discard (kind .newline) <|> discard (fixed ":")
    complain .noHandledType]

def handler (r : Rules) : Parse Handler :=
  diagnosis
    [do
      let t ← fixed "except"
      discard (expression r)
      discard handlerName
      discard (fixed ":")
      missingBlock t "'except' statement",
     do
      let t ← fixed "except"
      discard (fixed ":")
      missingBlock t "'except' statement"] <|>
  (withSpan do
    discard (fixed "except")
    let e ← expression r
    let n ← handlerName
    discard (fixed ":")
    return .mk (some e) n (← r .block)) <|>
  (withSpan do
    discard (fixed "except")
    discard (fixed ":")
    return .mk none none (← r .block)) <|>
  diagnosis (handlerFaults r)

def starHandler (r : Rules) : Parse Handler :=
  diagnosis
    [do
      let t ← fixed "except"
      discard (fixed "*")
      discard (expression r)
      discard handlerName
      discard (fixed ":")
      missingBlock t "'except*' statement"] <|>
  (withSpan do
    discard (fixed "except")
    discard (fixed "*")
    let e ← expression r
    let n ← handlerName
    discard (fixed ":")
    return .mk (some e) n (← r .block)) <|>
  diagnosis (handlerFaults r)

def finallyBlock (r : Rules) : Parse (List Stmt) :=
  diagnosis
    [do
      let t ← fixed "finally"
      discard (fixed ":")
      missingBlock t "'finally' statement"] <|>
  do
    discard (fixed "finally")
    discard (forced ":")
    r .block

def tryFaults (r : Rules) : List (Parse Unit) :=
  [do
    let t ← fixed "try"
    discard (fixed ":")
    missingBlock t "'try' statement",
   do
    discard (fixed "try")
    discard (fixed ":")
    discard (r .block)
    notAhead (fixed "except" <|> fixed "finally")
    complain .nothingHandled,
   do
    discard (fixed "try")
    discard (fixed ":")
    discard (many (r .block))
    discard (many1 (handler r))
    let t ← fixed "except"
    discard (fixed "*")
    discard (expression r)
    discard handlerName
    discard (fixed ":")
    complainAtToken t .mixedHandlers,
   do
    discard (fixed "try")
    discard (fixed ":")
    discard (many (r .block))
    discard (many1 (starHandler r))
    let t ← fixed "except"
    discard (optional do
      discard (expression r)
      handlerName)
    discard (fixed ":")
    complainAtToken t .mixedHandlers]

def tryStmt (r : Rules) : Parse Stmt :=
  diagnosis (tryFaults r) <|>
  (withSpan do
    discard (fixed "try")
    discard (forced ":")
    let body ← r .block
    return .tryStmt body [] [] (← finallyBlock r) false) <|>
  handled (handler r) false <|>
  handled (starHandler r) true
where
  handled (p : Parse Handler) (isStar : Bool) : Parse Stmt :=
    withSpan do
      discard (fixed "try")
      discard (forced ":")
      let body ← r .block
      let handlers ← many1 p
      let other ← optionalElse r
      let final ← optional (finallyBlock r)
      return .tryStmt body handlers other (final.getD []) isStar

def decorators (r : Rules) : Parse (List Expr) :=
  many do
    discard (fixed "@")
    let e ← namedExpression r
    discard (kind .newline)
    return e

def functionFaults (r : Rules) : List (Parse Unit) :=
  [do
    discard (optional (fixed "async"))
    let t ← fixed "def"
    discard (kind .name)
    discard (fixed "(")
    discard (optional (functionStyle.parametersOrFault r))
    discard (fixed ")")
    discard (optional do discard (fixed "->"); expression r)
    discard (fixed ":")
    missingBlock t "function definition"]

def functionDef (r : Rules) (ds : List Expr) : Parse Stmt :=
  diagnosis (functionFaults r) <|>
  withSpan do
    let isAsync := (← optional (fixed "async")).isSome
    discard (fixed "def")
    let n ← plainName
    discard (forced "(")
    let ps ← optional (functionStyle.parametersOrFault r)
    discard (fixed ")")
    let returns ← optional do
      discard (fixed "->")
      expression r
    discard (forced ":")
    let body ← r .block
    return .function n (ps.getD Parameters.none) body ds returns isAsync

def classHeader (r : Rules) : Parse (Token × String × Option Arguments) := do
  let t ← fixed "class"
  let n ← plainName
  let bases ← optional do
    discard (fixed "(")
    let a ← optional (arguments r)
    discard (fixed ")")
    return a
  return (t, n, bases.join)

def classDef (r : Rules) (ds : List Expr) : Parse Stmt :=
  diagnosis
    [do
      discard (classHeader r)
      missingColon,
     do
      let (t, _) ← classHeader r
      discard (fixed ":")
      missingBlock t "class definition"] <|>
  withSpan do
    let (_, n, a) ← classHeader r
    discard (fixed ":")
    let body ← r .block
    return .classDef n ((a.map (·.positional)).getD []) ((a.map (·.keywords)).getD []) body ds

/-- A definition behind its decorators, which do not belong to its span. -/
def decorated (r : Rules) (p : List Expr → Parse Stmt) : Parse Stmt := do
  p (← decorators r)

def subject (r : Rules) : Parse Expr :=
  (withSpan do
    let e ← starNamedExpression r
    discard (fixed ",")
    let es ← starNamedExpressions r <|> return []
    return .tuple (e :: es) .load) <|>
  namedExpression r

def guard (r : Rules) : Parse (Option Expr) :=
  optional do
    discard (fixed "if")
    namedExpression r

def matchCase (r : Rules) : Parse MatchCase :=
  diagnosis
    [do
      discard (soft "case")
      discard (casePattern r)
      discard (guard r)
      missingColon,
     do
      let t ← soft "case"
      discard (casePattern r)
      discard (guard r)
      discard (fixed ":")
      missingBlock t "'case' statement"] <|>
  do
    discard (soft "case")
    let p ← casePattern r
    let g ← guard r
    discard (fixed ":")
    return .mk p g (← r .block)

def matchStmt (r : Rules) : Parse Stmt :=
  (withSpan do
    discard (soft "match")
    let e ← subject r
    discard (fixed ":")
    discard (kind .newline)
    discard (kind .indent)
    let cs ← many1 (matchCase r)
    discard (kind .dedent)
    return .matchStmt e cs) <|>
  diagnosis
    [do
      discard (soft "match")
      discard (subject r)
      missingColon,
     do
      let t ← soft "match"
      discard (subject r)
      discard (fixed ":")
      missingBlock t "'match' statement"]

/-- Statements with blocks, chosen by their first token. -/
def compoundStmt (r : Rules) : Parse Stmt := do
  let t ← current
  if t.isFixed "def" then decorated r (functionDef r)
  else if t.isFixed "@" then decorated r (functionDef r) <|> decorated r (classDef r)
  else if t.isFixed "async" then decorated r (functionDef r) <|> withStmt r <|> forStmt r
  else if t.isFixed "if" then conditional r "if"
  else if t.isFixed "class" then decorated r (classDef r)
  else if t.isFixed "with" then withStmt r
  else if t.isFixed "for" then forStmt r
  else if t.isFixed "try" then tryStmt r
  else if t.isFixed "while" then whileStmt r
  else matchStmt r

def statement (r : Rules) : Parse (List Stmt) :=
  (do return [← compoundStmt r]) <|> simpleStmts r

def module (r : Rules) : Parse (List Stmt) := do
  let ss ← optional (statements (statement r))
  discard (kind .finish)
  return ss.getD []

def loneExpression (r : Rules) : Parse Expr := do
  let e ← expressions r
  discard (many (kind .newline))
  discard (kind .finish)
  return e

end Grammar
end Source
end BranchCover
