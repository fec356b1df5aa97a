import BranchCover.Source.Grammar.Item

/-! Arguments of calls, and the loops of comprehensions. -/
namespace BranchCover
namespace Source
namespace Grammar

open Parse

/-- Explains a star with nothing to unpack behind it. -/
def starFaults : List (Parse Unit) :=
  [do
    discard (fixed "*")
    complain .invalidStar]

def starredExpression (r : Rules) : Parse Expr :=
  (withSpan do
    discard (fixed "*")
    return .starred (← r .expression) .load) <|>
  diagnosis starFaults

def assignmentExpression (r : Rules) : Parse Expr :=
  withSpan do
    let n ← name
    discard (fixed ":=")
    return .named n (← r .expression)

/-- A value that is not the start of an assignment. -/
def plainExpression (r : Rules) : Parse Expr :=
  assignmentExpression r <|> do
    let e ← r .expression
    notAhead (fixed ":=")
    return e

def loopTargetFaults (r : Rules) : List (Parse Unit) :=
  [do
    discard (optional (fixed "async"))
    discard (fixed "for")
    blameTarget .loop (← r .starExpressions)]

/-- One loop of a comprehension. Once its `in` is read it is a loop or nothing. -/
def loop (r : Rules) : Parse Comprehension := do
  let head ← optional do
    let isAsync := (← optional (fixed "async")).isSome
    discard (fixed "for")
    let target ← r .starTargets
    discard (fixed "in")
    return (isAsync, target)
  match head with
  | some (isAsync, target) =>
    let iter ← r .disjunction
    let tests ← many (do discard (fixed "if"); r .disjunction)
    return .mk target iter tests isAsync
  | none => diagnosis (loopTargetFaults r)

def loops (r : Rules) : Parse (List Comprehension) :=
  many1 (loop r)

/-- An item of an argument list after the first argument by name. -/
inductive LateArgument where
  | value (e : Expr)
  | keyword (k : Keyword)

def positionalArgument (r : Rules) : Parse Expr :=
  starredExpression r <|> do
    let e ← plainExpression r
    notAhead (fixed "=")
    return e

def keywordFaults (r : Rules) : List (Parse Unit) :=
  [do
    let t ← fixed "True" <|> fixed "False" <|> fixed "None"
    discard (fixed "=")
    complainAtToken t (.keywordIsConstant t.text),
   do
    let t ← kind .name
    discard (fixed "=")
    discard (r .expression)
    discard (loops r)
    complainAtToken t .equalsInExpression,
   do
    notAhead (do discard (kind .name); fixed "=")
    let e ← r .expression
    discard (fixed "=")
    complainAt e.span .keywordIsExpression]

def keywordArgument (r : Rules) : Parse LateArgument :=
  diagnosis (keywordFaults r) <|> do
    let n ← plainName
    discard (fixed "=")
    return .keyword (.mk (some n) (← r .expression))

def keywordOrStarred (r : Rules) : Parse LateArgument :=
  keywordArgument r <|> do return .value (← starredExpression r)

def keywordOrMapping (r : Rules) : Parse LateArgument :=
  keywordArgument r <|> do
    discard (fixed "**")
    return .keyword (.mk none (← r .expression))

def lateArguments (r : Rules) : Parse (List LateArgument) :=
  (do
    let xs ← sepBy "," (keywordOrStarred r)
    let ys ← (do discard (fixed ","); sepBy "," (keywordOrMapping r)) <|> return []
    return xs ++ ys) <|>
  sepBy "," (keywordOrMapping r)

def lateValues : List LateArgument → List Expr
  | [] => []
  | .value e :: xs => e :: lateValues xs
  | .keyword _ :: xs => lateValues xs

def lateKeywords : List LateArgument → List Keyword
  | [] => []
  | .value _ :: xs => lateKeywords xs
  | .keyword k :: xs => k :: lateKeywords xs

def argumentList (r : Rules) : Parse Arguments :=
  withSpan <|
    (do
      let xs ← sepBy "," (positionalArgument r)
      let late ← (do discard (fixed ","); lateArguments r) <|> return []
      return Arguments.mk (xs ++ lateValues late) (lateKeywords late)) <|>
    (do
      let late ← lateArguments r
      return Arguments.mk (lateValues late) (lateKeywords late))

def argumentFaults (r : Rules) : List (Parse Unit) :=
  [do
    discard <|
      (do
        discard (sepBy "," (positionalArgument r))
        discard (fixed ",")
        lateArguments r) <|>
      lateArguments r
    let comma ← fixed ","
    discard (sepBy "," (do let e ← starredExpression r; notAhead (fixed "="); return e))
    complainAtToken comma .unpackingAfterUnpacking,
   do
    let e ← r .expression
    discard (loops r)
    discard (fixed ",")
    discard (optional ((do discard (argumentList r)) <|>
      (do discard (r .expression); discard (loops r))))
    complainAt e.span .bareGenerator,
   do
    let t ← kind .name
    discard (fixed "=")
    discard (r .expression)
    discard (loops r)
    complainAtToken t .equalsInExpression,
   do
    let a ← argumentList r
    discard (loops r)
    match a.positional.reverse with
    | last :: _ :: _ => complainAt last.span .bareGenerator
    | _ => return (),
   do
    discard (argumentList r)
    discard (fixed ",")
    let e ← r .expression
    discard (loops r)
    complainAt e.span .bareGenerator,
   do
    let a ← argumentList r
    discard (fixed ",")
    discard (argumentList r)
    complain (if a.keywords.any (·.name.isNone) then .positionalAfterUnpacking
      else .positionalAfterKeyword)]

def arguments (r : Rules) : Parse Arguments :=
  memo .arguments <|
    (do
      let a ← argumentList r
      discard (optional (fixed ","))
      discard (ahead (fixed ")"))
      return a) <|>
    diagnosis (argumentFaults r)

end Grammar
end Source
end BranchCover
