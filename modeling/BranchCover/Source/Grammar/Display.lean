import BranchCover.Source.Grammar.Call

/-! Lists, tuples, sets, dictionaries and comprehensions, groups in parentheses, and named
expressions. -/
namespace BranchCover
namespace Source
namespace Grammar

open Parse

def starNamedExpression (r : Rules) : Parse Expr :=
  (withSpan do
    discard (fixed "*")
    return .starred (← r .bitwiseOr) .load) <|>
  r .namedExpression

def starNamedExpressions (r : Rules) : Parse (List Expr) := do
  let es ← sepBy "," (starNamedExpression r)
  discard (optional (fixed ","))
  return es

def opening (brackets : List String) : Parse Token :=
  tokenIf fun t => brackets.any t.isFixed

def comprehensionFaults (r : Rules) : List (Parse Unit) :=
  [do
    discard (opening ["[", "(", "\x7b"])
    let e ← starredExpression r
    discard (loops r)
    complainAt e.span .unpackedComprehension,
   do
    discard (opening ["[", "\x7b"])
    let e ← starNamedExpression r
    discard (fixed ",")
    discard (starNamedExpressions r)
    discard (loops r)
    complainAt e.span .comprehensionTarget,
   do
    discard (opening ["[", "\x7b"])
    let e ← starNamedExpression r
    discard (fixed ",")
    discard (loops r)
    complainAt e.span .comprehensionTarget]

def list (r : Rules) : Parse Expr :=
  withSpan do
    discard (fixed "[")
    let es ← starNamedExpressions r <|> return []
    discard (fixed "]")
    return .list es .load

def tuple (r : Rules) : Parse Expr :=
  withSpan do
    discard (fixed "(")
    let es ← (do
      let e ← starNamedExpression r
      discard (fixed ",")
      let es ← starNamedExpressions r <|> return []
      return e :: es) <|> return []
    discard (fixed ")")
    return .tuple es .load

def generator (r : Rules) : Parse Expr :=
  (withSpan do
    discard (fixed "(")
    let e ← plainExpression r
    let ls ← loops r
    discard (fixed ")")
    return .generator e ls) <|>
  diagnosis (comprehensionFaults r)

def listComprehension (r : Rules) : Parse Expr :=
  (withSpan do
    discard (fixed "[")
    let e ← r .namedExpression
    let ls ← loops r
    discard (fixed "]")
    return .listComp e ls) <|>
  diagnosis (comprehensionFaults r)

def set (r : Rules) : Parse Expr :=
  withSpan do
    discard (fixed "\x7b")
    let es ← starNamedExpressions r
    discard (fixed "\x7d")
    return .set es

def setComprehension (r : Rules) : Parse Expr :=
  (withSpan do
    discard (fixed "\x7b")
    let e ← r .namedExpression
    let ls ← loops r
    discard (fixed "\x7d")
    return .setComp e ls) <|>
  diagnosis (comprehensionFaults r)

def pair (r : Rules) : Parse (Expr × Expr) := do
  let key ← r .expression
  discard (fixed ":")
  return (key, ← r .expression)

def dictItem (r : Rules) : Parse DictItem :=
  (do
    discard (fixed "**")
    return .spread (← r .bitwiseOr)) <|>
  (do
    let (key, value) ← pair r
    return .pair key value)

def dictValueFaults (r : Rules) : List (Parse Unit) :=
  [do
    discard (r .expression)
    discard (fixed ":")
    let t ← fixed "*"
    discard (r .bitwiseOr)
    complainAtToken t .starredDictValue,
   do
    discard (r .expression)
    let t ← fixed ":"
    discard (ahead (fixed "\x7d" <|> fixed ","))
    complainAtToken t .missingDictValue]

/-- Explains a display that starts as a dictionary; this takes part in every run. -/
def dictFaults (r : Rules) : Parse Unit :=
  firstOf <|
    (do
      discard (sepBy "," (dictItem r))
      discard (fixed ",")
      firstOf <|
        (do
          let e ← r .expression
          notAhead (fixed ":")
          complainFrom e.span.line e.span.endCol .missingDictColon) ::
        dictValueFaults r
      miss) ::
    dictValueFaults r

def dict (r : Rules) : Parse Expr :=
  (withSpan do
    discard (fixed "\x7b")
    let items ← (do
      let items ← sepBy "," (dictItem r)
      discard (optional (fixed ","))
      return items) <|> return []
    discard (fixed "\x7d")
    return .dict items) <|>
  (do
    discard (fixed "\x7b")
    dictFaults r
    miss)

def dictComprehension (r : Rules) : Parse Expr :=
  (withSpan do
    discard (fixed "\x7b")
    let (key, value) ← pair r
    let ls ← loops r
    discard (fixed "\x7d")
    return .dictComp key value ls) <|>
  diagnosis
    [do
      discard (fixed "\x7b")
      let t ← fixed "**"
      discard (r .bitwiseOr)
      discard (loops r)
      discard (fixed "\x7d")
      complainAtToken t .spreadComprehension]

def yieldExpression (r : Rules) : Parse Expr :=
  (withSpan do
    discard (fixed "yield")
    discard (fixed "from")
    return .yieldFrom (← r .expression)) <|>
  (withSpan do
    discard (fixed "yield")
    return .yield (← optional (r .starExpressions)))

/-- An expression in parentheses keeps its own place. -/
def group (r : Rules) : Parse Expr :=
  (do
    discard (fixed "(")
    let e ← yieldExpression r <|> r .namedExpression
    discard (fixed ")")
    return e) <|>
  diagnosis
    [do
      discard (fixed "(")
      let e ← starredExpression r
      discard (fixed ")")
      complainAt e.span .starredGroup,
     do
      discard (fixed "(")
      let t ← fixed "**"
      discard (r .expression)
      discard (fixed ")")
      complainAtToken t .doubleStarredGroup]

def namedExpressionFaults (r : Rules) : List (Parse Unit) :=
  [do
    let e ← r .expression
    discard (fixed ":=")
    discard (r .expression)
    complainAt e.span (.namedTarget e.word),
   do
    let t ← kind .name
    discard (fixed "=")
    discard (r .bitwiseOr)
    notAhead (fixed "=" <|> fixed ":=")
    complainAtToken t .equalsInExpression,
   do
    notAhead (firstOf [list r, tuple r, generator r, keywordConstant])
    let e ← r .bitwiseOr
    discard (fixed "=")
    discard (r .bitwiseOr)
    notAhead (fixed "=" <|> fixed ":=")
    complainAt e.span (.assignsHere e.word)]

def namedExpression (r : Rules) : Parse Expr :=
  assignmentExpression r <|>
  diagnosis [memo .misplacedEquals (diagnosis (namedExpressionFaults r))] <|>
  do
    let e ← r .expression
    notAhead (fixed ":=")
    return e

end Grammar
end Source
end BranchCover
