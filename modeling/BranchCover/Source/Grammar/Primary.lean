import BranchCover.Source.Grammar.Display

/-! Atoms, attributes, calls and subscripts, and the targets of assignments, loops and deletions. -/
namespace BranchCover
namespace Source
namespace Grammar

open Parse

def slice (r : Rules) : Parse Expr :=
  (withSpan do
    let lower ← optional (r .expression)
    discard (fixed ":")
    let upper ← optional (r .expression)
    let step ← (do discard (fixed ":"); optional (r .expression)) <|> return none
    return .slice lower upper step) <|>
  r .namedExpression

def slices (r : Rules) : Parse Expr :=
  (do
    let e ← slice r
    notAhead (fixed ",")
    return e) <|>
  (withSpan do
    let es ← sepBy "," (slice r <|> starredExpression r)
    discard (optional (fixed ","))
    return .tuple es .load)

def atom (r : Rules) : Parse Expr := do
  let t ← current
  match t.kind with
  | .name => name
  | .number => number
  | .string => r .strings
  | _ =>
    if t.isFixed "(" then tuple r <|> group r <|> generator r
    else if t.isFixed "[" then list r <|> listComprehension r
    else if t.isFixed "\x7b" then
      dict r <|> set r <|> dictComprehension r <|> setComprehension r
    else if t.isFixed "..." then do
      advance
      return .constant .ellipsis t.span
    else keywordConstant

/-- A value with the start of its first token; later parts extend the span. -/
def memberOf (start : Token) (e : Expr) : Parse Expr := do
  discard (fixed ".")
  let n ← plainName
  return .member e n (← spanFrom start)

def subscriptOf (r : Rules) (access : Access) (start : Token) (e : Expr) : Parse Expr := do
  discard (fixed "[")
  let i ← slices r
  discard (fixed "]")
  return .subscript e i access (← spanFrom start)

/-- A call whose only argument is a comprehension. -/
def generatorCallOf (r : Rules) (start : Token) (e : Expr) : Parse Expr := do
  let g ← generator r
  return .call e [g] [] (← spanFrom start)

def callOf (r : Rules) (start : Token) (e : Expr) : Parse Expr := do
  discard (fixed "(")
  let a ← optional (arguments r)
  discard (fixed ")")
  let (args, keywords) := match a with
    | some a => (a.positional, a.keywords)
    | none => ([], [])
  return .call e args keywords (← spanFrom start)

def primary (r : Rules) : Parse Expr :=
  memo .primary do
    let start ← current
    chain (atom r) fun e => do
      let t ← current
      if t.isFixed "." then memberOf start e
      else if t.isFixed "(" then generatorCallOf r start e <|> callOf r start e
      else if t.isFixed "[" then subscriptOf r .load start e
      else miss

def continues : Parse Token :=
  ahead (fixed "(" <|> fixed "[" <|> fixed ".")

def ends : Parse Unit :=
  notAhead (fixed "(" <|> fixed "[" <|> fixed ".")

/-- A value that a further attribute, subscript or call follows. -/
def targetPrimary (r : Rules) : Parse Expr :=
  memo .targetPrimary do
    let start ← current
    let continued (p : Parse Expr) : Parse Expr := do
      let e ← p
      discard continues
      return e
    chain (continued (atom r)) fun e => firstOf
      [continued (memberOf start e),
       continued (subscriptOf r .load start e),
       continued (generatorCallOf r start e),
       continued (callOf r start e)]

def partTarget (r : Rules) (access : Access) : Parse Expr := do
  let start ← current
  (do
    let e ← memberOf start (← targetPrimary r)
    ends
    return e) <|>
  (do
    let e ← subscriptOf r access start (← targetPrimary r)
    ends
    return e)

def starAtom (r : Rules) : Parse Expr :=
  name <|>
  (do
    discard (fixed "(")
    let e ← r .targetAtom
    discard (fixed ")")
    return e.withAccess .store) <|>
  (withSpan do
    discard (fixed "(")
    let es ← (do
      let e ← r .starTarget
      let es ← many (do discard (fixed ","); r .starTarget)
      let comma ← optional (fixed ",")
      if es.isEmpty && comma.isNone then miss else return e :: es) <|> return []
    discard (fixed ")")
    return .tuple es .store) <|>
  (withSpan do
    discard (fixed "[")
    let es ← (do
      let es ← sepBy "," (r .starTarget)
      discard (optional (fixed ","))
      return es) <|> return []
    discard (fixed "]")
    return .list es .store)

def targetAtom (r : Rules) : Parse Expr :=
  memo .targetAtom (partTarget r .store <|> starAtom r)

def starTarget (r : Rules) : Parse Expr :=
  memo .starTarget <|
    (withSpan do
      discard (fixed "*")
      notAhead (fixed "*")
      let e ← r .starTarget
      return .starred (e.withAccess .store) .store) <|>
    targetAtom r

def starTargets (r : Rules) : Parse Expr :=
  (do
    let e ← starTarget r
    notAhead (fixed ",")
    return e) <|>
  (withSpan do
    let es ← sepBy "," (starTarget r)
    discard (optional (fixed ","))
    return .tuple es .store)

def singleTarget (r : Rules) : Parse Expr :=
  partTarget r .store <|> name <|> do
    discard (fixed "(")
    let e ← r .singleTarget
    discard (fixed ")")
    return e

def delTarget (r : Rules) : Parse Expr :=
  memo .delTarget <|
    partTarget r .del <|>
    name <|>
    (do
      discard (fixed "(")
      let e ← r .delTarget
      discard (fixed ")")
      return e.withAccess .del) <|>
    (withSpan do
      discard (fixed "(")
      let es ← targets <|> return []
      discard (fixed ")")
      return .tuple es .del) <|>
    (withSpan do
      discard (fixed "[")
      let es ← targets <|> return []
      discard (fixed "]")
      return .list es .del)
where
  targets : Parse (List Expr) := do
    let es ← sepBy "," (r .delTarget)
    discard (optional (fixed ","))
    return es

end Grammar
end Source
end BranchCover
