import BranchCover.Source.Grammar.Expression

/-! Patterns of match statements. -/
namespace BranchCover
namespace Source
namespace Grammar

open Parse

def isImaginary : Expr → Bool
  | .constant (.imaginary _) _ => true
  | _ => false

def signed (p : Parse Expr) : Parse Expr :=
  p <|> withSpan do
    discard (fixed "-")
    return .unary .minus (← p)

def realNumber : Parse Expr := do
  let e ← number
  if isImaginary e then complainAt e.span .realNumberRequired else return e

def imaginaryNumber : Parse Expr := do
  let e ← number
  if isImaginary e then return e else complainAt e.span .imaginaryNumberRequired

def complexNumber : Parse Expr :=
  withSpan do
    let a ← signed realNumber
    let op ← (do discard (fixed "+"); return BinaryOp.add) <|>
      (do discard (fixed "-"); return BinaryOp.sub)
    return .binary a op (← imaginaryNumber)

/-- A number in a pattern: real with a sign, or a sum with an imaginary part. -/
def patternNumber : Parse Expr :=
  (do
    let e ← signed number
    notAhead (fixed "+" <|> fixed "-")
    return e) <|>
  complexNumber

def literalPattern (r : Rules) : Parse Pattern :=
  (withSpan do return .value (← patternNumber)) <|>
  (withSpan do return .value (← r .strings)) <|>
  (do
    let e ← keywordConstant
    match e with
    | .constant c s => return .singleton c s
    | _ => miss)

def literalExpression (r : Rules) : Parse Expr :=
  patternNumber <|> r .strings <|> keywordConstant

def boundName : Parse String := do
  notAhead (soft "_")
  let n ← plainName
  notAhead (fixed "." <|> fixed "(" <|> fixed "=")
  return n

def nameOrAttribute : Parse Expr := do
  let start ← current
  chain name (memberOf start)

def attributePath : Parse Expr := do
  let e ← nameOrAttribute
  match e with
  | .member .. => return e
  | _ => miss

def valuePattern : Parse Pattern :=
  withSpan do
    let e ← attributePath
    notAhead (fixed "." <|> fixed "(" <|> fixed "=")
    return .value e

def starPattern : Parse Pattern :=
  (withSpan do
    discard (fixed "*")
    return .star (some (← boundName))) <|>
  (withSpan do
    discard (fixed "*")
    discard (soft "_")
    return .star none)

def maybeStarPattern (r : Rules) : Parse Pattern :=
  starPattern <|> r .pattern

def maybeSequence (r : Rules) : Parse (List Pattern) := do
  let ps ← sepBy "," (maybeStarPattern r)
  discard (optional (fixed ","))
  return ps

/-- A sequence without brackets has at least one comma. -/
def openSequence (r : Rules) : Parse (List Pattern) := do
  let p ← maybeStarPattern r
  discard (fixed ",")
  return p :: (← maybeSequence r <|> return [])

def sequencePattern (r : Rules) : Parse Pattern :=
  (withSpan do
    discard (fixed "[")
    let ps ← maybeSequence r <|> return []
    discard (fixed "]")
    return .sequence ps) <|>
  (withSpan do
    discard (fixed "(")
    let ps ← openSequence r <|> return []
    discard (fixed ")")
    return .sequence ps)

def keyValue (r : Rules) : Parse (Expr × Pattern) := do
  let key ← literalExpression r <|> attributePath
  discard (fixed ":")
  return (key, ← r .pattern)

def mappingRest : Parse String := do
  discard (fixed "**")
  boundName

def mappingPattern (r : Rules) : Parse Pattern :=
  firstOf
    [withSpan do
      discard (fixed "\x7b")
      discard (fixed "\x7d")
      return .mapping [] [] none,
     withSpan do
      discard (fixed "\x7b")
      let rest ← mappingRest
      discard (optional (fixed ","))
      discard (fixed "\x7d")
      return .mapping [] [] (some rest),
     withSpan do
      discard (fixed "\x7b")
      let items ← sepBy "," (keyValue r)
      discard (fixed ",")
      let rest ← mappingRest
      discard (optional (fixed ","))
      discard (fixed "\x7d")
      return .mapping (items.map (·.1)) (items.map (·.2)) (some rest),
     withSpan do
      discard (fixed "\x7b")
      let items ← sepBy "," (keyValue r)
      discard (optional (fixed ","))
      discard (fixed "\x7d")
      return .mapping (items.map (·.1)) (items.map (·.2)) none]

def keywordPattern (r : Rules) : Parse (String × Pattern) := do
  let n ← plainName
  discard (fixed "=")
  return (n, ← r .pattern)

def objectPattern (r : Rules) : Parse Pattern :=
  firstOf
    [withSpan do
      let e ← nameOrAttribute
      discard (fixed "(")
      discard (fixed ")")
      return .object e [] [] [],
     withSpan do
      let e ← nameOrAttribute
      discard (fixed "(")
      let ps ← sepBy "," (r .pattern)
      discard (optional (fixed ","))
      discard (fixed ")")
      return .object e ps [] [],
     withSpan do
      let e ← nameOrAttribute
      discard (fixed "(")
      let ks ← sepBy "," (keywordPattern r)
      discard (optional (fixed ","))
      discard (fixed ")")
      return .object e [] (ks.map (·.1)) (ks.map (·.2)),
     withSpan do
      let e ← nameOrAttribute
      discard (fixed "(")
      let ps ← sepBy "," (r .pattern)
      discard (fixed ",")
      let ks ← sepBy "," (keywordPattern r)
      discard (optional (fixed ","))
      discard (fixed ")")
      return .object e ps (ks.map (·.1)) (ks.map (·.2)),
     diagnosis
      [do
        discard nameOrAttribute
        discard (fixed "(")
        discard (optional do
          discard (sepBy "," (r .pattern))
          discard (fixed ","))
        discard (sepBy "," (keywordPattern r))
        discard (fixed ",")
        let p ← r .pattern
        discard (many (do discard (fixed ","); r .pattern))
        complainAt p.span .positionalAfterKeywordPattern]]

def closedPattern (r : Rules) : Parse Pattern :=
  memo .closedPattern <| firstOf
    [literalPattern r,
     withSpan do return .capture none (some (← boundName)),
     withSpan do
      discard (soft "_")
      return .capture none none,
     valuePattern,
     do
      discard (fixed "(")
      let p ← r .pattern
      discard (fixed ")")
      return p,
     sequencePattern r,
     mappingPattern r,
     objectPattern r]

def orPattern (r : Rules) : Parse Pattern := do
  let start ← current
  let ps ← sepBy "|" (closedPattern r)
  match ps with
  | [p] => return p
  | _ => return .alternatives ps (← spanFrom start)

def asFaults (r : Rules) : List (Parse Unit) :=
  [do
    discard (orPattern r)
    discard (fixed "as")
    let t ← soft "_"
    complainAtToken t .wildcardTarget,
   do
    discard (orPattern r)
    discard (fixed "as")
    notAhead (kind .name)
    let e ← r .expression
    complainAt e.span .badPatternTarget]

def pattern (r : Rules) : Parse Pattern :=
  (withSpan do
    let p ← orPattern r
    discard (fixed "as")
    return .capture (some p) (some (← boundName))) <|>
  diagnosis (asFaults r) <|>
  orPattern r

/-- The patterns of a case: one pattern or a sequence without brackets. -/
def casePattern (r : Rules) : Parse Pattern :=
  (withSpan do return .sequence (← openSequence r)) <|> pattern r

end Grammar
end Source
end BranchCover
