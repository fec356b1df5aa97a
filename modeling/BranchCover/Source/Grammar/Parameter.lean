import BranchCover.Source.Grammar.Primary

/-! Parameters of functions and of lambda expressions. Both have the same order of kinds; a lambda
has no annotations and ends its parameters at a colon. -/
namespace BranchCover
namespace Source
namespace Grammar

open Parse

/-- What tells the parameters of functions from those of lambda expressions. -/
structure ParameterStyle where
  close : String
  isAnnotated : Bool

def functionStyle : ParameterStyle := ⟨")", true⟩

def lambdaStyle : ParameterStyle := ⟨":", false⟩

namespace ParameterStyle

variable (y : ParameterStyle) (r : Rules)

/-- A parameter ends at a comma or before the end of the list. -/
def separator : Parse Unit :=
  (do discard (fixed ",")) <|> (do discard (ahead (fixed y.close)))

/-- A name with its annotation; its default and span are still open. -/
def named (typing : Parse Expr) : Parse (Option Expr → Param) := do
  let t ← current
  let n ← plainName
  let a ← if y.isAnnotated then optional typing else pure none
  let s ← spanFrom t
  return fun d => .mk n a d s

def typing : Parse Expr := do
  discard (fixed ":")
  r .expression

def param : Parse (Option Expr → Param) :=
  y.named (typing r)

def default : Parse Expr :=
  (do
    discard (fixed "=")
    r .expression) <|>
  diagnosis
    [do
      let t ← fixed "="
      discard (ahead (fixed y.close <|> fixed ","))
      complainAtToken t .missingDefault]

def noDefault : Parse Param := do
  let p ← y.param r
  y.separator
  return p none

def withDefault : Parse Param := do
  let p ← y.param r
  let d ← y.default r
  y.separator
  return p (some d)

def maybeDefault : Parse Param := do
  let p ← y.param r
  let d ← optional (y.default r)
  y.separator
  return p d

def slash : Parse Unit := do
  discard (fixed "/")
  y.separator

def slashNoDefault : Parse (List Param) := do
  let ps ← many1 (y.noDefault r)
  y.slash
  return ps

def slashWithDefault : Parse (List Param) := do
  let ps ← many (y.noDefault r)
  let ds ← many1 (y.withDefault r)
  y.slash
  return ps ++ ds

def keywordFaults : List (Parse Unit) :=
  [do
    discard (fixed "**")
    discard (y.param r)
    let t ← fixed "="
    complainAtToken t .keywordsDefault,
   do
    discard (fixed "**")
    discard (y.param r)
    discard (fixed ",")
    let t ← current
    discard (y.param r)
    complainAtToken t .afterKeywords,
   do
    discard (fixed "**")
    discard (y.param r)
    discard (fixed ",")
    let t ← fixed "*" <|> fixed "**" <|> fixed "/"
    complainAtToken t .afterKeywords]

def keywords : Parse Param :=
  diagnosis (y.keywordFaults r) <|> do
    discard (fixed "**")
    y.noDefault r

/-- The complaint about a bare star; a lambda shows it at the last token. -/
def bareStar (t : Token) : Parse Unit :=
  if y.isAnnotated then complainAtToken t .nothingAfterStar else complain .nothingAfterStar

def starFaults : List (Parse Unit) :=
  [do
    let t ← fixed "*"
    discard (fixed y.close) <|> do
      discard (fixed ",")
      discard (fixed y.close <|> fixed "**")
    y.bareStar t,
   do
    discard (fixed "*")
    discard (y.param r)
    let t ← fixed "="
    complainAtToken t .starDefault,
   do
    discard (fixed "*")
    discard (y.noDefault r) <|> discard (fixed ",")
    discard (many (y.maybeDefault r))
    let t ← fixed "*"
    discard (y.noDefault r) <|> discard (fixed ",")
    complainAtToken t .repeatedStar]

/-- A star and what follows it: the rest parameter, keyword-only ones, and the keyword mapping. -/
def star : Parse (Option Param × List Param × Option Param) :=
  diagnosis (y.starFaults r) <|>
  (do
    discard (fixed "*")
    let rest ← y.noDefault r
    tail (some rest)) <|>
  (if y.isAnnotated then do
    discard (fixed "*")
    let p ← y.named do
      discard (fixed ":")
      r .starExpression
    y.separator
    tail (some (p none))
  else miss) <|>
  (do
    discard (fixed "*")
    discard (fixed ",")
    let ps ← many1 (y.maybeDefault r)
    return (none, ps, ← optional (y.keywords r))) <|>
  (do return (none, [], some (← y.keywords r)))
where
  tail (rest : Option Param) : Parse (Option Param × List Param × Option Param) := do
    let ps ← many (y.maybeDefault r)
    return (rest, ps, ← optional (y.keywords r))

def assemble (posOnly args : List Param)
    (star : Option (Option Param × List Param × Option Param)) : Parameters :=
  match star with
  | some (rest, kwOnly, keywords) => .mk posOnly args rest kwOnly keywords
  | none => .mk posOnly args none [] none

def parameters : Parse Parameters :=
  (do
    let a ← y.slashNoDefault r
    let b ← many (y.noDefault r)
    let c ← many (y.withDefault r)
    return assemble a (b ++ c) (← optional (y.star r))) <|>
  (do
    let a ← y.slashWithDefault r
    let b ← many (y.withDefault r)
    return assemble a b (← optional (y.star r))) <|>
  (do
    let a ← many1 (y.noDefault r)
    let b ← many (y.withDefault r)
    return assemble [] (a ++ b) (← optional (y.star r))) <|>
  (do
    let a ← many1 (y.withDefault r)
    return assemble [] a (← optional (y.star r))) <|>
  (do return assemble [] [] (some (← y.star r)))

def anySlash : Parse Unit :=
  discard (y.slashNoDefault r) <|> discard (y.slashWithDefault r)

def parameterFaults : List (Parse Unit) :=
  [do
    discard (many (y.noDefault r))
    discard (y.slashWithDefault r) <|> discard (many1 (y.withDefault r))
    let t ← current
    discard (y.noDefault r)
    complainAtToken t .defaultOrder,
   do
    discard (many (y.noDefault r))
    let t ← fixed "("
    if y.isAnnotated then discard (many1 (y.noDefault r))
    else discard (sepBy "," (y.param r))
    discard (optional (fixed ","))
    discard (fixed ")")
    complainAtToken t
      (if y.isAnnotated then .parenthesizedParameters else .parenthesizedLambdaParameters),
   do
    let t ← fixed "/"
    discard (fixed ",")
    complainAtToken t .nothingBeforeSlash,
   do
    y.anySlash r
    discard (many (y.maybeDefault r))
    let t ← fixed "/"
    complainAtToken t .repeatedSlash,
   do
    discard (optional (y.anySlash r))
    discard (many (y.maybeDefault r))
    discard (fixed "*")
    discard (fixed ",") <|> discard (y.noDefault r)
    discard (many (y.maybeDefault r))
    let t ← fixed "/"
    complainAtToken t .slashAfterStar,
   do
    discard (many1 (y.maybeDefault r))
    discard (fixed "/")
    let t ← fixed "*"
    complainAtToken t .commaBetweenSlashAndStar]

def parametersOrFault : Parse Parameters :=
  diagnosis (y.parameterFaults r) <|> y.parameters r

end ParameterStyle

def lambda (r : Rules) : Parse Expr :=
  withSpan do
    discard (fixed "lambda")
    let ps ← lambdaStyle.parametersOrFault r <|> return Parameters.none
    discard (fixed ":")
    return .lambda ps (← r .expression)

end Grammar
end Source
end BranchCover
