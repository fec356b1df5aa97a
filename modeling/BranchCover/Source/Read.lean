import BranchCover.Source.Grammar.Compound

/-! Reading a source: text to tokens to tree. -/
namespace BranchCover
namespace Source

variable [Interpreter]

/-- The rules with a bound on how deep they may call each other. Every call of a rule through
another takes a token within a few steps, so a bound by the length of the source is never met. -/
def rules : Nat → Rules
  | 0, _ => Parse.miss
  | n + 1, ρ =>
    let r := rules n
    match ρ with
    | .expression => Grammar.expression r
    | .namedExpression => Grammar.namedExpression r
    | .starExpression => Grammar.starExpression r
    | .starExpressions => Grammar.starExpressions r
    | .disjunction => Grammar.disjunction r
    | .inversion => Grammar.inversion r
    | .bitwiseOr => Grammar.bitwiseOr r
    | .factor => Grammar.factor r
    | .primary => Grammar.primary r
    | .strings => Grammar.strings r
    | .arguments => Grammar.arguments r
    | .misplacedEquals => Parse.miss
    | .targetPrimary => Grammar.targetPrimary r
    | .starTarget => Grammar.starTarget r
    | .starTargets => Grammar.starTargets r
    | .targetAtom => Grammar.targetAtom r
    | .singleTarget => Grammar.singleTarget r
    | .delTarget => Grammar.delTarget r
    | .annotatedTarget => Grammar.annotatedDisplay r
    | .closedPattern => Grammar.closedPattern r
    | .pattern => Grammar.pattern r
    | .simpleStmt => Grammar.simpleStmt r
    | .elseIf => Grammar.conditional r "elif"
    | .block => Grammar.block r (Grammar.statement r)

def Feed.ofChars (cs : List Char) : Feed :=
  let (tokens, stop) := scan 1 cs
  ⟨tokens, stop, Sheet.ofSource 1 0 cs, false, false⟩

def depthBound (cs : List Char) : Nat :=
  4 * cs.length + 64

def readModule (source : String) : Except Refusal (List Stmt) :=
  let cs := source.toList
  if cs.contains '\x00' then .error .ofNull
  else
    let cs := unifyLineEnds true cs
    ((Grammar.module (rules (depthBound cs))).run (Feed.ofChars cs)).mapError .fault

/-- The range of the first surrogates of a text, with the first of them. -/
def surrogates? (t : Text) : Option (Nat × Nat × Nat) :=
  match t.findIdx? (·.isSurrogate) with
  | some i =>
    let run := (t.drop i).takeWhile (·.isSurrogate)
    some (i, i + run.length - 1, ((t[i]?).map (·.val)).getD 0)
  | none => none

def readExpression (t : Text) : Except Refusal Expr :=
  match t.toString? with
  | none =>
    match surrogates? t with
    | some (first, last, code) => .error (.unencodable first last code)
    | none => .error .ofNull
  | some s =>
    let cs := s.toList
    if cs.contains '\x00' then .error .ofNull
    else
      let cs := unifyLineEnds false cs
      ((Grammar.loneExpression (rules (depthBound cs))).run (Feed.ofChars cs)).mapError .fault

end Source
end BranchCover
