import Std.Data.TreeMap
import BranchCover.Source.Tree
import BranchCover.Source.Token

/-! Parsers with ordered choice. A parser reads tokens from a position and succeeds, misses, or ends
the whole reading with a fault. A miss keeps what was learnt: how far tokens were looked at, which
decides where an error is shown, and the results of rules that were tried. -/
namespace BranchCover
namespace Source

/-- The rules that call each other, and those whose results are kept. -/
inductive Rule where
  | expression
  | namedExpression
  | starExpression
  | starExpressions
  | disjunction
  | inversion
  | bitwiseOr
  | factor
  | primary
  | strings
  | arguments
  | misplacedEquals
  | targetPrimary
  | starTarget
  | starTargets
  | targetAtom
  | singleTarget
  | delTarget
  | annotatedTarget
  | closedPattern
  | pattern
  | simpleStmt
  | elseIf
  | block
  deriving DecidableEq

structure Arguments where
  positional : List Expr
  keywords : List Keyword
  span : Span

@[reducible] def Rule.Result : Rule → Type
  | closedPattern | pattern => Pattern
  | simpleStmt | elseIf => Stmt
  | block => List Stmt
  | arguments => Arguments
  | misplacedEquals => Unit
  | _ => Expr

/-- Results by position and rule: the value and the position behind it, or a miss. -/
abbrev Memo :=
  Std.TreeMap (Nat × Nat) ((ρ : Rule) × Option (ρ.Result × Nat))
    (compareLex (compareOn Prod.fst) (compareOn Prod.snd))

structure Feed where
  tokens : Array Token
  stop : Option Stop
  sheet : Sheet
  /-- Whether the rules that explain errors take part. -/
  diagnose : Bool
  /-- Whether the source is a replacement field of a string. -/
  embedded : Bool

structure ParseState where
  pos : Nat
  /-- Number of tokens that were looked at. -/
  seen : Nat
  memo : Memo

inductive Outcome (α : Type) where
  | done (value : α)
  | miss
  | fault (fault : Fault)

def Parse (α : Type) := Feed → ParseState → Outcome α × ParseState

namespace Parse

variable {α β : Type}

@[inline] def done (a : α) : Parse α :=
  fun _ s => (.done a, s)

@[inline] def bind (p : Parse α) (f : α → Parse β) : Parse β :=
  fun e s =>
    match p e s with
    | (.done a, s) => f a e s
    | (.miss, s) => (.miss, s)
    | (.fault x, s) => (.fault x, s)

instance : Monad Parse where
  pure := done
  bind := bind

/-- The second parser reads from the same position if the first one misses. -/
@[inline] def orElse (p : Parse α) (q : Unit → Parse α) : Parse α :=
  fun e s =>
    match p e s with
    | (.miss, s') => q () e { s' with pos := s.pos }
    | r => r

instance : OrElse (Parse α) where
  orElse := orElse

def miss : Parse α :=
  fun _ s => (.miss, s)

def failWith (f : Fault) : Parse α :=
  fun _ s => (.fault f, s)

/-- The token at the position; it now counts as seen. -/
def current : Parse Token :=
  fun e s =>
    if h : s.pos < e.tokens.size then
      (.done e.tokens[s.pos], { s with seen := max s.seen (s.pos + 1) })
    else
      match e.stop with
      | some stop =>
        let f := stop.fault e.sheet
        let isScan := match stop.cause with
          | .fault _ => true
          | _ => false
        (.fault { f with complaint := if e.embedded && !isScan then .inField f.complaint else f.complaint },
          { s with seen := e.tokens.size + 1 })
      | none => (.done default, s)

@[inline] def advance : Parse Unit :=
  fun _ s => (.done (), { s with pos := s.pos + 1 })

@[inline] def tokenIf (p : Token → Bool) : Parse Token := do
  let t ← current
  if p t then do
    advance
    return t
  else miss

def fixed (text : String) : Parse Token :=
  tokenIf (·.isFixed text)

/-- A name that acts as a keyword here. -/
def soft (text : String) : Parse Token :=
  tokenIf (·.isSoft text)

def kind (k : TokenKind) : Parse Token :=
  tokenIf (·.kind == k)

/-- Reads nothing; succeeds if `p` would. -/
@[inline] def ahead (p : Parse α) : Parse α :=
  fun e s =>
    match p e s with
    | (.done a, s') => (.done a, { s' with pos := s.pos })
    | r => r

/-- Reads nothing; succeeds if `p` would miss. -/
@[inline] def notAhead (p : Parse α) : Parse Unit :=
  fun e s =>
    match p e s with
    | (.done _, s') => (.miss, { s' with pos := s.pos })
    | (.miss, s') => (.done (), { s' with pos := s.pos })
    | (.fault x, s') => (.fault x, s')

@[inline] def optional (p : Parse α) : Parse (Option α) :=
  (do return some (← p)) <|> done none

/-- Reads `p` as often as it succeeds; every reading takes a token. -/
def manyLoop (p : Parse α) : (fuel : Nat) → List α → Parse (List α)
  | 0, acc => done acc.reverse
  | fuel + 1, acc =>
    fun e s =>
      match p e s with
      | (.done a, s') => manyLoop p fuel (a :: acc) e s'
      | (.miss, s') => (.done acc.reverse, { s' with pos := s.pos })
      | (.fault x, s') => (.fault x, s')

def many (p : Parse α) : Parse (List α) :=
  fun e s => manyLoop p (e.tokens.size + 1) [] e s

def many1 (p : Parse α) : Parse (List α) := do
  let a ← p
  return a :: (← many p)

def sepBy (sep : String) (p : Parse α) : Parse (List α) := do
  let a ← p
  return a :: (← many (do discard (fixed sep); p))

/-- Reads `first` and then extends the result as long as `next` succeeds on it. -/
def chainLoop (next : α → Parse α) : (fuel : Nat) → α → Parse α
  | 0, a => done a
  | fuel + 1, a =>
    fun e s =>
      match next a e s with
      | (.done b, s') => chainLoop next fuel b e s'
      | (.miss, s') => (.done a, { s' with pos := s.pos })
      | (.fault x, s') => (.fault x, s')

def chain (first : Parse α) (next : α → Parse α) : Parse α := do
  let a ← first
  fun e s => chainLoop next (e.tokens.size + 1) a e s

def firstOf : List (Parse α) → Parse α
  | [] => miss
  | p :: ps => p <|> firstOf ps

def memo (ρ : Rule) (p : Parse ρ.Result) : Parse ρ.Result :=
  fun e s =>
    match s.memo[(s.pos, ρ.ctorIdx)]? with
    | some ⟨ρ', result⟩ =>
      if h : ρ' = ρ then
        match h ▸ result with
        | some (a, pos) => (.done a, { s with pos := pos })
        | none => (.miss, s)
      else p e s
    | none =>
      match p e s with
      | (.done a, s') =>
        (.done a, { s' with memo := s'.memo.insert (s.pos, ρ.ctorIdx) ⟨ρ, some (a, s'.pos)⟩ })
      | (.miss, s') => (.miss, { s' with memo := s'.memo.insert (s.pos, ρ.ctorIdx) ⟨ρ, none⟩ })
      | r => r

/-- The place of the last token before the position that is not layout. -/
def lastEnd (tokens : Array Token) : (n : Nat) → Nat × Nat
  | 0 => (0, 0)
  | n + 1 =>
    match tokens[n]? with
    | some t => if t.isLayout then lastEnd tokens n else (t.endLine, t.endCol)
    | none => lastEnd tokens n

/-- From the start of a token to the end of what was read last. -/
def spanFrom (t : Token) : Parse Span :=
  fun e s =>
    let (line, col) := lastEnd e.tokens s.pos
    (.done ⟨t.line, t.col.getD 0, line, col⟩, s)

def withSpan (p : Parse (Span → α)) : Parse α := do
  let t ← current
  let f ← p
  return f (← spanFrom t)

def lastSeen : Parse Token :=
  fun e s => (.done (e.tokens.getD (s.seen - 1) default), s)

/-- Ends the reading; `offset` is the one-based byte offset of the place. -/
def complainFrom (line offset : Nat) (c : Complaint) : Parse α := do
  let last ← lastSeen
  fun e s =>
    let c := if e.embedded then .inField c else c
    (.fault ⟨c, line, e.sheet.column last.reach line offset⟩, s)

/-- Ends the reading at the token that was looked at last. -/
def complain (c : Complaint) : Parse α := do
  let t ← lastSeen
  match t.col with
  | some col => complainFrom t.line (col + 1) c
  | none => complainFrom t.line t.reach.col c

def complainAtToken (t : Token) (c : Complaint) : Parse α :=
  match t.col with
  | some col => complainFrom t.line (col + 1) c
  | none => complainFrom t.line 0 c

def complainAt (span : Span) (c : Complaint) : Parse α :=
  complainFrom span.line (span.col + 1) c

/-- An explanation of an error: the first of `ps` to succeed ends the search without a result. -/
def diagnosis (ps : List (Parse Unit)) : Parse α :=
  fun e s =>
    if e.diagnose then (do firstOf ps; miss) e s
    else (.miss, s)

/-- Reads without explanations of errors. -/
def plainly (p : Parse α) : Parse α :=
  fun e s => p { e with diagnose := false } s

def forced (text : String) : Parse Token := do
  let t ← current
  if t.isFixed text then do
    advance
    return t
  else complainAtToken t (.expected s!"'{text}'")

/-- A fault of the tokens behind the place of an error counts more than the error, and so does a
bracket that stays open, when the error stands on a later line than the bracket. -/
def outranking? (e : Feed) (s : ParseState) : Option Fault :=
  if e.tokens.size < s.seen then none
  else
    match e.stop with
    | none => none
    | some stop =>
      match stop.cause, stop.brackets with
      | .fault f, _ => some f
      | _, b :: _ =>
        if b.line < (e.tokens.getD (s.seen - 1) default).line then
          (stop.unclosed? e.sheet).map fun f =>
            { f with complaint := if e.embedded then .inField f.complaint else f.complaint }
        else none
      | _, [] => none

/-- Runs a parser on a whole feed. When it misses, it runs again with explanations of errors; if
none is found, the furthest token of the first run is shown. -/
def run (p : Parse α) (e : Feed) : Except Fault α :=
  match p { e with diagnose := false } ⟨0, 0, ∅⟩ with
  | (.done a, _) => .ok a
  | (.fault f, s) => .error ((outranking? e s).getD f)
  | (.miss, s) =>
    let furthest := e.tokens.getD (s.seen - 1) default
    let plain : Parse α :=
      if furthest.kind == .indent then complain .unexpectedIndent
      else if furthest.kind == .dedent then complain .unexpectedDedent
      else complainAtToken furthest .invalid
    match p { e with diagnose := true } ⟨0, s.seen, ∅⟩ with
    | (.fault f, s) => .error ((outranking? e s).getD f)
    | (_, s) =>
      match plain e s with
      | (.fault f, _) =>
        if furthest.kind == .indent || furthest.kind == .dedent then .error f
        else .error ((outranking? e s).getD f)
      | _ => .error ⟨.invalid, furthest.line, 0⟩

end Parse

abbrev Rules := (ρ : Rule) → Parse ρ.Result

end Source
end BranchCover
