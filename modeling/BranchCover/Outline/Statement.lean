import BranchCover.Outline.Typing
import BranchCover.Outline.Assignment
import BranchCover.Outline.Excerpt
import BranchCover.Outline.Expression
import BranchCover.Source.Print
import BranchCover.Source.Read

/-! The outline of statements, classes and modules. -/
namespace BranchCover
namespace Outline

open Source

inductive Failure where
  | refused (refusal : Refusal)
  /-- A decorator has no written form. -/
  | unwritable (reason : Unwritable)
  /-- The source takes more depth or memory than there is. -/
  | exhausted
  deriving DecidableEq

namespace Failure

def message : Failure → String
  | refused r => r.message
  | unwritable u => u.message
  | exhausted => "maximum recursion depth exceeded"

end Failure

/-- What the outline of a statement depends on besides the statement: the lines of the source, and
how the text of a quoted annotation is read. -/
structure Reader where
  lines : List (List Char)
  expression : Text → Except Refusal Expr

namespace Reader

def ofSource [Interpreter] (source : String) : Reader :=
  ⟨Excerpt.fullLines source.toList, readExpression⟩

def typing (r : Reader) (e : Expr) : Except Failure Node :=
  (Typing.read r.expression none e).mapError .refused

def typing? (r : Reader) : Option Expr → Except Failure (Option Node)
  | none => pure none
  | some e => do
    let n ← r.typing e
    pure (some n)

end Reader

/-- The name by which a decorator is known: arguments and the way to an attribute are dropped. -/
def decoratorName (e : Expr) : Except Failure String :=
  let e := match e with
    | .call func _ _ _ => func
    | e => e
  match e with
  | .name id _ => pure id
  | .member _ attr _ => pure attr
  | e => e.written.mapError .unwritable

/-- The parameters besides the receiver, the keyword-only ones last, each with whether it is one. -/
def shownParams (hasReceiver : Bool) (ps : Parameters) : List (Param × Bool) :=
  ((if hasReceiver then ps.positional.drop 1 else ps.positional).map (·, false)) ++
    ps.kwOnly.map (·, true)

def param (r : Reader) (p : Param × Bool) : Except Failure Node := do
  let a ← r.typing? p.1.typing
  pure (.param p.1.name a (p.1.default.map ofExpr) p.2 p.1.span)

structure Function where
  name : String
  params : Parameters
  decorators : List Expr
  returns : Option Expr
  isAsync : Bool
  span : Span

/-- The node of a function with its body. Inside a class the first parameter is the receiver, unless
the method is static. -/
def method (r : Reader) (inClass isConstructor : Bool) (f : Function)
    (body : Except Failure Node) : Except Failure Node := do
  let modifiers ← f.decorators.mapM decoratorName
  let hasReceiver := inClass && !modifiers.contains "staticmethod"
  let params ← (shownParams hasReceiver f.params).mapM (param r)
  let body ← body
  let returns ← r.typing? f.returns
  let receiver := if hasReceiver then f.params.positional.head?.map Param.name else none
  let returnsText := f.returns.map fun e => String.ofList (Excerpt.exact r.lines e.span)
  pure (.method ⟨isConstructor, f.name, returnsText, modifiers, f.isAsync, receiver⟩ params body
    returns f.span)

/-- The declarations of names that a statement of a module or class makes, if it makes any. -/
def declarations? (r : Reader) (owner : Span) : Stmt → Option (Except Failure (List Node))
  | .annotate (.name id _) typing value s => some do
    let a ← r.typing typing
    pure [.property id (some a) (value.map ofExpr) ⟨owner, 0⟩ s]
  | .assign targets value s =>
    let names := targets.zipIdx.filterMap fun
      | (.name id _, i) => some (id, i)
      | _ => none
    if names.isEmpty then none
    else some (pure (names.map fun (id, i) =>
      .property id none (some (ofExpr value)) ⟨owner, i⟩ s))
  | _ => none

/-- The fields that a constructor gives to its receiver, the first assignment of each name. Names
that the class declares itself are left out. -/
def instanceFields (r : Reader) (owner : Span) (declared : List String) (ps : Parameters)
    (body : List Stmt) : Except Failure (List Node) :=
  match ps.args.head? with
  | none => pure []
  | some receiver =>
    let bindings := (Assignment.sorted body).flatMap (·.fields receiver.name)
    (firstBindings declared bindings).mapM fun b => do
      let a ← r.typing? b.assignment.typing
      pure (.property b.name a (b.assignment.value.map ofExpr) ⟨owner, b.index⟩ b.assignment.span)

/-- A block stands where its first statement does. -/
def blockSpan (fallback : Span) : List Stmt → Span
  | [] => fallback
  | s :: _ => s.span

/-- The tests of a pattern; what matches anything has none. -/
def tests : Pattern → List (Option Node)
  | .value e _ => [some (ofExpr e)]
  | .singleton c s => [some (ofConstant s c)]
  | .alternatives ps _ => testsOfAll ps
  | .capture none _ _ => [none]
  | .capture (some p) _ _ => tests p
  | .sequence _ s => [some (.compound "MatchSequence" [] s)]
  | .mapping _ _ _ s => [some (.compound "MatchMapping" [] s)]
  | .object _ _ _ _ s => [some (.compound "MatchClass" [] s)]
  | .star _ s => [some (.compound "MatchStar" [] s)]
where
  testsOfAll : List Pattern → List (Option Node)
    | [] => []
    | p :: ps => tests p ++ testsOfAll ps

/-- A clause for each test. Only the first test that matches anything makes a default. -/
def clausesOf (body : Node) (s : Span) : (hasDefault : Bool) → List (Option Node) → List Node
  | _, [] => []
  | hasDefault, some t :: ts => .caseClause t body s :: clausesOf body s hasDefault ts
  | false, none :: ts => .defaultClause body s :: clausesOf body s true ts
  | true, none :: ts => clausesOf body s true ts

def ofAlias (a : Alias) : Node :=
  .compound "alias" [] a.span

def ofItem (i : WithItem) : Node :=
  .compound "withitem" (ofExpr i.context :: ofOptional i.target) Span.unknown

mutual

def ofStmt (r : Reader) : Stmt → Except Failure Node
  | .function name ps body ds returns isAsync s =>
    method r false false ⟨name, ps, ds, returns, isAsync, s⟩ do
      let b ← ofStmts r body
      pure (.block b (blockSpan s body))
  | .classDef name _ _ body _ s => do
    let items ← ofMembers r s (boundNames body) false body
    pure (.classDecl name items s)
  | .ifStmt test body orelse s => do
    let b ← ofStmts r body
    let o ← ofBlock r s orelse
    pure (.ifStmt (ofExpr test) (.block b (blockSpan s body)) o.head? s)
  | .matchStmt subject cases s => do
    let cs ← ofCases r false cases
    pure (.switch (ofExpr subject) cs s)
  | .expr value _ => pure (ofExpr value)
  | .returnStmt value s => pure (.compound "Return" (ofOptional value) s)
  | .delete targets s => pure (.compound "Delete" (ofExprs targets) s)
  | .assign targets value s => pure (.compound "Assign" (ofExprs targets ++ [ofExpr value]) s)
  | .augment target op value s =>
    pure (.compound "AugAssign" [ofExpr target, ofBinaryOp op, ofExpr value] s)
  | .annotate target typing value s =>
    pure (.compound "AnnAssign" (ofExpr target :: ofExpr typing :: ofOptional value) s)
  | .forLoop target iter body orelse isAsync s => do
    let b ← ofBlock r s body
    let o ← ofBlock r s orelse
    pure (.compound (if isAsync then "AsyncFor" else "For")
      (ofExpr target :: ofExpr iter :: (b ++ o)) s)
  | .whileLoop test body orelse s => do
    let b ← ofBlock r s body
    let o ← ofBlock r s orelse
    pure (.compound "While" (ofExpr test :: (b ++ o)) s)
  | .withStmt items body isAsync s => do
    let b ← ofBlock r s body
    pure (.compound (if isAsync then "AsyncWith" else "With") (items.map ofItem ++ b) s)
  | .raise exception cause s =>
    pure (.compound "Raise" (ofOptional exception ++ ofOptional cause) s)
  | .tryStmt body handlers orelse final isStar s => do
    let b ← ofBlock r s body
    let hs ← ofHandlers r handlers
    let o ← ofBlock r s orelse
    let f ← ofBlock r s final
    pure (.compound (if isStar then "TryStar" else "Try") (b ++ hs ++ o ++ f) s)
  | .assert test message s => pure (.compound "Assert" (ofExpr test :: ofOptional message) s)
  | .importStmt names s => pure (.compound "Import" (names.map ofAlias) s)
  | .importFrom _ names _ s => pure (.compound "ImportFrom" (names.map ofAlias) s)
  | .global _ s => pure (.compound "Global" [] s)
  | .nonlocal _ s => pure (.compound "Nonlocal" [] s)
  | .pass s => pure (.compound "Pass" [] s)
  | .breakStmt s => pure (.compound "Break" [] s)
  | .continueStmt s => pure (.compound "Continue" [] s)

def ofStmts (r : Reader) : List Stmt → Except Failure (List Node)
  | [] => pure []
  | s :: ss => do
    let n ← ofStmt r s
    let ns ← ofStmts r ss
    pure (n :: ns)

def ofBlock (r : Reader) (fallback : Span) : List Stmt → Except Failure (List Node)
  | [] => pure []
  | s :: ss => do
    let n ← ofStmt r s
    let ns ← ofStmts r ss
    pure [.block (n :: ns) (blockSpan fallback (s :: ss))]

/-- The members of a class. The first initializer is the constructor; it follows the fields that it
gives to the instance. -/
def ofMembers (r : Reader) (owner : Span) (declared : List String) (hasInit : Bool) :
    List Stmt → Except Failure (List Node)
  | [] => pure []
  | .function name ps body ds returns isAsync s :: ss => do
    let block : Except Failure Node := do
      let b ← ofStmts r body
      pure (.block b (blockSpan s body))
    let f : Function := ⟨name, ps, ds, returns, isAsync, s⟩
    if name != "__init__" then
      let m ← method r true false f block
      let ns ← ofMembers r owner declared hasInit ss
      pure (m :: ns)
    else if hasInit then
      let b ← block
      let n := Node.compound (if isAsync then "AsyncFunctionDef" else "FunctionDef")
        (ofParameters ps :: b :: (ofExprs ds ++ ofOptional returns)) s
      let ns ← ofMembers r owner declared hasInit ss
      pure (n :: ns)
    else
      let fields ← instanceFields r owner declared ps body
      let m ← method r true true f block
      let ns ← ofMembers r owner declared true ss
      pure (fields ++ m :: ns)
  | s :: ss => do
    let ns ← match declarations? r owner s with
      | some ds => ds
      | none => do
        let n ← ofStmt r s
        pure [n]
    let rest ← ofMembers r owner declared hasInit ss
    pure (ns ++ rest)

def ofCases (r : Reader) (hasDefault : Bool) : List MatchCase → Except Failure (List Node)
  | [] => pure []
  | .mk pattern _ body :: cs => do
    let b ← ofStmts r body
    let ts := tests pattern
    let rest ← ofCases r (hasDefault || ts.any (·.isNone)) cs
    pure (clausesOf (.block b (blockSpan Span.unknown body)) pattern.span hasDefault ts ++ rest)

def ofHandlers (r : Reader) : List Handler → Except Failure (List Node)
  | [] => pure []
  | .mk type _ body s :: hs => do
    let b ← ofBlock r s body
    let rest ← ofHandlers r hs
    pure (.compound "ExceptHandler" (ofOptional type ++ b) s :: rest)

end

def ofTopLevel (r : Reader) : List Stmt → Except Failure (List Node)
  | [] => pure []
  | s :: ss => do
    let ns ← match declarations? r Span.unknown s with
      | some ds => ds
      | none => do
        let n ← ofStmt r s
        pure [n]
    let rest ← ofTopLevel r ss
    pure (ns ++ rest)

def ofSource [Interpreter] (source : String) : Except Failure Node :=
  if Interpreter.exhausts source then .error .exhausted
  else do
    let body ← (readModule source).mapError .refused
    let items ← ofTopLevel (Reader.ofSource source) body
    pure (.module items)

end Outline
end BranchCover
