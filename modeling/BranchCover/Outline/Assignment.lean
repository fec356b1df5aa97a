import BranchCover.Source.Tree

/-! Assignments inside a statement at any depth, in the order of their places, and the fields that
they give to an instance. -/
namespace BranchCover
namespace Outline

open Source

structure Assignment where
  targets : List Expr
  typing : Option Expr
  value : Option Expr
  span : Span

namespace Assignment

mutual

def ofStmt : Stmt → List Assignment
  | .assign targets value s => [⟨targets, none, some value, s⟩]
  | .annotate target typing value s => [⟨[target], some typing, value, s⟩]
  | .function _ _ body _ _ _ _ => ofStmts body
  | .classDef _ _ _ body _ _ => ofStmts body
  | .forLoop _ _ body orelse _ _ => ofStmts body ++ ofStmts orelse
  | .whileLoop _ body orelse _ => ofStmts body ++ ofStmts orelse
  | .ifStmt _ body orelse _ => ofStmts body ++ ofStmts orelse
  | .withStmt _ body _ _ => ofStmts body
  | .matchStmt _ cases _ => ofCases cases
  | .tryStmt body handlers orelse final _ _ =>
    ofStmts body ++ ofHandlers handlers ++ ofStmts orelse ++ ofStmts final
  | _ => []

def ofStmts : List Stmt → List Assignment
  | [] => []
  | s :: ss => ofStmt s ++ ofStmts ss

def ofCases : List MatchCase → List Assignment
  | [] => []
  | .mk _ _ body :: cs => ofStmts body ++ ofCases cs

def ofHandlers : List Handler → List Assignment
  | [] => []
  | .mk _ _ body _ :: hs => ofStmts body ++ ofHandlers hs

end

/-- The assignments in statements, the earliest place first. -/
def sorted (body : List Stmt) : List Assignment :=
  (ofStmts body).mergeSort fun a b => a.span.startsBy b.span

end Assignment

/-- The attribute of a receiver that an expression is, such as `x` in `self.x`. -/
def attributeOf? (receiver : String) : Expr → Option String
  | .member (.name id _) attr _ => if id == receiver then some attr else none
  | _ => none

/-- A name that is bound, with the assignment and the place among its targets. -/
structure FieldBinding where
  name : String
  index : Nat
  assignment : Assignment

/-- The attributes of the receiver that an assignment has as targets. -/
def Assignment.fields (receiver : String) (a : Assignment) : List FieldBinding :=
  a.targets.zipIdx.filterMap fun (t, i) => (attributeOf? receiver t).map (⟨·, i, a⟩)

/-- The first binding of each name that is not among the given ones. -/
def firstBindings (known : List String) : List FieldBinding → List FieldBinding
  | [] => []
  | b :: bs =>
    if known.contains b.name then firstBindings known bs
    else b :: firstBindings (b.name :: known) bs

/-- The names that statements bind directly. -/
def boundNames : List Stmt → List String
  | [] => []
  | .annotate (.name id _) _ _ _ :: ss => id :: boundNames ss
  | .assign targets _ _ :: ss =>
    targets.filterMap (fun | .name id _ => some id | _ => none) ++ boundNames ss
  | _ :: ss => boundNames ss

end Outline
end BranchCover
