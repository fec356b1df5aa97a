import BranchCover.Source.Parse

/-! How complaints speak of expressions, and which part of a target cannot be assigned. -/
namespace BranchCover
namespace Source

def Expr.word : Expr → String
  | member .. => "attribute"
  | subscript .. => "subscript"
  | starred .. => "starred"
  | name .. => "name"
  | list .. => "list"
  | tuple .. => "tuple"
  | lambda .. => "lambda"
  | call .. => "function call"
  | boolOp .. | binary .. | unary .. => "expression"
  | generator .. => "generator expression"
  | yield .. | yieldFrom .. => "yield expression"
  | await .. => "await expression"
  | listComp .. => "list comprehension"
  | setComp .. => "set comprehension"
  | dictComp .. => "dict comprehension"
  | dict .. => "dict literal"
  | set .. => "set display"
  | formatted .. | field .. => "f-string expression"
  | constant .none _ => "None"
  | constant (.bool true) _ => "True"
  | constant (.bool false) _ => "False"
  | constant .ellipsis _ => "ellipsis"
  | constant .. => "literal"
  | compare .. => "comparison"
  | conditional .. => "conditional expression"
  | named .. => "named expression"
  | slice .. => "slice"

inductive TargetUse where
  | assignment
  | deletion
  | loop
  deriving DecidableEq

mutual

/-- The first part of an expression that cannot be a target. -/
def Expr.badTarget? (use : TargetUse) : Expr → Option Expr
  | .list items _ _ | .tuple items _ _ => badTargets? use items
  | .starred value a s =>
    if use == .deletion then some (.starred value a s) else value.badTarget? use
  | .compare left relations rights s =>
    if use == .loop then
      if relations.head? == some .isIn then left.badTarget? use else none
    else some (.compare left relations rights s)
  | .name .. | .subscript .. | .member .. => none
  | e => some e

def badTargets? (use : TargetUse) : List Expr → Option Expr
  | [] => none
  | e :: es =>
    match e.badTarget? use with
    | some bad => some bad
    | none => badTargets? use es

end

/-- Changes what a target is used for, down to its parts. -/
def Expr.withAccess (a : Access) : Expr → Expr
  | .starred value _ s => .starred (value.withAccess a) a s
  | .list items _ s => .list (changeAll a items) a s
  | .tuple items _ s => .tuple (changeAll a items) a s
  | .subscript value index _ s => .subscript value index a s
  | e => e
where
  changeAll (a : Access) : List Expr → List Expr
    | [] => []
    | e :: es => e.withAccess a :: changeAll a es

namespace Parse

/-- Ends the reading if an expression has a part that cannot be a target. -/
def blameTarget (use : TargetUse) (e : Expr) : Parse Unit :=
  match e.badTarget? use with
  | some bad =>
    complainAt bad.span (if use == .deletion then .deletes bad.word else .assigns bad.word)
  | none => return ()

end Parse

end Source
end BranchCover
