import BranchCover.Outline.Excerpt
import BranchCover.Outline.Search
import BranchCover.Report.Note

/-! Decisions in a region of code. A block holds the decisions found in its statements; a decision
holds its conditions and the blocks that they control. -/
namespace BranchCover

structure Comparison where
  left : Node
  relation : Source.Relation
  right : Node

structure Condition where
  comparison : Option Comparison
  text : String
  node : Node

mutual

inductive Block where
  | mk (branches : List Branch)

inductive Branch where
  | ifElse (condition : Condition) (body : Block) (orelse : Option Block)
  | switch (arms : List Arm) (default : Option Block)
  | ternary (condition : Condition)

inductive Arm where
  | mk (condition : Condition) (body : Block)

end

instance : Inhabited Block := ⟨.mk []⟩

namespace Block

def branches : Block → List Branch
  | mk bs => bs

end Block

namespace Arm

def condition : Arm → Condition
  | mk c _ => c

def body : Arm → Block
  | mk _ b => b

end Arm

namespace Branch

def label : Branch → String
  | ifElse .. => "if"
  | switch .. => "switch"
  | ternary _ => "ternary"

def conditions : Branch → List Condition
  | ifElse c _ _ | ternary c => [c]
  | switch arms _ => arms.map Arm.condition

def bodies : Branch → List Block
  | ifElse _ body _ => [body]
  | switch arms _ => arms.map Arm.body
  | ternary _ => []

/-- The block for when no condition holds. -/
def orelse : Branch → Option Block
  | ifElse _ _ orelse => orelse
  | switch _ default => default
  | ternary _ => none

end Branch

namespace Condition

def ofTest (lines : List (List Char)) (test : Node) : Condition :=
  let comparison := match test with
    | .binary left relation right _ => some ⟨left, relation, right⟩
    | _ => none
  ⟨comparison, String.ofList (Excerpt.within lines test.span), test⟩

/-- The condition of a case: the subject equals the test. -/
def ofCase (lines : List (List Char)) (subject test clause : Node) : Condition :=
  let text := Excerpt.within lines subject.span ++ " == ".toList ++ Excerpt.within lines test.span
  ⟨some ⟨subject, .eq, test⟩, String.ofList text, clause⟩

end Condition

namespace Block

/-- The decisions at a node: a block has those of its statements, and a node without a decision of
its own those of the first part that has any. -/
def branchesAt (lines : List (List Char)) (n : Node) : List Branch :=
  match n with
  | .block statements s => statements.attach.flatMap fun ⟨c, h⟩ =>
    have := Node.sizeOf_lt_of_mem_children (n := .block statements s) h
    branchesAt lines c
  | .ifStmt test body orelse s =>
    [.ifElse (.ofTest lines test) (.mk (branchesAt lines body))
      (orelse.attach.map fun ⟨c, h⟩ =>
        have := Node.sizeOf_lt_of_mem_children (n := .ifStmt test body orelse s) (c := c)
          (by simp [Node.children, h])
        .mk (branchesAt lines c))]
  | .switch subject clauses s =>
    let arms := clauses.attach.filterMap fun ⟨c, h⟩ =>
      have := Node.sizeOf_lt_of_mem_children (n := .switch subject clauses s) (c := c)
        (by simp [Node.children, h])
      match c with
      | .caseClause test body s =>
        some (.mk (.ofCase lines subject test (.caseClause test body s))
          (.mk (branchesAt lines body)))
      | _ => none
    let defaults := clauses.attach.filterMap fun ⟨c, h⟩ =>
      have := Node.sizeOf_lt_of_mem_children (n := .switch subject clauses s) (c := c)
        (by simp [Node.children, h])
      match c with
      | .defaultClause body _ => some (.mk (branchesAt lines body))
      | _ => none
    [.switch arms defaults.getLast?]
  | .conditional test _ _ _ => [.ternary (.ofTest lines test)]
  | n =>
    (n.children.attach.findSome? fun ⟨c, h⟩ =>
      have := Node.sizeOf_lt_of_mem_children h
      match branchesAt lines c with
      | [] => none
      | b :: bs => some (b :: bs)).getD []
termination_by sizeOf n
decreasing_by all_goals (simp_all; try omega)

@[simp] theorem branchesAt_block (lines : List (List Char)) (ss : List Node) (s : Span) :
    branchesAt lines (.block ss s) = ss.flatMap (branchesAt lines) := by
  rw [branchesAt, List.flatMap_subtype (g := branchesAt lines) (by intros; rfl)]
  simp

@[simp] theorem branchesAt_ifStmt (lines : List (List Char)) (t b : Node) (o : Option Node)
    (s : Span) : branchesAt lines (.ifStmt t b o s) =
      [.ifElse (.ofTest lines t) (.mk (branchesAt lines b))
        (o.map fun c => .mk (branchesAt lines c))] := by
  rw [branchesAt]
  cases o <;> simp

@[simp] theorem branchesAt_conditional (lines : List (List Char)) (t b o : Node) (s : Span) :
    branchesAt lines (.conditional t b o s) = [.ternary (.ofTest lines t)] := by
  rw [branchesAt]

def armOf (lines : List (List Char)) (subject : Node) : Node → Option Arm
  | .caseClause test body s =>
    some (.mk (.ofCase lines subject test (.caseClause test body s)) (.mk (branchesAt lines body)))
  | _ => none

def defaultOf (lines : List (List Char)) : Node → Option Block
  | .defaultClause body _ => some (.mk (branchesAt lines body))
  | _ => none

@[simp] theorem branchesAt_switch (lines : List (List Char)) (x : Node) (cs : List Node)
    (s : Span) : branchesAt lines (.switch x cs s) =
      [.switch (cs.filterMap (armOf lines x)) (cs.filterMap (defaultOf lines)).getLast?] := by
  rw [branchesAt]
  rw [List.filterMap_subtype (g := armOf lines x), List.filterMap_subtype (g := defaultOf lines)]
  · simp
  · intro c h
    cases c <;> rfl
  · intro c h
    cases c <;> rfl

def found? (lines : List (List Char)) (c : Node) : Option (List Branch) :=
  match branchesAt lines c with
  | [] => none
  | b :: bs => some (b :: bs)

theorem branchesAt_compound (lines : List (List Char)) (l : String) (is : List Node) (s : Span) :
    branchesAt lines (.compound l is s) = (is.findSome? (found? lines)).getD [] := by
  rw [branchesAt]
  · rw [List.findSome?_subtype (g := found? lines) (by intros; rfl)]
    simp [Node.children]
  all_goals simp

/-- The items up to the first one that passes a test, with that one. -/
def upToFirst {α : Type} (p : α → Bool) : List α → List α
  | [] => []
  | a :: as => if p a then [a] else a :: upToFirst p as

/-- Statements that commonly hold no decision. -/
def quietLabels : List String :=
  ["Assign", "AugAssign", "Return", "Pass", "Import", "ImportFrom", "Raise"]

def notesAt (lines : List (List Char)) (n : Node) : List Note :=
  match n with
  | .ifStmt test body orelse s =>
    notesAt lines body ++ orelse.toList.attach.flatMap fun ⟨c, h⟩ =>
      have := Node.sizeOf_lt_of_mem_children (n := .ifStmt test body orelse s) (c := c)
        (by simp_all [Node.children])
      notesAt lines c
  | .switch subject clauses s =>
    clauses.attach.flatMap fun ⟨c, h⟩ =>
      have := Node.sizeOf_lt_of_mem_children (n := .switch subject clauses s) (c := c)
        (by simp [Node.children, h])
      match c with
      | .caseClause _ body _ | .defaultClause body _ => notesAt lines body
      | _ => []
  | .conditional .. => []
  | .block statements s => statements.attach.flatMap fun ⟨c, h⟩ =>
    have := Node.sizeOf_lt_of_mem_children (n := .block statements s) h
    notesAt lines c
  | n =>
    let here := match n with
      | .compound label _ s =>
        if quietLabels.contains label then []
        else [Note.descending label s.line (String.ofList (Excerpt.toLineEnd lines s))]
      | _ => []
    here ++ (upToFirst (fun c => !(branchesAt lines c.1).isEmpty) n.children.attach).flatMap
      fun ⟨c, h⟩ =>
        have := Node.sizeOf_lt_of_mem_children h
        notesAt lines c
termination_by sizeOf n
decreasing_by all_goals (simp_all; try omega)

end Block
end BranchCover
