import BranchCover.Proofs.Reading

/-! Decisions in an outline, and what has none: expressions, annotations, parameters and declarations
of names. -/
namespace BranchCover

namespace Node

/-- The tests and switches below a node, with the node itself. -/
def decisions (n : Node) : List Node :=
  n.findAll [.ifStmt, .switch]

def isDecision : Node → Bool
  | ifStmt .. | switch .. => true
  | _ => false

theorem isOf_decision (n : Node) : n.isOf [.ifStmt, .switch] = n.isDecision := by
  cases n <;> try rfl
  case method head _ _ _ _ => cases h : head.isConstructor <;> simp [isOf, kind, h] <;> rfl

theorem decisions_eq (n : Node) :
    n.decisions = (if n.isDecision then [n] else []) ++ n.children.flatMap decisions := by
  have h := findAll_eq [.ifStmt, .switch] n
  rw [isOf_decision] at h
  rw [decisions, h]
  cases n.isDecision <;> rfl

theorem decisions_block (ns : List Node) (s : Span) :
    (block ns s).decisions = ns.flatMap decisions := by
  rw [decisions_eq]
  rfl

theorem decisions_compound (label : String) (items : List Node) (s : Span) :
    (compound label items s).decisions = items.flatMap decisions := by
  rw [decisions_eq]
  rfl

theorem decisions_defaultClause (body : Node) (s : Span) :
    (defaultClause body s).decisions = body.decisions := by
  rw [decisions_eq]
  simp [isDecision, children]

theorem decisions_caseClause {test body : Node} {s : Span} (h : test.decisions = []) :
    (caseClause test body s).decisions = body.decisions := by
  rw [decisions_eq]
  simp [isDecision, children, h]

theorem undivided {n : Node} (hn : n.isDecision = false)
    (hc : n.children.flatMap decisions = []) : n.decisions = [] := by
  rw [decisions_eq, hn, hc]
  rfl

theorem undivided_of_plain {n : Node} (h : n.Throughout IsPlain) : n.decisions = [] := by
  apply h.findAll_eq_nil
  intro m hm
  rw [isOf_decision]
  cases m <;> first | rfl | cases hm

theorem undivided_of_every {ns : List Node} (h : Every IsPlain ns) :
    ns.flatMap decisions = [] :=
  List.flatMap_eq_nil_iff.mpr fun n hn => undivided_of_plain (h n hn)

end Node

namespace Outline

open Source

theorem undivided_ofExpr (e : Expr) : (ofExpr e).decisions = [] :=
  Node.undivided_of_plain (plain_ofExpr e)

theorem undivided_ofOptional (o : Option Expr) : (ofOptional o).flatMap Node.decisions = [] :=
  Node.undivided_of_every (plain_ofOptional o)

theorem undivided_of_declared {n : Node} (h : Declared n) : n.decisions = [] := by
  apply Node.undivided _ (Node.undivided_of_every h.plain)
  have hkind := h.isOf
  cases n <;> first | rfl | cases hkind

theorem undivided_of_all_declared {ns : List Node} (h : ∀ n ∈ ns, Declared n) :
    ns.flatMap Node.decisions = [] :=
  List.flatMap_eq_nil_iff.mpr fun n hn => undivided_of_declared (h n hn)

theorem FunctionOf.decisions_eq {body n : Node} (h : FunctionOf body n) :
    n.decisions = body.decisions := by
  cases h with
  | method head s hparams hreturns =>
    rw [Node.decisions_eq]
    simp [Node.isDecision, Node.children, undivided_of_all_declared hparams,
      Node.undivided_of_every hreturns]
  | compound label s hbefore hafter =>
    rw [Node.decisions_compound, List.flatMap_append, List.flatMap_cons,
      Node.undivided_of_every hbefore, Node.undivided_of_every hafter]
    simp

/-- A statement that is read in its place has an outline of its own too, with the same decisions. -/
theorem ReadAs.exists_of_decisions {r : Reader} {s : Stmt} {ns : List Node} (h : ReadAs r s ns) :
    ∃ n, ofStmt r s = .ok n ∧ ns.flatMap Node.decisions = n.decisions := by
  cases h with
  | node hn => exact ⟨_, hn, List.flatMap_singleton ..⟩
  | declarations hsimple hdeclared =>
    obtain ⟨n, hn, hplain⟩ := exists_plain_of_isSimple r hsimple
    exact ⟨n, hn, by rw [undivided_of_all_declared hdeclared, Node.undivided_of_plain hplain]⟩

end Outline
end BranchCover
