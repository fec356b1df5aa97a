import BranchCover.Proofs.Preorder
import BranchCover.Proofs.Reaching

/-! The decisions at a node and a search for decisions. Whatever node is read, its decisions are those of
some tests, matches and conditional expressions in it, in the order of a search, and the first of them is
the one that the search finds first. So a method has a sole scenario under its bare name exactly if
there is no decision in its body. -/
namespace BranchCover

namespace Node

/-- The kinds of node at which code divides. -/
def decisionKinds : List NodeKind :=
  [.ifStmt, .switch, .conditional]

/-- The decision that a test, a match or a conditional expression is. -/
def decision? (lines : List (List Char)) : Node → Option Branch
  | ifStmt test body orelse _ =>
    some (.ifElse (.ofTest lines test) (.mk (Block.branchesAt lines body))
      (orelse.map fun c => .mk (Block.branchesAt lines c)))
  | switch subject clauses _ =>
    some (.switch (clauses.filterMap (Block.armOf lines subject))
      (clauses.filterMap (Block.defaultOf lines)).getLast?)
  | conditional test _ _ _ => some (.ternary (.ofTest lines test))
  | _ => none

variable (lines : List (List Char))

theorem isOf_decisionKinds (n : Node) : n.isOf decisionKinds = (n.decision? lines).isSome := by
  cases n <;> try rfl
  case method head _ _ _ _ => cases h : head.isConstructor <;> simp [isOf, kind, h] <;> rfl

theorem exists_decision {n d : Node} (h : d ∈ n.findAll decisionKinds) :
    ∃ b, d.decision? lines = some b := by
  rw [← Option.isSome_iff_exists, ← isOf_decisionKinds]
  exact isOf_of_mem_findAll h

theorem findFirst_eq_decision (n : Node) :
    n.findFirst decisionKinds none =
      if (n.decision? lines).isSome then some n
      else n.children.findSome? (findFirst decisionKinds none) := by
  rw [findFirst_eq, isOf_decisionKinds lines]
  simp [isNamed]

theorem findAll_eq_decision (n : Node) :
    n.findAll decisionKinds =
      if (n.decision? lines).isSome then n :: n.children.flatMap (findAll decisionKinds)
      else n.children.flatMap (findAll decisionKinds) := by
  rw [findAll_eq, isOf_decisionKinds lines]

end Node

namespace Block

variable {lines : List (List Char)} {n d : Node}

theorem branchesAt_of_decision {b : Branch} (h : n.decision? lines = some b) :
    branchesAt lines n = [b] := by
  cases n <;> simp only [Node.decision?, Option.some.injEq, reduceCtorEq] at h
  case ifStmt => rw [branchesAt_ifStmt, h]
  case switch => rw [branchesAt_switch, h]
  case conditional => rw [branchesAt_conditional, h]

/-- What is neither a decision nor a block has the decisions of its first part that has any. -/
theorem branchesAt_of_no_decision (h : n.decision? lines = none) (hb : ∀ ss s, n ≠ .block ss s) :
    branchesAt lines n = (n.children.findSome? (found? lines)).getD [] := by
  unfold branchesAt
  split
  · exact absurd rfl (hb _ _)
  · cases h
  · cases h
  · cases h
  · rw [List.findSome?_subtype (g := found? lines) (by intros; rfl)]
    simp [Node.children]

/-- Decisions that are read stand at some nodes, the first of which is told. -/
structure ReadAt (lines : List (List Char)) (bs : List Branch) (first : Option Node)
    (all ds : List Node) : Prop where
  branches : bs = ds.filterMap (Node.decision? lines)
  first : ds.head? = first
  sublist : ds.Sublist all

namespace ReadAt

variable {bs bs' : List Branch} {first first' : Option Node} {all all' ds ds' : List Node}

theorem nil (all : List Node) : ReadAt lines [] none all [] where
  branches := rfl
  first := rfl
  sublist := List.nil_sublist all

theorem append (h : ReadAt lines bs first all ds) (h' : ReadAt lines bs' first' all' ds') :
    ReadAt lines (bs ++ bs') (first.or first') (all ++ all') (ds ++ ds') where
  branches := by rw [h.branches, h'.branches, List.filterMap_append]
  first := by rw [List.head?_append, h.first, h'.first]
  sublist := h.sublist.append h'.sublist

theorem grow (h : ReadAt lines bs first all ds) (hall : all.Sublist all') :
    ReadAt lines bs first all' ds :=
  { h with sublist := h.sublist.trans hall }

theorem first_eq_none (h : ReadAt lines [] first (n.findAll Node.decisionKinds) ds) :
    first = none := by
  have hnone := List.filterMap_eq_nil_iff.mp h.branches.symm
  rw [← h.first, List.head?_eq_none_iff, List.eq_nil_iff_forall_not_mem]
  intro d hd
  obtain ⟨b, hb⟩ := Node.exists_decision lines (h.sublist.subset hd)
  rw [hnone d hd] at hb
  cases hb

end ReadAt

theorem exists_readAt_flatMap {ns : List Node}
    (h : ∀ c ∈ ns, ∃ ds, ReadAt lines (branchesAt lines c) (c.findFirst Node.decisionKinds none)
      (c.findAll Node.decisionKinds) ds) :
    ∃ ds, ReadAt lines (ns.flatMap (branchesAt lines))
      (ns.findSome? (Node.findFirst Node.decisionKinds none))
      (ns.flatMap (Node.findAll Node.decisionKinds)) ds := by
  induction ns with
  | nil => exact ⟨[], .nil _⟩
  | cons c ns ih =>
    obtain ⟨ds, hds⟩ := h c List.mem_cons_self
    obtain ⟨ds', hds'⟩ := ih fun x hx => h x (List.mem_cons_of_mem _ hx)
    refine ⟨ds ++ ds', ?_⟩
    have hboth := hds.append hds'
    rw [List.flatMap_cons, List.flatMap_cons, List.findSome?_cons]
    cases hfirst : c.findFirst Node.decisionKinds none <;> simpa [hfirst] using hboth

theorem exists_readAt_findSome? {ns : List Node}
    (h : ∀ c ∈ ns, ∃ ds, ReadAt lines (branchesAt lines c) (c.findFirst Node.decisionKinds none)
      (c.findAll Node.decisionKinds) ds) :
    ∃ ds, ReadAt lines ((ns.findSome? (found? lines)).getD [])
      (ns.findSome? (Node.findFirst Node.decisionKinds none))
      (ns.flatMap (Node.findAll Node.decisionKinds)) ds := by
  induction ns with
  | nil => exact ⟨[], .nil _⟩
  | cons c ns ih =>
    obtain ⟨ds, hds⟩ := h c List.mem_cons_self
    cases hc : branchesAt lines c with
    | nil =>
      obtain ⟨ds', hds'⟩ := ih fun x hx => h x (List.mem_cons_of_mem _ hx)
      rw [hc] at hds
      have hskip : found? lines c = none := by simp [found?, hc]
      rw [List.findSome?_cons, List.findSome?_cons, hskip, hds.first_eq_none, List.flatMap_cons]
      exact ⟨ds', hds'.grow (List.sublist_append_right _ _)⟩
    | cons b bs =>
      have hfound : found? lines c = some (b :: bs) := by simp [found?, hc]
      rw [hc] at hds
      obtain ⟨d, hd⟩ : ∃ d, c.findFirst Node.decisionKinds none = some d := by
        cases ds with
        | nil => cases hds.branches
        | cons d ds => exact ⟨d, hds.first.symm⟩
      rw [List.findSome?_cons, List.findSome?_cons, hfound, hd, List.flatMap_cons]
      rw [hd] at hds
      exact ⟨ds, hds.grow (List.sublist_append_left _ _)⟩

/-- By induction on the node: its decisions are those of nodes in it, in the order of a search, and
the first of these nodes is what the search finds first. -/
theorem exists_readAt (lines : List (List Char)) (n : Node) :
    ∃ ds, ReadAt lines (branchesAt lines n) (n.findFirst Node.decisionKinds none)
      (n.findAll Node.decisionKinds) ds := by
  induction n using Node.induction_on_children with
  | step n ih =>
    rw [Node.findFirst_eq_decision lines, Node.findAll_eq_decision lines]
    cases hdecision : n.decision? lines with
    | some b =>
      rw [branchesAt_of_decision hdecision]
      exact ⟨[n], by simp [hdecision], rfl, by simp⟩
    | none =>
      simp only [Option.isSome_none, Bool.false_eq_true, if_false]
      by_cases hb : ∃ ss s, n = .block ss s
      · obtain ⟨ss, s, rfl⟩ := hb
        rw [branchesAt_block]
        exact exists_readAt_flatMap ih
      · rw [branchesAt_of_no_decision hdecision fun ss s h => hb ⟨ss, s, h⟩]
        exact exists_readAt_findSome? ih

theorem exists_of_findFirst (h : n.findFirst Node.decisionKinds none = some d) :
    ∃ b bs, branchesAt lines n = b :: bs ∧ d.decision? lines = some b := by
  obtain ⟨ds, hds⟩ := exists_readAt lines n
  obtain ⟨rest, rfl⟩ : ∃ rest, ds = d :: rest := List.head?_eq_some_iff.mp (hds.first.trans h)
  obtain ⟨b, hb⟩ := Node.exists_decision lines (hds.sublist.subset List.mem_cons_self)
  exact ⟨b, rest.filterMap (Node.decision? lines), by simp [hds.branches, hb], hb⟩

theorem branchesAt_eq_nil_iff (lines : List (List Char)) (n : Node) :
    branchesAt lines n = [] ↔ n.findFirst Node.decisionKinds none = none := by
  constructor
  · intro h
    obtain ⟨ds, hds⟩ := exists_readAt lines n
    rw [h] at hds
    exact hds.first_eq_none
  · intro h
    obtain ⟨ds, hds⟩ := exists_readAt lines n
    rw [hds.branches, List.head?_eq_none_iff.mp (hds.first.trans h)]
    rfl

end Block

namespace Member

variable {m : Member}

theorem scenarioLabel_ne_name (m : Member) (k : Nat) : m.scenarioLabel k ≠ m.method.name := by
  intro h
  have hlength := congrArg String.length h
  have hmark : " (".length = 2 := by decide
  simp [scenarioLabel, toString, hmark] at hlength
  omega

theorem scenarios_of_no_branches (h : m.method.body = some (.mk [])) :
    m.scenarios.1 = .ok [⟨m.method.name, m.invocation [], [], none⟩] := by
  simp only [scenarios, compose, h]
  rfl

theorem label_ne_name {b : Branch} {bs : List Branch} (hbody : m.method.body = some (.mk (b :: bs)))
    {ss : List Scenario} (h : m.scenarios.1 = .ok ss) :
    ∀ s ∈ ss, s.label ≠ m.method.name := by
  intro s hs
  obtain ⟨k, hk⟩ := List.mem_iff_getElem?.mp hs
  rw [scenarios_of_branches hbody h, getElem?_scenariosFrom] at hk
  obtain ⟨e, -, rfl⟩ := Option.map_eq_some_iff.mp hk
  exact m.scenarioLabel_ne_name _

end Member

namespace Block

/-- The decisions at a node and a search for decisions agree: there is a decision if the search finds
a node, and the first one is the decision that this node is. A method whose body is such a node has a
sole scenario under its bare name, with a made up value for each parameter and nothing else, if and only
if there is no test, match or conditional expression in the body. -/
theorem first_decision_found (lines : List (List Char)) (n : Node) :
    (branchesAt lines n ≠ [] ↔ ∃ d, n.findFirst [.ifStmt, .switch, .conditional] none = some d) ∧
    (∀ d, n.findFirst [.ifStmt, .switch, .conditional] none = some d →
      ∃ b bs, branchesAt lines n = b :: bs ∧ d.decision? lines = some b) ∧
    ∀ (s : Property.Scope) (head : MethodHead) (params : List Node) (owner : Option Class)
      (options : Options),
      let m : Member := ⟨.ofParts lines s head params n, owner, options⟩
      ((∃ x, m.scenarios.1 = .ok [x] ∧ x.label = head.name) ↔
        n.findAll [.ifStmt, .switch, .conditional] = []) ∧
      (n.findAll [.ifStmt, .switch, .conditional] = [] →
        ∃ x, m.scenarios.1 = .ok [x] ∧ x.label = head.name ∧ x.assignments = [] ∧
          x.comment = none ∧ x.invocation.receiver = m.receiver ∧
          x.invocation.args =
            m.method.parameters.map fun p => ⟨p.name.getD "", .make p, p.kwOnly⟩) := by
  have hfirst : n.findFirst Node.decisionKinds none = none ↔ n.findAll Node.decisionKinds = [] := by
    simp [Node.findFirst_eq_find?, Node.isNamed, List.eq_nil_iff_forall_not_mem]
  refine ⟨?found, fun d hd => exists_of_findFirst hd, ?composed⟩
  case found =>
    rw [← Option.isSome_iff_exists, ← Option.ne_none_iff_isSome]
    exact not_congr (branchesAt_eq_nil_iff lines n)
  case composed =>
    intro s head params owner options m
    have hnone : n.findAll [.ifStmt, .switch, .conditional] = [] →
        m.scenarios.1 = .ok [⟨head.name, m.invocation [], [], none⟩] := by
      intro h
      have hbody : m.method.body = some (.mk []) := by
        simp [m, Method.ofParts, (branchesAt_eq_nil_iff lines n).mpr (hfirst.mpr h)]
      exact Member.scenarios_of_no_branches hbody
    refine ⟨⟨?_, fun h => ⟨_, hnone h, rfl⟩⟩, fun h => ⟨_, hnone h, rfl, rfl, rfl, rfl, ?_⟩⟩
    · rintro ⟨x, hx, hlabel⟩
      rw [← Node.decisionKinds, ← hfirst, ← branchesAt_eq_nil_iff lines]
      cases hbranches : branchesAt lines n with
      | nil => rfl
      | cons b bs =>
        have hbody : m.method.body = some (.mk (b :: bs)) := by
          simp [m, Method.ofParts, hbranches]
        exact absurd hlabel (Member.label_ne_name hbody hx x List.mem_cons_self)
    · simp [Member.invocation, baseArguments, Overrides.find?]

end Block
end BranchCover
