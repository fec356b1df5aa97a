import BranchCover.Proofs.Standing
import BranchCover.Proofs.Undivided

/-! Which tests and matches of a source have a node in its outline: those that do not stand in a case
that is not shown. Each has the outline of its own, with its own place. -/
namespace BranchCover
namespace Outline

open Source

/-- A node is the outline of a test or match that stands in statements where an outline shows it. -/
def Shows (r : Reader) (ss : List Stmt) (d : Node) : Prop :=
  ∃ x, Within Stmt.shownParts x ss ∧ x.isDecision ∧ ofStmt r x = .ok d

/-- The nodes are the outlines of the tests and matches that are shown, each of which has one. -/
structure Represents (r : Reader) (ss : List Stmt) (ds : List Node) : Prop where
  shown : ∀ d ∈ ds, Shows r ss d
  found : ∀ x, Within Stmt.shownParts x ss → x.isDecision → ∃ d ∈ ds, ofStmt r x = .ok d

namespace Represents

variable {r : Reader} {ss ts : List Stmt} {ds es : List Node} {s : Stmt} {n : Node}

theorem nil : Represents r [] [] where
  shown := by simp
  found := by simp

theorem append (hs : Represents r ss ds) (ht : Represents r ts es) :
    Represents r (ss ++ ts) (ds ++ es) where
  shown d hd := by
    rcases List.mem_append.mp hd with hd | hd
    · obtain ⟨x, hx, hdec, hof⟩ := hs.shown d hd
      exact ⟨x, Within.append.mpr (.inl hx), hdec, hof⟩
    · obtain ⟨x, hx, hdec, hof⟩ := ht.shown d hd
      exact ⟨x, Within.append.mpr (.inr hx), hdec, hof⟩
  found x hx hdec := by
    rcases Within.append.mp hx with hx | hx
    · obtain ⟨d, hd, hof⟩ := hs.found x hx hdec
      exact ⟨d, List.mem_append_left _ hd, hof⟩
    · obtain ⟨d, hd, hof⟩ := ht.found x hx hdec
      exact ⟨d, List.mem_append_right _ hd, hof⟩

theorem of_mem_iff (h : Represents r ss ds) (hes : ∀ d, d ∈ es ↔ d ∈ ds) :
    Represents r ss es where
  shown d hd := h.shown d ((hes d).mp hd)
  found x hx hdec := by
    obtain ⟨d, hd, hof⟩ := h.found x hx hdec
    exact ⟨d, (hes d).mpr hd, hof⟩

theorem of_parts (hs : s.isDecision = false) (h : Represents r s.shownParts ds) :
    Represents r [s] ds where
  shown d hd := by
    obtain ⟨x, hx, hdec, hof⟩ := h.shown d hd
    exact ⟨x, Within.singleton.mpr (.inr hx), hdec, hof⟩
  found x hx hdec := by
    rcases Within.singleton.mp hx with rfl | hx
    · rw [hs] at hdec
      cases hdec
    · exact h.found x hx hdec

theorem of_decision (hs : s.isDecision) (hof : ofStmt r s = .ok n)
    (h : Represents r s.shownParts ds) : Represents r [s] (n :: ds) where
  shown d hd := by
    rcases List.mem_cons.mp hd with rfl | hd
    · exact ⟨s, Within.singleton.mpr (.inl rfl), hs, hof⟩
    · obtain ⟨x, hx, hdec, hx'⟩ := h.shown d hd
      exact ⟨x, Within.singleton.mpr (.inr hx), hdec, hx'⟩
  found x hx hdec := by
    rcases Within.singleton.mp hx with rfl | hx
    · exact ⟨n, List.mem_cons_self, hof⟩
    · obtain ⟨d, hd, hx'⟩ := h.found x hx hdec
      exact ⟨d, List.mem_cons_of_mem _ hd, hx'⟩

theorem mem_iff (h : Represents r ss ds) {d : Node} : d ∈ ds ↔ Shows r ss d := by
  constructor
  · exact h.shown d
  · rintro ⟨x, hx, hdec, hof⟩
    obtain ⟨d', hd', hof'⟩ := h.found x hx hdec
    rw [hof] at hof'
    exact Except.ok.inj hof' ▸ hd'

theorem simple (hs : s.isDecision = false) (hp : s.shownParts = []) (hn : n.decisions = []) :
    Represents r [s] n.decisions := by
  rw [hn]
  exact of_parts hs (hp ▸ nil)

end Represents

/-! The tests of a pattern say of each of its leaves whether it matches anything. -/

mutual

theorem isNone_tests : ∀ p : Pattern, (tests p).map Option.isNone = p.leaves.map Pattern.isOpen
  | .value e s => rfl
  | .singleton c s => rfl
  | .alternatives ps s => by
    rw [tests, Pattern.leaves]
    exact isNone_testsOfAll ps
  | .capture none name s => rfl
  | .capture (some p) name s => by
    rw [tests, Pattern.leaves]
    exact isNone_tests p
  | .sequence ps s => rfl
  | .mapping ks ps rest s => rfl
  | .object c ps names named s => rfl
  | .star name s => rfl

theorem isNone_testsOfAll : ∀ ps : List Pattern,
    (tests.testsOfAll ps).map Option.isNone = (Pattern.leaves.leavesOfAll ps).map Pattern.isOpen
  | [] => rfl
  | p :: ps => by
    rw [tests.testsOfAll, Pattern.leaves.leavesOfAll, List.map_append, List.map_append,
      isNone_tests p, isNone_testsOfAll ps]

end

theorem any_isNone_tests (c : MatchCase) : (tests c.pattern).any (·.isNone) = c.isOpen := by
  have h := congrArg (List.any · id) (isNone_tests c.pattern)
  simpa [List.any_map, MatchCase.isOpen] using h

theorem isShown_eq (taken : Bool) (c : MatchCase) :
    c.isShown taken = (tests c.pattern).any fun t => !(taken && t.isNone) := by
  have h := congrArg (List.any · fun b => !(taken && b)) (isNone_tests c.pattern)
  simpa [List.any_map, MatchCase.isShown, Function.comp_def] using h.symm

/-- There is a clause for a case unless all its tests match anything and an earlier case does too. -/
theorem clausesOf_eq_nil_iff {body : Node} {s : Span} {taken : Bool} {ts : List (Option Node)} :
    clausesOf body s taken ts = [] ↔ (ts.any fun t => !(taken && t.isNone)) = false := by
  induction ts generalizing taken with
  | nil => simp [clausesOf]
  | cons t ts ih =>
    cases t with
    | some t => simp [clausesOf]
    | none => cases taken <;> simp [clausesOf, ih]

/-- One more clause with the same body has the decisions of the body once more. -/
theorem mem_decisions_cons {body c d : Node} {cs : List Node} (hc : c.decisions = body.decisions)
    (hcs : d ∈ cs.flatMap Node.decisions → d ∈ body.decisions) :
    d ∈ (c :: cs).flatMap Node.decisions ↔ c :: cs ≠ [] ∧ d ∈ body.decisions := by
  rw [List.flatMap_cons, List.mem_append, hc, or_iff_left_of_imp hcs]
  simp

theorem mem_decisions_clausesOf {body d : Node} {s : Span} {taken : Bool} {ts : List (Option Node)}
    (hts : ∀ t, some t ∈ ts → t.decisions = []) :
    d ∈ (clausesOf body s taken ts).flatMap Node.decisions ↔
      clausesOf body s taken ts ≠ [] ∧ d ∈ body.decisions := by
  induction ts generalizing taken with
  | nil => simp [clausesOf]
  | cons t ts ih =>
    have ih' := fun taken => @ih taken fun t ht => hts t (List.mem_cons_of_mem _ ht)
    cases t with
    | some t =>
      have ht := hts t List.mem_cons_self
      exact mem_decisions_cons (Node.decisions_caseClause ht) fun h => ((ih' _).mp h).2
    | none =>
      cases taken with
      | true => exact ih' true
      | false => exact mem_decisions_cons (Node.decisions_defaultClause _ _) fun h => ((ih' _).mp h).2

theorem represents_clausesOf {r : Reader} {taken : Bool} {c : MatchCase} {b : List Node} {s t : Span}
    (h : Represents r c.body (b.flatMap Node.decisions)) :
    Represents r (if c.isShown taken then c.body else [])
      ((clausesOf (.block b s) t taken (tests c.pattern)).flatMap Node.decisions) := by
  have hmem : ∀ d, d ∈ (clausesOf (.block b s) t taken (tests c.pattern)).flatMap Node.decisions ↔
      c.isShown taken ∧ d ∈ b.flatMap Node.decisions := by
    intro d
    rw [mem_decisions_clausesOf fun t ht =>
      Node.undivided_of_plain (plain_tests c.pattern t ht), ne_eq, clausesOf_eq_nil_iff,
      ← isShown_eq, Bool.not_eq_false, Node.decisions_block]
  cases hc : c.isShown taken with
  | true => exact h.of_mem_iff (by simpa [hc] using hmem)
  | false => exact Represents.nil.of_mem_iff (by simpa [hc] using hmem)

/-- A block is kept as one node, unless it is empty. -/
theorem toList_head?_ofBlock {r : Reader} {s : Span} {ss : List Stmt} {ns : List Node}
    (h : ofBlock r s ss = .ok ns) : ns.head?.toList = ns := by
  obtain ⟨os, -, rfl⟩ := exists_of_ofBlock h
  split <;> rfl

theorem represents_ofBlock {r : Reader} {s : Span} {ss : List Stmt} {ns : List Node}
    (hss : ∀ {os}, ofStmts r ss = .ok os → Represents r ss (os.flatMap Node.decisions))
    (h : ofBlock r s ss = .ok ns) : Represents r ss (ns.flatMap Node.decisions) := by
  obtain ⟨os, hos, rfl⟩ := exists_of_ofBlock h
  split
  · rename_i hempty
    obtain rfl := List.isEmpty_iff.mp hempty
    exact .nil
  · rw [List.flatMap_singleton, Node.decisions_block]
    exact hss hos

mutual

/-- By induction on the statement: what its outline has below it is what its parts show. -/
theorem represents_ofStmt (r : Reader) : ∀ (s : Stmt) {n : Node}, ofStmt r s = .ok n →
    Represents r [s] n.decisions
  | .function name ps body ds returns isAsync s, n, h => by
    rw [ofStmt] at h
    obtain ⟨b, hb, hfunction⟩ := exists_of_method h
    rw [hfunction.decisions_eq, Node.decisions_block]
    exact .of_parts rfl (represents_ofStmts r body hb)
  | .classDef name bases ks body ds s, n, h => by
    obtain ⟨items, hitems, rfl⟩ := ofStmt_classDef h
    rw [Node.decisions_eq]
    exact .of_parts rfl (represents_ofMembers r s (boundNames body) false body hitems)
  | .ifStmt test body orelse s, n, h => by
    obtain ⟨b, o, hb, ho, rfl⟩ := ofStmt_ifStmt_parts h
    have hparts := (represents_ofStmts r body hb).append
      (represents_ofBlock (represents_ofStmts r orelse) ho)
    rw [Node.decisions_eq]
    simp only [Node.isDecision, if_true, Node.children, List.flatMap_cons, undivided_ofExpr,
      Node.decisions_block, toList_head?_ofBlock ho, List.nil_append, List.singleton_append]
    exact .of_decision rfl h hparts
  | .matchStmt subject cases s, n, h => by
    obtain ⟨cs, hcs, rfl⟩ := ofStmt_matchStmt h
    rw [Node.decisions_eq]
    simp only [Node.isDecision, if_true, Node.children, List.flatMap_cons, undivided_ofExpr,
      List.nil_append, List.singleton_append]
    exact .of_decision rfl h (represents_ofCases r false cases hcs)
  | .forLoop target iter body orelse isAsync s, n, h => by
    obtain ⟨b, o, hb, ho, rfl⟩ := ofStmt_forLoop h
    rw [Node.decisions_compound]
    simp only [List.flatMap_cons, List.flatMap_append, undivided_ofExpr, List.nil_append]
    exact .of_parts rfl ((represents_ofBlock (represents_ofStmts r body) hb).append
      (represents_ofBlock (represents_ofStmts r orelse) ho))
  | .whileLoop test body orelse s, n, h => by
    obtain ⟨b, o, hb, ho, rfl⟩ := ofStmt_whileLoop h
    rw [Node.decisions_compound]
    simp only [List.flatMap_cons, List.flatMap_append, undivided_ofExpr, List.nil_append]
    exact .of_parts rfl ((represents_ofBlock (represents_ofStmts r body) hb).append
      (represents_ofBlock (represents_ofStmts r orelse) ho))
  | .withStmt items body isAsync s, n, h => by
    obtain ⟨b, hb, rfl⟩ := ofStmt_withStmt h
    rw [Node.decisions_compound, List.flatMap_append,
      Node.undivided_of_every (plain_ofItems items), List.nil_append]
    exact .of_parts rfl (represents_ofBlock (represents_ofStmts r body) hb)
  | .tryStmt body handlers orelse final isStar s, n, h => by
    obtain ⟨b, hs, o, f, hb, hhs, ho, hf, rfl⟩ := ofStmt_tryStmt h
    rw [Node.decisions_compound]
    simp only [List.flatMap_append, List.append_assoc]
    exact .of_parts rfl ((represents_ofBlock (represents_ofStmts r body) hb).append
      ((represents_ofHandlers r handlers hhs).append
        ((represents_ofBlock (represents_ofStmts r orelse) ho).append
          (represents_ofBlock (represents_ofStmts r final) hf))))
  | .expr .., n, h | .returnStmt .., n, h | .delete .., n, h | .assign .., n, h | .augment .., n, h
  | .annotate .., n, h | .raise .., n, h | .assert .., n, h | .importStmt .., n, h
  | .importFrom .., n, h | .global .., n, h | .nonlocal .., n, h | .pass .., n, h
  | .breakStmt .., n, h | .continueStmt .., n, h =>
    .simple rfl rfl (Node.undivided_of_plain (plain_of_isSimple rfl h))

theorem represents_ofStmts (r : Reader) : ∀ (ss : List Stmt) {ns : List Node},
    ofStmts r ss = .ok ns → Represents r ss (ns.flatMap Node.decisions)
  | [], ns, h => by
    obtain rfl := pure_eq_ok.mp h
    exact .nil
  | s :: ss, ns, h => by
    obtain ⟨n, rest, hn, hrest, rfl⟩ := ofStmts_cons h
    rw [List.flatMap_cons]
    exact (represents_ofStmt r s hn).append (represents_ofStmts r ss hrest)

theorem represents_ofMembers (r : Reader) (owner : Span) (declared : List String) :
    ∀ (hasInit : Bool) (ss : List Stmt) {ns : List Node},
      ofMembers r owner declared hasInit ss = .ok ns → Represents r ss (ns.flatMap Node.decisions)
  | hasInit, [], ns, h => by
    obtain rfl := pure_eq_ok.mp h
    exact .nil
  | hasInit, s :: ss, ns, h => by
    cases s with
    | function name ps body ds returns isAsync s =>
      obtain ⟨ms, rest, hasInit', rfl, hread, hrest⟩ := exists_of_ofMembers_function h
      obtain ⟨fields, m, b, rfl, hfields, hfunction, hb⟩ := hread.exists_functionOf
      rw [List.flatMap_append, List.flatMap_append, undivided_of_all_declared hfields,
        List.nil_append, List.flatMap_singleton, hfunction.decisions_eq, Node.decisions_block]
      exact Represents.append (.of_parts rfl (represents_ofStmts r body hb))
        (represents_ofMembers r owner declared hasInit' ss hrest)
    | _ =>
      obtain ⟨ms, rest, rfl, hcontributes, hrest⟩ := ofMembers_cons (by simp) h
      obtain ⟨n, hn, hdecisions⟩ := hcontributes.readAs.exists_of_decisions
      rw [List.flatMap_append, hdecisions]
      exact (represents_ofStmt r _ hn).append
        (represents_ofMembers r owner declared hasInit ss hrest)

theorem represents_ofCases (r : Reader) : ∀ (taken : Bool) (cases : List MatchCase)
    {ns : List Node}, ofCases r taken cases = .ok ns →
      Represents r (MatchCase.shownBodies taken cases) (ns.flatMap Node.decisions)
  | taken, [], ns, h => by
    obtain rfl := pure_eq_ok.mp h
    exact .nil
  | taken, .mk pattern guard body :: cs, ns, h => by
    obtain ⟨b, rest, hb, hrest, rfl⟩ := ofCases_cons h
    have hopen := any_isNone_tests (.mk pattern guard body)
    simp only [MatchCase.pattern] at hopen
    rw [hopen] at hrest
    rw [MatchCase.shownBodies, List.flatMap_append]
    refine Represents.append ?_ (represents_ofCases r _ cs hrest)
    exact represents_clausesOf (represents_ofStmts r body hb)

theorem represents_ofHandlers (r : Reader) : ∀ (handlers : List Handler) {ns : List Node},
    ofHandlers r handlers = .ok ns →
      Represents r (handlers.flatMap Handler.body) (ns.flatMap Node.decisions)
  | [], ns, h => by
    obtain rfl := pure_eq_ok.mp h
    exact .nil
  | .mk type name body s :: hs, ns, h => by
    obtain ⟨b, rest, hb, hrest, rfl⟩ := ofHandlers_cons h
    rw [List.flatMap_cons, List.flatMap_cons, Node.decisions_compound, List.flatMap_append,
      undivided_ofOptional, List.nil_append]
    exact (represents_ofBlock (represents_ofStmts r body) hb).append
      (represents_ofHandlers r hs hrest)

end

end Outline
end BranchCover
