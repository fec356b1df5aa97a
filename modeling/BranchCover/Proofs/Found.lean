import BranchCover.Proofs.Represented

/-! The tests and matches that a search of an outline finds, told by their places in the source: all
but those in cases that are not shown. -/
namespace BranchCover

namespace Node

theorem mem_findAll_iff {k : NodeKind} {n d : Node} (hk : d.isOf [k] → d.isDecision) :
    d ∈ n.findAll [k] ↔ d ∈ n.decisions ∧ d.isOf [k] := by
  rw [decisions, findAll_eq_filter [k], findAll_eq_filter [.ifStmt, .switch], List.mem_filter,
    List.mem_filter, isOf_decision]
  constructor
  · rintro ⟨h, hd⟩
    exact ⟨⟨h, hk hd⟩, hd⟩
  · rintro ⟨⟨h, -⟩, hd⟩
    exact ⟨h, hd⟩

theorem isDecision_of_ifStmt {d : Node} (h : d.isOf [.ifStmt]) : d.isDecision := by
  rw [← isOf_decision]
  simp_all [isOf]

theorem isDecision_of_switch {d : Node} (h : d.isOf [.switch]) : d.isDecision := by
  rw [← isOf_decision]
  simp_all [isOf]

def clauseBody? : Node → Option Node
  | caseClause _ body _ | defaultClause body _ => some body
  | _ => none

end Node

namespace Outline

open Source

theorem represents_ofTopLevel {r : Reader} {ss : List Stmt} {items : List Node}
    (h : ofTopLevel r ss = .ok items) : Represents r ss (Node.module items).decisions := by
  rw [Node.decisions_eq]
  simp only [Node.isDecision, Node.children, Bool.false_eq_true, if_false, List.nil_append]
  induction ss generalizing items with
  | nil =>
    obtain rfl := pure_eq_ok.mp h
    exact .nil
  | cons s ss ih =>
    obtain ⟨ms, rest, rfl, hcontributes, hrest⟩ := ofTopLevel_cons h
    obtain ⟨n, hn, hdecisions⟩ := hcontributes.readAs.exists_of_decisions
    rw [List.flatMap_append, hdecisions]
    exact (represents_ofStmt r s hn).append (ih hrest)

/-- The outline of a source has the decisions that its statements show. -/
theorem represents_ofSource [Interpreter] {source : String} {tree : Node} (h : ofSource source = .ok tree) :
    ∃ ss, readModule source = .ok ss ∧ Represents (.ofSource source) ss tree.decisions := by
  obtain ⟨ss, items, hss, hitems, rfl⟩ := exists_of_ofSource h
  exact ⟨ss, hss, represents_ofTopLevel hitems⟩

/-- What a search for one kind of decision finds is shown, and is of that kind. -/
theorem mem_findAll_iff_shows {r : Reader} {ss : List Stmt} {items : List Node}
    (h : ofTopLevel r ss = .ok items) {k : NodeKind} {d : Node} (hk : d.isOf [k] → d.isDecision) :
    d ∈ (Node.module items).findAll [k] ↔ Shows r ss d ∧ d.isOf [k] := by
  rw [Node.mem_findAll_iff hk, (represents_ofTopLevel h).mem_iff]

theorem clauseBody?_of_mem_clausesOf {body c : Node} {s : Span} {taken : Bool}
    {ts : List (Option Node)} (h : c ∈ clausesOf body s taken ts) : c.clauseBody? = some body := by
  rcases mem_clausesOf h with ⟨_, -, rfl⟩ | rfl <;> rfl

/-- The clauses of a match case by case: each case has clauses with its own body, and none at all
only if it is not shown. -/
theorem exists_parts_of_ofCases {r : Reader} {taken : Bool} {cases : List MatchCase}
    {clauses : List Node} (h : ofCases r taken cases = .ok clauses) :
    ∃ parts : List (List Node), clauses = parts.flatten ∧ parts.length = cases.length ∧
      ∀ (k : Nat) (c : MatchCase), cases[k]? = some c →
        ∃ part b, parts[k]? = some part ∧ ofStmts r c.body = .ok b ∧
          (∀ x ∈ part, x.clauseBody? = some (.block b (blockSpan Span.unknown c.body))) ∧
          (part = [] ↔ c.isShown (taken || (cases.take k).any MatchCase.isOpen) = false) := by
  induction cases generalizing taken clauses with
  | nil =>
    obtain rfl := pure_eq_ok.mp h
    exact ⟨[], rfl, rfl, by simp⟩
  | cons c cases ih =>
    obtain ⟨pattern, guard, body⟩ := c
    obtain ⟨b, rest, hb, hrest, rfl⟩ := ofCases_cons h
    have hopen := any_isNone_tests (.mk pattern guard body)
    have hshown := isShown_eq taken (.mk pattern guard body)
    simp only [MatchCase.pattern] at hopen hshown
    rw [hopen] at hrest
    obtain ⟨parts, rfl, hlength, hparts⟩ := ih hrest
    refine ⟨_ :: parts, rfl, by simp [hlength], ?_⟩
    intro k c hk
    cases k with
    | zero =>
      obtain rfl := Option.some.inj hk
      refine ⟨_, b, rfl, hb, fun x hx => clauseBody?_of_mem_clausesOf hx, ?_⟩
      rw [clausesOf_eq_nil_iff, ← hshown]
      simp
    | succ k =>
      obtain ⟨part, b', hpart, hb', hbody, hnil⟩ := hparts k c hk
      exact ⟨part, b', hpart, hb', hbody, by simpa [Bool.or_assoc] using hnil⟩

/-- The tests and matches that stand in some statements outside of cases that are not shown have
nodes at their places in the outline, and no others have; a statement at any depth is either shown
or in such a case. The clauses of a match hold the bodies of all its cases that are shown: a case goes
without a clause only if all its alternatives match anything and a case before it has such an
alternative. -/
theorem decision_found_iff_shown (r : Reader) (ss : List Stmt) (items : List Node)
    (h : ofTopLevel r ss = .ok items) :
    (∀ s, (∃ d ∈ (Node.module items).findAll [.ifStmt], d.span = s) ↔
        ∃ test body orelse, Within Stmt.shownParts (.ifStmt test body orelse s) ss) ∧
      (∀ s, (∃ d ∈ (Node.module items).findAll [.switch], d.span = s) ↔
        ∃ subject cases, Within Stmt.shownParts (.matchStmt subject cases s) ss) ∧
      (∀ x, Within Stmt.parts x ss ↔ Within Stmt.shownParts x ss ∨ Skipped x ss) ∧
      ∀ subject cases s, Within Stmt.shownParts (.matchStmt subject cases s) ss →
        ∃ parts : List (List Node),
          .switch (ofExpr subject) parts.flatten s ∈ (Node.module items).findAll [.switch] ∧
          parts.length = cases.length ∧
          ∀ (k : Nat) (c : MatchCase), cases[k]? = some c →
            ∃ part b, parts[k]? = some part ∧ ofStmts r c.body = .ok b ∧
              (∀ x ∈ part, x.clauseBody? = some (.block b (blockSpan Span.unknown c.body))) ∧
              (part ≠ [] ↔ c.isShown ((cases.take k).any MatchCase.isOpen)) := by
  have hrep := represents_ofTopLevel h
  have htest := fun d => mem_findAll_iff_shows h (d := d) Node.isDecision_of_ifStmt
  have hswitch := fun d => mem_findAll_iff_shows h (d := d) Node.isDecision_of_switch
  refine ⟨fun s => ⟨?_, ?_⟩, fun s => ⟨?_, ?_⟩, fun x => Within.iff_shown_or_skipped, ?_⟩
  · rintro ⟨d, hd, rfl⟩
    obtain ⟨⟨x, hx, hdec, hof⟩, hkind⟩ := (htest d).mp hd
    cases x with
    | ifStmt test body orelse s =>
      obtain ⟨b, o, rfl⟩ := ofStmt_ifStmt hof
      exact ⟨test, body, orelse, hx⟩
    | matchStmt subject cases s =>
      obtain ⟨cs, -, rfl⟩ := ofStmt_matchStmt hof
      cases hkind
    | _ => cases hdec
  · rintro ⟨test, body, orelse, hx⟩
    obtain ⟨d, -, hof⟩ := hrep.found _ hx rfl
    obtain ⟨b, o, rfl⟩ := ofStmt_ifStmt hof
    exact ⟨_, (htest _).mpr ⟨⟨_, hx, rfl, hof⟩, rfl⟩, rfl⟩
  · rintro ⟨d, hd, rfl⟩
    obtain ⟨⟨x, hx, hdec, hof⟩, hkind⟩ := (hswitch d).mp hd
    cases x with
    | ifStmt test body orelse s =>
      obtain ⟨b, o, rfl⟩ := ofStmt_ifStmt hof
      cases hkind
    | matchStmt subject cases s =>
      obtain ⟨cs, -, rfl⟩ := ofStmt_matchStmt hof
      exact ⟨subject, cases, hx⟩
    | _ => cases hdec
  · rintro ⟨subject, cases, hx⟩
    obtain ⟨d, -, hof⟩ := hrep.found _ hx rfl
    obtain ⟨cs, -, rfl⟩ := ofStmt_matchStmt hof
    exact ⟨_, (hswitch _).mpr ⟨⟨_, hx, rfl, hof⟩, rfl⟩, rfl⟩
  · intro subject cases s hx
    obtain ⟨d, -, hof⟩ := hrep.found _ hx rfl
    obtain ⟨cs, hcs, rfl⟩ := ofStmt_matchStmt hof
    obtain ⟨parts, rfl, hlength, hparts⟩ := exists_parts_of_ofCases hcs
    refine ⟨parts, (hswitch _).mpr ⟨⟨_, hx, rfl, hof⟩, rfl⟩, hlength, ?_⟩
    intro k c hk
    obtain ⟨part, b, hpart, hb, hbody, hnil⟩ := hparts k c hk
    refine ⟨part, b, hpart, hb, hbody, ?_⟩
    rw [ne_eq, hnil, Bool.false_or, Bool.not_eq_false]

/-! A class whose method has a match of two cases that match anything, the first of them guarded. The
test in the second case is lost. -/

namespace Guarded

def lost : Stmt :=
  .ifStmt (.name "force" ⟨7, 19, 7, 24⟩) [.pass ⟨8, 20, 8, 24⟩] [] ⟨7, 16, 8, 24⟩

def guard : Expr :=
  .compare (.name "n" ⟨4, 22, 4, 23⟩) [.gt] [.constant (.number (.int 1)) ⟨4, 26, 4, 27⟩]
    ⟨4, 22, 4, 27⟩

def choice : Stmt :=
  .matchStmt (.name "code" ⟨3, 14, 3, 18⟩)
    [.mk (.capture none (some "n") ⟨4, 17, 4, 18⟩) (some guard) [.pass ⟨5, 16, 5, 20⟩],
      .mk (.capture none none ⟨6, 17, 6, 18⟩) none [lost]]
    ⟨3, 8, 8, 24⟩

def param (name : String) (column : Nat) : Source.Param :=
  .mk name none none ⟨2, column, 2, column + name.length⟩

def statements : List Stmt :=
  [.classDef "Gate" [] []
    [.function "open" (.mk [] [param "self" 13, param "code" 19, param "force" 25] none [] none)
      [choice] [] none false ⟨2, 4, 8, 24⟩] [] ⟨1, 0, 8, 24⟩]

def items : List Node :=
  [.classDecl "Gate"
    [.method ⟨false, "open", none, [], false, some "self"⟩
      [.param "code" none none false ⟨2, 19, 2, 23⟩, .param "force" none none false ⟨2, 25, 2, 30⟩]
      (.block [.switch (.identifier "code" ⟨3, 14, 3, 18⟩)
        [.defaultClause (.block [.compound "Pass" [] ⟨5, 16, 5, 20⟩] ⟨5, 16, 5, 20⟩)
          ⟨4, 17, 4, 18⟩] ⟨3, 8, 8, 24⟩] ⟨3, 8, 8, 24⟩)
      none ⟨2, 4, 8, 24⟩] ⟨1, 0, 8, 24⟩]

theorem ofTopLevel_statements (r : Reader) : ofTopLevel r statements = .ok items := by
  rfl

theorem findAll_items : (Node.module items).findAll [.ifStmt] = [] := by
  simp [items, Node.findAll_eq, Node.isOf, Node.kind, NodeKind.covers, Node.children]

theorem within_choice : Within Stmt.shownParts choice statements :=
  .inside (List.mem_singleton.mpr rfl) (.inside (List.mem_singleton.mpr rfl)
    (.here (List.mem_singleton.mpr rfl)))

theorem within_lost : Within Stmt.parts lost statements :=
  .inside (List.mem_singleton.mpr rfl) (.inside (List.mem_singleton.mpr rfl)
    (.inside (List.mem_singleton.mpr rfl) (.here (by simp [choice, Stmt.parts, MatchCase.body]))))

end Guarded

open scoped Interpreter in
theorem decision_found_iff_shown_guarded :
    ofTopLevel (Reader.ofSource "") Guarded.statements = .ok Guarded.items ∧
      Within Stmt.shownParts Guarded.choice Guarded.statements ∧
      (∃ d ∈ (Node.module Guarded.items).findAll [.switch], d.span = ⟨3, 8, 8, 24⟩) ∧
      ∃ part, .switch (.identifier "code" ⟨3, 14, 3, 18⟩) part ⟨3, 8, 8, 24⟩ ∈
        (Node.module Guarded.items).findAll [.switch] ∧ part ≠ [] := by
  have hitems := Guarded.ofTopLevel_statements (Reader.ofSource "")
  obtain ⟨-, hswitch, -, hclauses⟩ :=
    decision_found_iff_shown (Reader.ofSource "") Guarded.statements Guarded.items hitems
  have hfound := (hswitch ⟨3, 8, 8, 24⟩).mpr ⟨_, _, Guarded.within_choice⟩
  obtain ⟨parts, hparts, -, hcases⟩ := hclauses _ _ _ Guarded.within_choice
  obtain ⟨part, b, hpart, -, -, hshown⟩ := hcases 0 _ rfl
  refine ⟨hitems, Guarded.within_choice, hfound, parts.flatten, hparts, ?_⟩
  intro hempty
  have hpart' : part = [] := List.flatten_eq_nil_iff.mp hempty part (List.mem_of_getElem? hpart)
  exact hshown.mpr rfl hpart'

open scoped Interpreter in
/-- A test in a case that is not shown has no node at all. -/
theorem decision_lost_after_guard :
    ¬ ∀ (r : Reader) (ss : List Stmt) (items : List Node), ofTopLevel r ss = .ok items →
      ∀ test body orelse s, Within Stmt.parts (.ifStmt test body orelse s) ss →
        ∃ d ∈ (Node.module items).findAll [.ifStmt], d.span = s := by
  intro h
  obtain ⟨d, hd, -⟩ := h (Reader.ofSource "") Guarded.statements Guarded.items
    (Guarded.ofTopLevel_statements _) _ _ _ _ Guarded.within_lost
  rw [Guarded.findAll_items] at hd
  cases hd

end Outline
end BranchCover
