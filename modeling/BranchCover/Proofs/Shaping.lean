import BranchCover.Proofs.Deciding
import BranchCover.Proofs.Found

/-! The shape of decisions. Every decision of a method, at any depth, is that of a node in the outline of
the module. A test has one condition, one block for it, and a block for when it fails if the source has
one; a switch has a condition and a block for each case clause, in the order of the clauses, and a block
for the default clause, of which there is at most one. -/
namespace BranchCover

namespace Node

variable {lines : List (List Char)} {n d : Node}

theorem exists_part_of_block? {x : Branch} (hx : d.decision? lines = some x) {slot : Slot}
    {below : Block} (hbelow : x.block? slot = some below) :
    ∃ p ∈ d.findAll [.node], below = .mk (Block.branchesAt lines p) := by
  have hpart : ∀ {c}, c ∈ d.children → c ∈ d.findAll [.node] := fun hc =>
    mem_findAll_of_mem_children hc (mem_findAll_self _)
  cases d <;> simp only [decision?, Option.some.injEq, reduceCtorEq] at hx
  case ifStmt test body orelse s =>
    subst hx
    cases slot with
    | body a =>
      have hbody := List.mem_of_getElem? hbelow
      exact ⟨body, hpart (by simp [children]), List.mem_singleton.mp hbody⟩
    | orelse =>
      obtain ⟨c, hc, rfl⟩ := Option.map_eq_some_iff.mp hbelow
      exact ⟨c, hpart (by simp [children, hc]), rfl⟩
  case switch subject clauses s =>
    subst hx
    have hclause : ∀ {c p}, c ∈ clauses → p ∈ c.children →
        p ∈ (Node.switch subject clauses s).findAll [.node] := fun hc hp =>
      mem_findAll_of_mem_children (List.mem_cons_of_mem _ hc)
        (mem_findAll_of_mem_children hp (mem_findAll_self _))
    cases slot with
    | body a =>
      obtain ⟨arm, harm, rfl⟩ := List.mem_map.mp (List.mem_of_getElem? hbelow)
      obtain ⟨c, hc, harm⟩ := List.mem_filterMap.mp harm
      cases c <;> cases harm
      exact ⟨_, hclause hc (by simp [children]), rfl⟩
    | orelse =>
      obtain ⟨c, hc, hdefault⟩ := List.mem_filterMap.mp (List.mem_of_getLast? hbelow)
      cases c <;> cases hdefault
      exact ⟨_, hclause hc (by simp [children]), rfl⟩
  case conditional test body orelse s =>
    subst hx
    cases slot <;> cases hbelow

/-- By induction on the place: a decision below a node is that of a node in it. -/
theorem exists_node_of_at? {q : Place} {b : Branch}
    (h : (Block.mk (Block.branchesAt lines n)).at? q = some b) :
    ∃ d ∈ n.findAll decisionKinds, d.decision? lines = some b := by
  have hread : ∀ {n : Node} {i : Nat} {b : Branch}, (Block.branchesAt lines n)[i]? = some b →
      ∃ d ∈ n.findAll decisionKinds, d.decision? lines = some b := by
    intro n i b hb
    obtain ⟨ds, hds⟩ := Block.exists_readAt lines n
    have hmem := List.mem_of_getElem? hb
    rw [hds.branches] at hmem
    obtain ⟨d, hd, hdecision⟩ := List.mem_filterMap.mp hmem
    exact ⟨d, hds.sublist.subset hd, hdecision⟩
  induction q generalizing n with
  | here i => exact hread h
  | into i slot rest ih =>
    obtain ⟨x, below, hx, hbelow, hb⟩ := Block.at?_into_eq_some.mp h
    obtain ⟨d, hd, hdecision⟩ := hread hx
    obtain ⟨p, hp, rfl⟩ := exists_part_of_block? hdecision hbelow
    obtain ⟨e, he, hb⟩ := ih hb
    have hnode : d ∈ n.findAll [.node] := by
      rw [findAll_eq_filter] at hd
      exact (List.mem_filter.mp hd).1
    exact ⟨e, mem_findAll_trans hnode (mem_findAll_trans hp he), hb⟩

end Node

/-- The body of a method of a class is that of a node in the outline of its module. -/
theorem Class.exists_body {source name : String} {root : Node} {c : Class}
    (hc : c ∈ ofModule source name root) {m : Method} (hm : m ∈ c.constructor.toList ++ c.methods) :
    ∃ n ∈ root.findAll [.node],
      m.body = some (.mk (Block.branchesAt (Excerpt.lines source.toList) n)) := by
  obtain ⟨k, hk, hc⟩ := List.mem_filterMap.mp hc
  cases k <;> cases hc
  case classDecl cname members s =>
    obtain ⟨x, hx, n, hn, hbody⟩ : ∃ x ∈ members, ∃ n ∈ x.children,
        m.body = some (.mk (Block.branchesAt (Excerpt.lines source.toList) n)) := by
      rcases List.mem_append.mp hm with hm | hm
      · obtain ⟨x, hx, hm⟩ := List.exists_of_findSome?_eq_some (Option.mem_toList.mp hm)
        cases x <;> simp only [reduceCtorEq] at hm
        case method head params body returns span =>
          split at hm
          · cases hm
            exact ⟨_, hx, body, by simp [Node.children], rfl⟩
          · cases hm
      · obtain ⟨x, hx, hm⟩ := List.mem_filterMap.mp hm
        cases x <;> simp only [reduceCtorEq] at hm
        case method head params body returns span =>
          split at hm
          · cases hm
          · cases hm
            exact ⟨_, hx, body, by simp [Node.children], rfl⟩
    exact ⟨n, Node.mem_findAll_of_mem_children hk (Node.mem_findAll_of_mem_children hx
      (Node.mem_findAll_of_mem_children hn (Node.mem_findAll_self n))), hbody⟩

/-- What a partial function gives for a list, place by place, where a test tells which items it takes. -/
theorem getElem?_filterMap_of_filter {α β : Type} {f : α → Option β} {p : α → Bool}
    (h : ∀ a, p a = (f a).isSome) (as : List α) (i : Nat) :
    (as.filterMap f)[i]? = (as.filter p)[i]?.bind f := by
  induction as generalizing i with
  | nil => simp
  | cons a as ih =>
    cases hf : f a with
    | none => simp [hf, h, ih]
    | some b => cases i <;> simp [hf, h, ih]

namespace Outline

open Source

/-- The default clauses of a case: at most one, and none if a case before it has one. -/
theorem length_defaults_clausesOf (body : Node) (s : Span) (taken : Bool)
    (ts : List (Option Node)) :
    ((clausesOf body s taken ts).filter (Node.isOf [.defaultClause])).length =
      if !taken && ts.any (·.isNone) then 1 else 0 := by
  induction ts generalizing taken with
  | nil => simp [clausesOf]
  | cons t ts ih =>
    cases t with
    | some t =>
      have hcase : Node.isOf [.defaultClause] (.caseClause t body s) = false := rfl
      rw [clausesOf, List.filter_cons_of_neg (by simp [hcase]), ih]
      rfl
    | none =>
      have hdefault : Node.isOf [.defaultClause] (.defaultClause body s) = true := rfl
      cases taken <;> simp [clausesOf, hdefault, ih]

theorem length_defaults_ofCases {r : Reader} {taken : Bool} {cases : List MatchCase}
    {clauses : List Node} (h : ofCases r taken cases = .ok clauses) :
    (clauses.filter (Node.isOf [.defaultClause])).length ≤ if taken then 0 else 1 := by
  induction cases generalizing taken clauses with
  | nil =>
    obtain rfl := pure_eq_ok.mp h
    simp
  | cons c cases ih =>
    obtain ⟨pattern, guard, body⟩ := c
    obtain ⟨b, rest, -, hrest, rfl⟩ := ofCases_cons h
    have hrest := ih hrest
    rw [List.filter_append, List.length_append, length_defaults_clausesOf]
    cases taken with
    | true => simpa using hrest
    | false =>
      -- a case with a default leaves none to those after it
      cases hopen : (tests pattern).any (·.isNone) with
      | true =>
        rw [hopen, Bool.or_true, if_pos rfl, Nat.le_zero] at hrest
        simp [hrest]
      | false =>
        rw [hopen] at hrest
        simpa using hrest

end Outline

namespace Branch

open Source Outline
open Block (branchesAt)

section

variable {lines : List (List Char)} {r : Reader} {ss : List Stmt} {items : List Node} {d : Node}
  {b : Branch}

theorem mem_findAll_kind {k : NodeKind} {root : Node} (hd : d ∈ root.findAll Node.decisionKinds)
    (hk : d.isOf [k]) : d ∈ root.findAll [k] := by
  rw [Node.findAll_eq_filter] at hd ⊢
  exact List.mem_filter.mpr ⟨(List.mem_filter.mp hd).1, hk⟩

/-- A test has the condition and the arms that its statement has in the source. -/
theorem shape_of_test (h : ofTopLevel r ss = .ok items)
    (hd : d ∈ (Node.module items).findAll Node.decisionKinds) (hb : d.decision? lines = some b)
    (hlabel : b.label = "if") :
    ∃ test body orelse s bs os, Within Stmt.shownParts (.ifStmt test body orelse s) ss ∧
      ofStmts r body = .ok bs ∧ ofStmts r orelse = .ok os ∧
      b.conditions = [.ofTest lines (ofExpr test)] ∧
      b.bodies = [.mk (bs.flatMap (branchesAt lines))] ∧
      b.orelse = if orelse.isEmpty then none else some (.mk (os.flatMap (branchesAt lines))) := by
  cases d <;> simp only [Node.decision?, Option.some.injEq, reduceCtorEq] at hb
  case switch => simp [← hb, label] at hlabel
  case conditional => simp [← hb, label] at hlabel
  case ifStmt t n o s =>
    subst hb
    have hfound := mem_findAll_kind hd (k := .ifStmt) rfl
    obtain ⟨⟨x, hx, hdecision, hof⟩, -⟩ :=
      (mem_findAll_iff_shows h Node.isDecision_of_ifStmt).mp hfound
    cases x <;> try cases hdecision
    case matchStmt subject cases s =>
      obtain ⟨cs, -, heq⟩ := ofStmt_matchStmt hof
      cases heq
    case ifStmt test body orelse s =>
      obtain ⟨bs, o, hbs, ho, heq⟩ := ofStmt_ifStmt_parts hof
      obtain ⟨os, hos, rfl⟩ := exists_of_ofBlock ho
      obtain ⟨rfl, rfl, rfl, rfl⟩ := Node.ifStmt.inj heq
      refine ⟨test, body, orelse, _, bs, os, hx, hbs, hos, rfl, by simp [bodies], ?_⟩
      cases orelse <;> simp [Branch.orelse]

theorem isOf_caseClause (subject c : Node) :
    c.isOf [.caseClause] = (Block.armOf lines subject c).isSome := by
  cases c <;> try rfl
  case method head _ _ _ _ => cases h : head.isConstructor <;> simp [Node.isOf, Node.kind, h] <;> rfl

theorem isOf_defaultClause (c : Node) :
    c.isOf [.defaultClause] = (Block.defaultOf lines c).isSome := by
  cases c <;> try rfl
  case method head _ _ _ _ => cases h : head.isConstructor <;> simp [Node.isOf, Node.kind, h] <;> rfl

theorem getLast?_defaults {clauses : List Node}
    (h : (clauses.filter (Node.isOf [.defaultClause])).length ≤ 1) {c : Node} (hc : c ∈ clauses)
    {blk : Block} (hblk : Block.defaultOf lines c = some blk) :
    (clauses.filterMap (Block.defaultOf lines)).getLast? = some blk := by
  have hmem : c ∈ clauses.filter (Node.isOf [.defaultClause]) :=
    List.mem_filter.mpr ⟨hc, (isOf_defaultClause c).trans (congrArg Option.isSome hblk)⟩
  obtain ⟨x, hx⟩ := List.length_eq_one_iff.mp (Nat.le_antisymm h (List.length_pos_of_mem hmem))
  have hsole : clauses.filterMap (Block.defaultOf lines) = [blk] := by
    apply List.ext_getElem?
    intro i
    rw [hx, List.mem_singleton] at hmem
    rw [getElem?_filterMap_of_filter isOf_defaultClause, hx, ← hmem]
    cases i <;> simp [hblk]
  rw [hsole]
  rfl

/-- A switch has the conditions and blocks of its case clauses in order, and the block of its default
clause. -/
theorem shape_of_switch (h : ofTopLevel r ss = .ok items)
    (hd : d ∈ (Node.module items).findAll Node.decisionKinds) (hb : d.decision? lines = some b)
    (hlabel : b.label = "switch") :
    ∃ subject clauses s, .switch subject clauses s ∈ (Node.module items).findAll [.switch] ∧
      b.conditions.length = (clauses.filter (Node.isOf [.caseClause])).length ∧
      b.bodies.length = (clauses.filter (Node.isOf [.caseClause])).length ∧
      (∀ (i : Nat) test body t,
        (clauses.filter (Node.isOf [.caseClause]))[i]? = some (.caseClause test body t) →
          ∃ c, b.conditions[i]? = some c ∧ c.comparison = some ⟨subject, .eq, test⟩ ∧
            b.bodies[i]? = some (.mk (branchesAt lines body))) ∧
      (clauses.filter (Node.isOf [.defaultClause])).length ≤ 1 ∧
      (∀ body t, .defaultClause body t ∈ clauses →
        b.orelse = some (.mk (branchesAt lines body))) ∧
      ((∀ body t, .defaultClause body t ∉ clauses) → b.orelse = none) := by
  cases d <;> simp only [Node.decision?, Option.some.injEq, reduceCtorEq] at hb
  case ifStmt => simp [← hb, label] at hlabel
  case conditional => simp [← hb, label] at hlabel
  case switch subject clauses s =>
    subst hb
    have hfound := mem_findAll_kind hd (k := .switch) rfl
    have hone : (clauses.filter (Node.isOf [.defaultClause])).length ≤ 1 := by
      obtain ⟨⟨x, hx, hdecision, hof⟩, -⟩ :=
        (mem_findAll_iff_shows h Node.isDecision_of_switch).mp hfound
      cases x <;> try cases hdecision
      case ifStmt test body orelse s =>
        obtain ⟨_, _, heq⟩ := ofStmt_ifStmt hof
        cases heq
      case matchStmt subject cases s =>
        obtain ⟨cs, hcs, heq⟩ := ofStmt_matchStmt hof
        cases heq
        exact length_defaults_ofCases hcs
    have hlength : (clauses.filterMap (Block.armOf lines subject)).length =
        (clauses.filter (Node.isOf [.caseClause])).length := by
      rw [List.length_filterMap_eq_countP, ← List.countP_eq_length_filter]
      exact List.countP_congr fun c _ => by rw [isOf_caseClause]
    refine ⟨subject, clauses, s, hfound, by simp [conditions, hlength], by simp [bodies, hlength],
      ?arms, hone, fun body t hc => getLast?_defaults hone hc rfl, ?noDefault⟩
    case arms =>
      intro i test body t hi
      have harm : (clauses.filterMap (Block.armOf lines subject))[i]? =
          some (.mk (.ofCase lines subject test (.caseClause test body t))
            (.mk (branchesAt lines body))) := by
        rw [getElem?_filterMap_of_filter (isOf_caseClause subject), hi]
        rfl
      exact ⟨.ofCase lines subject test (.caseClause test body t),
        by rw [conditions, List.getElem?_map, harm]; rfl, rfl,
        by rw [bodies, List.getElem?_map, harm]; rfl⟩
    case noDefault =>
      intro hnone
      have hnil : clauses.filterMap (Block.defaultOf lines) = [] := by
        apply List.filterMap_eq_nil_iff.mpr
        intro c hc
        cases c <;> try rfl
        case defaultClause body t => exact absurd hc (hnone body t)
      simp only [Branch.orelse, hnil]
      rfl

/-- A conditional expression has its test for a condition and no block. -/
theorem shape_of_conditional (hd : d ∈ (Node.module items).findAll Node.decisionKinds)
    (hb : d.decision? lines = some b) (hlabel : b.label = "ternary") :
    ∃ test body orelse s,
      .conditional test body orelse s ∈ (Node.module items).findAll [.conditional] ∧
      b.conditions = [.ofTest lines test] ∧ b.bodies = [] ∧ b.orelse = none := by
  cases d <;> simp only [Node.decision?, Option.some.injEq, reduceCtorEq] at hb
  case ifStmt => simp [← hb, label] at hlabel
  case switch => simp [← hb, label] at hlabel
  case conditional test body orelse s =>
    subst hb
    exact ⟨test, body, orelse, s, mem_findAll_kind hd rfl, rfl, rfl, rfl⟩

/-- Every decision of a method of a module, at any depth, is a test, a conditional expression or a
switch, and has the conditions and blocks that these have in the source. -/
theorem shaped_as_source {source name : String} {c : Class} {m : Method} {blk : Block} {q : Place}
    (h : ofTopLevel r ss = .ok items) (hc : c ∈ Class.ofModule source name (.module items))
    (hm : m ∈ c.constructor.toList ++ c.methods) (hblk : m.body = some blk)
    (hb : blk.at? q = some b) :
    (b.label = "if" ∨ b.label = "ternary" ∨ b.label = "switch") ∧
    (b.label = "if" →
      ∃ test body orelse s bs os, Within Stmt.shownParts (.ifStmt test body orelse s) ss ∧
        ofStmts r body = .ok bs ∧ ofStmts r orelse = .ok os ∧
        b.conditions = [.ofTest (Excerpt.lines source.toList) (ofExpr test)] ∧
        b.bodies = [.mk (bs.flatMap (branchesAt (Excerpt.lines source.toList)))] ∧
        b.orelse = if orelse.isEmpty then none
          else some (.mk (os.flatMap (branchesAt (Excerpt.lines source.toList))))) ∧
    (b.label = "ternary" →
      ∃ test body orelse s,
        .conditional test body orelse s ∈ (Node.module items).findAll [.conditional] ∧
        b.conditions = [.ofTest (Excerpt.lines source.toList) test] ∧
        b.bodies = [] ∧ b.orelse = none) ∧
    (b.label = "switch" →
      ∃ subject clauses s, .switch subject clauses s ∈ (Node.module items).findAll [.switch] ∧
        b.conditions.length = (clauses.filter (Node.isOf [.caseClause])).length ∧
        b.bodies.length = (clauses.filter (Node.isOf [.caseClause])).length ∧
        (∀ (i : Nat) test body t,
          (clauses.filter (Node.isOf [.caseClause]))[i]? = some (.caseClause test body t) →
            ∃ c, b.conditions[i]? = some c ∧ c.comparison = some ⟨subject, .eq, test⟩ ∧
              b.bodies[i]? = some (.mk (branchesAt (Excerpt.lines source.toList) body))) ∧
        (clauses.filter (Node.isOf [.defaultClause])).length ≤ 1 ∧
        (∀ body t, .defaultClause body t ∈ clauses →
          b.orelse = some (.mk (branchesAt (Excerpt.lines source.toList) body))) ∧
        ((∀ body t, .defaultClause body t ∉ clauses) → b.orelse = none)) := by
  obtain ⟨n, hn, hbody⟩ := Class.exists_body hc hm
  obtain rfl := Option.some.inj (hbody.symm.trans hblk)
  obtain ⟨d, hd, hdecision⟩ := Node.exists_node_of_at? hb
  have hd := Node.mem_findAll_trans hn hd
  refine ⟨?label, shape_of_test h hd hdecision, shape_of_conditional hd hdecision,
    shape_of_switch h hd hdecision⟩
  cases b <;> simp [label]

end

/-! A method that tests, with a conditional expression in the body of the test and a match where the
test fails. -/
namespace Forked

def source : String :=
  "class Gate:\n" ++
  "    def open(self, code, force):\n" ++
  "        if force:\n" ++
  "            return 1 if code else 2\n" ++
  "        else:\n" ++
  "            match code:\n" ++
  "                case 1:\n" ++
  "                    pass\n" ++
  "                case _:\n" ++
  "                    pass\n"

def one : Constant := .number (.int 1)

def two : Constant := .number (.int 2)

def answer : Stmt :=
  .returnStmt (some (.conditional (.name "code" ⟨4, 24, 4, 28⟩) (.constant one ⟨4, 19, 4, 20⟩)
    (.constant two ⟨4, 34, 4, 35⟩) ⟨4, 19, 4, 35⟩)) ⟨4, 12, 4, 35⟩

def choice : Stmt :=
  .matchStmt (.name "code" ⟨6, 18, 6, 22⟩)
    [.mk (.value (.constant one ⟨7, 21, 7, 22⟩) ⟨7, 21, 7, 22⟩) none [.pass ⟨8, 20, 8, 24⟩],
      .mk (.capture none none ⟨9, 21, 9, 22⟩) none [.pass ⟨10, 20, 10, 24⟩]]
    ⟨6, 12, 10, 24⟩

def test : Stmt :=
  .ifStmt (.name "force" ⟨3, 11, 3, 16⟩) [answer] [choice] ⟨3, 8, 10, 24⟩

def param (name : String) (column : Nat) : Source.Param :=
  .mk name none none ⟨2, column, 2, column + name.length⟩

def statements : List Stmt :=
  [.classDef "Gate" [] []
    [.function "open" (.mk [] [param "self" 13, param "code" 19, param "force" 25] none [] none)
      [test] [] none false ⟨2, 4, 10, 24⟩] [] ⟨1, 0, 10, 24⟩]

def head : MethodHead := ⟨false, "open", none, [], false, some "self"⟩

def params : List Node :=
  [.param "code" none none false ⟨2, 19, 2, 23⟩, .param "force" none none false ⟨2, 25, 2, 30⟩]

def idle (line : Nat) : Node :=
  .block [.compound "Pass" [] ⟨line, 20, line, 24⟩] ⟨line, 20, line, 24⟩

def conditional : Node :=
  .conditional (.identifier "code" ⟨4, 24, 4, 28⟩) (.numeric (.int 1) ⟨4, 19, 4, 20⟩)
    (.numeric (.int 2) ⟨4, 34, 4, 35⟩) ⟨4, 19, 4, 35⟩

def switch : Node :=
  .switch (.identifier "code" ⟨6, 18, 6, 22⟩)
    [.caseClause (.numeric (.int 1) ⟨7, 21, 7, 22⟩) (idle 8) ⟨7, 21, 7, 22⟩,
      .defaultClause (idle 10) ⟨9, 21, 9, 22⟩] ⟨6, 12, 10, 24⟩

def body : Node :=
  .block [.ifStmt (.identifier "force" ⟨3, 11, 3, 16⟩)
    (.block [.compound "Return" [conditional] ⟨4, 12, 4, 35⟩] ⟨4, 12, 4, 35⟩)
    (some (.block [switch] ⟨6, 12, 10, 24⟩)) ⟨3, 8, 10, 24⟩] ⟨3, 8, 10, 24⟩

def items : List Node :=
  [.classDecl "Gate" [.method head params body none ⟨2, 4, 10, 24⟩] ⟨1, 0, 10, 24⟩]

theorem ofTopLevel_statements (r : Reader) : ofTopLevel r statements = .ok items := by
  rfl

def scope : Property.Scope := ⟨items.head?, some (.module items)⟩

def method : Method :=
  Method.ofParts (Excerpt.lines source.toList) scope head params body

def cls : Class :=
  Class.ofMembers (Excerpt.lines source.toList) scope "gate" "Gate"
    [.method head params body none ⟨2, 4, 10, 24⟩]

theorem cls_mem : cls ∈ Class.ofModule source "gate" (.module items) :=
  List.mem_singleton.mpr rfl

theorem method_mem : method ∈ cls.constructor.toList ++ cls.methods :=
  List.mem_singleton.mpr rfl

/-- The decisions of the method: the test, with one decision in each arm. -/
def block (lines : List (List Char)) : Block :=
  .mk [.ifElse (.ofTest lines (.identifier "force" ⟨3, 11, 3, 16⟩))
    (.mk [.ternary (.ofTest lines (.identifier "code" ⟨4, 24, 4, 28⟩))])
    (some (.mk [.switch
      [.mk (.ofCase lines (.identifier "code" ⟨6, 18, 6, 22⟩) (.numeric (.int 1) ⟨7, 21, 7, 22⟩)
        (.caseClause (.numeric (.int 1) ⟨7, 21, 7, 22⟩) (idle 8) ⟨7, 21, 7, 22⟩)) (.mk [])]
      (some (.mk []))]))]

theorem body_method : method.body = some (block (Excerpt.lines source.toList)) := by
  simp [method, Method.ofParts, body, block, conditional, switch, idle, Block.branchesAt_compound,
    Block.found?, Block.armOf, Block.defaultOf]

end Forked

open scoped Interpreter in
/-- The switch of the method has one condition and one block, and a block besides. -/
theorem shaped_as_source_forked :
    ∃ b, (Forked.block (Excerpt.lines Forked.source.toList)).at? (.into 0 .orelse (.here 0)) =
        some b ∧ b.label = "switch" ∧
      ∃ subject clauses s,
        .switch subject clauses s ∈ (Node.module Forked.items).findAll [.switch] ∧
        b.bodies.length = (clauses.filter (Node.isOf [.caseClause])).length := by
  refine ⟨_, rfl, rfl, ?_⟩
  obtain ⟨-, -, -, hswitch⟩ := shaped_as_source (q := .into 0 .orelse (.here 0))
    (Forked.ofTopLevel_statements (Reader.ofSource Forked.source)) Forked.cls_mem
    Forked.method_mem Forked.body_method rfl
  obtain ⟨subject, clauses, s, hfound, -, hlength, -⟩ := hswitch rfl
  exact ⟨subject, clauses, s, hfound, hlength⟩

end Branch
end BranchCover
