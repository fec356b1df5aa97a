import BranchCover.Proofs.Reading
import BranchCover.Proofs.Resolving

/-! The initializers in an outline are expressions, throughout. So a literal that is known of a field or
parameter is a literal of the source, and it says what its value is. -/
namespace BranchCover
namespace Outline

open Source
open Node (Throughout Every IsPlain)

theorem initialized_of_none {n : Node} (h : Property.initializer? n = none) : Initialized n := by
  intro init hinit
  rw [h] at hinit
  cases hinit

theorem initialized_of_plain {n : Node} (h : n.Throughout IsPlain) : n.Throughout Initialized := by
  apply h.mono
  intro m hm
  cases m <;> first | exact initialized_of_none rfl | cases hm

theorem initialized_of_every {ns : List Node} (h : Every IsPlain ns) : Every Initialized ns :=
  fun n hn => initialized_of_plain (h n hn)

theorem initialized_of_declared {n : Node} (h : Declared n) : n.Throughout Initialized :=
  .of h.initialized (initialized_of_every h.plain)

theorem findAll_of_declared {n : Node} (h : Declared n) : n.findAll [.property, .param] = [n] := by
  have hbelow : n.children.flatMap (Node.findAll [.property, .param]) = [] := by
    apply List.flatMap_eq_nil_iff.mpr
    intro c hc
    apply (h.plain c hc).findAll_eq_nil
    intro m hm
    cases m <;> first | rfl | cases hm
  rw [Node.findAll_eq, if_pos h.isOf, hbelow]

theorem initialized_compound {label : String} {items : List Node} {s : Span}
    (h : Every Initialized items) : (Node.compound label items s).Throughout Initialized :=
  .of (initialized_of_none rfl) h

theorem initialized_block {ns : List Node} {s : Span} (h : Every Initialized ns) :
    (Node.block ns s).Throughout Initialized :=
  .of (initialized_of_none rfl) h

theorem FunctionOf.initialized {body n : Node} (h : FunctionOf body n)
    (hbody : body.Throughout Initialized) : n.Throughout Initialized := by
  cases h with
  | @method head params returns s hparams hreturns =>
    have hdeclared : Every Initialized params := fun p hp => initialized_of_declared (hparams p hp)
    have hparts : Every Initialized (params ++ body :: returns.toList) :=
      Node.every_append.mpr
        ⟨hdeclared, Node.every_cons.mpr ⟨hbody, initialized_of_every hreturns⟩⟩
    exact .of (initialized_of_none rfl) hparts
  | compound label s hbefore hafter =>
    exact initialized_compound (Node.every_append.mpr ⟨initialized_of_every hbefore,
      Node.every_cons.mpr ⟨hbody, initialized_of_every hafter⟩⟩)

theorem initialized_ofBlock {r : Reader} {s : Span} {ss : List Stmt} {ns : List Node}
    (hss : ∀ {os}, ofStmts r ss = .ok os → Every Initialized os) (h : ofBlock r s ss = .ok ns) :
    Every Initialized ns :=
  every_ofBlock (fun _ _ => initialized_of_none rfl) hss h

theorem initialized_of_readAs {r : Reader} {s : Stmt} {ms : List Node}
    (hof : ∀ {n}, ofStmt r s = .ok n → n.Throughout Initialized) (h : ReadAs r s ms) :
    Every Initialized ms := by
  cases h with
  | node hn => exact Node.every_cons.mpr ⟨hof hn, Node.every_nil⟩
  | declarations _ hdeclared => exact fun m hm => initialized_of_declared (hdeclared m hm)

mutual

/-- By induction on the statement: what is in its outline is plain, declared, or the outline of a
statement in it. -/
theorem initialized_ofStmt (r : Reader) : ∀ (s : Stmt) {n : Node}, ofStmt r s = .ok n →
    n.Throughout Initialized
  | .function name ps body ds returns isAsync s, n, h => by
    rw [ofStmt] at h
    obtain ⟨b, hb, hfunction⟩ := exists_of_method h
    exact hfunction.initialized (initialized_block (initialized_ofStmts r body hb))
  | .classDef name bases ks body ds s, n, h => by
    obtain ⟨items, hitems, rfl⟩ := ofStmt_classDef h
    exact .of (initialized_of_none rfl)
      (initialized_ofMembers r s (boundNames body) false body hitems)
  | .ifStmt test body orelse s, n, h => by
    obtain ⟨b, o, hb, ho, rfl⟩ := ofStmt_ifStmt_parts h
    have hbody := initialized_block (s := blockSpan s body) (initialized_ofStmts r body hb)
    have horelse := every_toList_head? (initialized_ofBlock (initialized_ofStmts r orelse) ho)
    have hparts : Every Initialized (ofExpr test :: .block b (blockSpan s body) :: o.head?.toList) := by
      simp [initialized_of_plain (plain_ofExpr test), hbody, horelse]
    exact .of (initialized_of_none rfl) hparts
  | .matchStmt subject cases s, n, h => by
    obtain ⟨cs, hcs, rfl⟩ := ofStmt_matchStmt h
    have hparts : Every Initialized (ofExpr subject :: cs) := Node.every_cons.mpr
      ⟨initialized_of_plain (plain_ofExpr subject), initialized_ofCases r false cases hcs⟩
    exact .of (initialized_of_none rfl) hparts
  | .forLoop target iter body orelse isAsync s, n, h => by
    obtain ⟨b, o, hb, ho, rfl⟩ := ofStmt_forLoop h
    exact initialized_compound (by
      simp [initialized_of_plain (plain_ofExpr _), initialized_ofBlock (initialized_ofStmts r body) hb,
        initialized_ofBlock (initialized_ofStmts r orelse) ho])
  | .whileLoop test body orelse s, n, h => by
    obtain ⟨b, o, hb, ho, rfl⟩ := ofStmt_whileLoop h
    exact initialized_compound (by
      simp [initialized_of_plain (plain_ofExpr _), initialized_ofBlock (initialized_ofStmts r body) hb,
        initialized_ofBlock (initialized_ofStmts r orelse) ho])
  | .withStmt items body isAsync s, n, h => by
    obtain ⟨b, hb, rfl⟩ := ofStmt_withStmt h
    exact initialized_compound (Node.every_append.mpr
      ⟨initialized_of_every (plain_ofItems items),
        initialized_ofBlock (initialized_ofStmts r body) hb⟩)
  | .tryStmt body handlers orelse final isStar s, n, h => by
    obtain ⟨b, hs, o, f, hb, hhs, ho, hf, rfl⟩ := ofStmt_tryStmt h
    exact initialized_compound (by
      simp [initialized_ofBlock (initialized_ofStmts r body) hb, initialized_ofHandlers r handlers hhs,
        initialized_ofBlock (initialized_ofStmts r orelse) ho,
        initialized_ofBlock (initialized_ofStmts r final) hf])
  | .expr .., n, h | .returnStmt .., n, h | .delete .., n, h | .assign .., n, h | .augment .., n, h
  | .annotate .., n, h | .raise .., n, h | .assert .., n, h | .importStmt .., n, h
  | .importFrom .., n, h | .global .., n, h | .nonlocal .., n, h | .pass .., n, h
  | .breakStmt .., n, h | .continueStmt .., n, h =>
    initialized_of_plain (plain_of_isSimple rfl h)

theorem initialized_ofStmts (r : Reader) : ∀ (ss : List Stmt) {ns : List Node},
    ofStmts r ss = .ok ns → Every Initialized ns
  | [], ns, h => by
    obtain rfl := pure_eq_ok.mp h
    exact Node.every_nil
  | s :: ss, ns, h => by
    obtain ⟨n, rest, hn, hrest, rfl⟩ := ofStmts_cons h
    exact Node.every_cons.mpr ⟨initialized_ofStmt r s hn, initialized_ofStmts r ss hrest⟩

theorem initialized_ofMembers (r : Reader) (owner : Span) (declared : List String) :
    ∀ (hasInit : Bool) (ss : List Stmt) {ns : List Node},
      ofMembers r owner declared hasInit ss = .ok ns → Every Initialized ns
  | hasInit, [], ns, h => by
    obtain rfl := pure_eq_ok.mp h
    exact Node.every_nil
  | hasInit, s :: ss, ns, h => by
    cases s with
    | function name ps body ds returns isAsync s =>
      obtain ⟨ms, rest, hasInit', rfl, hread, hrest⟩ := exists_of_ofMembers_function h
      refine Node.every_append.mpr ⟨?_, initialized_ofMembers r owner declared hasInit' ss hrest⟩
      obtain ⟨fields, m, b, rfl, hfields, hfunction, hb⟩ := hread.exists_functionOf
      have hdeclared : Every Initialized fields := fun f hf => initialized_of_declared (hfields f hf)
      have hm := hfunction.initialized (initialized_block (initialized_ofStmts r body hb))
      exact Node.every_append.mpr ⟨hdeclared, Node.every_cons.mpr ⟨hm, Node.every_nil⟩⟩
    | _ =>
      obtain ⟨ms, rest, rfl, hcontributes, hrest⟩ := ofMembers_cons (by simp) h
      exact Node.every_append.mpr
        ⟨initialized_of_readAs (initialized_ofStmt r _) hcontributes.readAs,
          initialized_ofMembers r owner declared hasInit ss hrest⟩

theorem initialized_ofCases (r : Reader) : ∀ (taken : Bool) (cases : List MatchCase)
    {ns : List Node}, ofCases r taken cases = .ok ns → Every Initialized ns
  | taken, [], ns, h => by
    obtain rfl := pure_eq_ok.mp h
    exact Node.every_nil
  | taken, .mk pattern guard body :: cs, ns, h => by
    obtain ⟨b, rest, hb, hrest, rfl⟩ := ofCases_cons h
    have hbody := initialized_block (s := blockSpan Span.unknown body) (initialized_ofStmts r body hb)
    have hclauses := every_clausesOf (s := pattern.span) (fun _ _ _ => initialized_of_none rfl)
      (fun _ _ => initialized_of_none rfl) hbody taken
      fun t ht => initialized_of_plain (plain_tests pattern t ht)
    exact Node.every_append.mpr ⟨hclauses, initialized_ofCases r _ cs hrest⟩

theorem initialized_ofHandlers (r : Reader) : ∀ (hs : List Handler) {ns : List Node},
    ofHandlers r hs = .ok ns → Every Initialized ns
  | [], ns, h => by
    obtain rfl := pure_eq_ok.mp h
    exact Node.every_nil
  | .mk type name body s :: hs, ns, h => by
    obtain ⟨b, rest, hb, hrest, rfl⟩ := ofHandlers_cons h
    have hparts : Every Initialized (ofOptional type ++ b) := Node.every_append.mpr
      ⟨initialized_of_every (plain_ofOptional type),
        initialized_ofBlock (initialized_ofStmts r body) hb⟩
    exact Node.every_cons.mpr ⟨initialized_compound hparts, initialized_ofHandlers r hs hrest⟩

end

theorem initialized_ofTopLevel {r : Reader} {ss : List Stmt} {items : List Node}
    (h : ofTopLevel r ss = .ok items) : Every Initialized items := by
  induction ss generalizing items with
  | nil =>
    obtain rfl := pure_eq_ok.mp h
    exact Node.every_nil
  | cons s ss ih =>
    obtain ⟨ms, rest, rfl, hcontributes, hrest⟩ := ofTopLevel_cons h
    exact Node.every_append.mpr
      ⟨initialized_of_readAs (initialized_ofStmt r s) hcontributes.readAs, ih hrest⟩

theorem ofExpr_ne_hint (e : Expr) (h : Hint) (s : Span) : ofExpr e ≠ .hint h s := by
  cases e with
  | constant c t => cases c <;> simp [ofExpr, ofConstant]
  | unary op operand t =>
    rcases ofExpr_unary op operand t with ⟨n, h⟩ | h
    · simp [h]
    · simp [h]
  | compare left relations rights t =>
    rcases ofExpr_compare left relations rights t with ⟨relation, right, -, h⟩ | h
    · simp [h]
    · simp [h]
  | _ => simp [ofExpr]

end Outline

namespace Node

/-- A node stands in the outline of a module. -/
def Stands (n : Node) : Prop :=
  ∃ r ss items, Outline.ofTopLevel r ss = .ok items ∧ n ∈ (module items).findAll [.node]

theorem stands_of_ofSource [Interpreter] {source : String} {root n : Node}
    (h : Outline.ofSource source = .ok root) (hn : n ∈ root.findAll [.node]) : n.Stands := by
  obtain ⟨ss, items, -, hitems, rfl⟩ := Outline.exists_of_ofSource h
  exact ⟨_, ss, items, hitems, hn⟩

theorem Stands.initialized {n : Node} (h : n.Stands) : n.Throughout Outline.Initialized := by
  obtain ⟨r, ss, items, hitems, hn⟩ := h
  have hmodule : (module items).Throughout Outline.Initialized :=
    .of (Outline.initialized_of_none rfl) (Outline.initialized_ofTopLevel hitems)
  exact hmodule.of_mem_findAll hn

inductive Denotes : Node → Category → Value → Prop where
  | number (x : Numeral) (s : Span) : Denotes (.numeric x s) .number (.number x)
  | string (t : Text) (s : Span) : Denotes (.string t s) .string (.text t)
  | boolean (b : Bool) (s : Span) : Denotes (.boolean b s) .boolean (.boolean b)

theorem exists_denotes_of_primitive {e : Source.Expr} {c : Category}
    (h : Property.primitive? (Outline.ofExpr e) = some c) :
    ∃ v, (Outline.ofExpr e).Denotes c v := by
  generalize hn : Outline.ofExpr e = n at h ⊢
  cases n with
  | numeric x s =>
    cases h
    exact ⟨_, .number x s⟩
  | string t s =>
    cases h
    exact ⟨_, .string t s⟩
  | boolean b s =>
    cases h
    exact ⟨_, .boolean b s⟩
  | hint k s => exact absurd hn (Outline.ofExpr_ne_hint e k s)
  | _ => cases h

end Node

namespace Property

/-- If a literal is known, then by its own node. -/
def Literal (p : Property) : Prop :=
  p.isLiteral → ∃ node c v, p.node = some node ∧ p.category = some c ∧ node.Denotes c v

theorem Literal.adopt {r : Property} (h : r.Literal) (p : Property) : (p.adopt r).Literal := by
  intro hliteral
  have hr : r.isLiteral = true := hliteral
  obtain ⟨node, c, v, hnode, hc, hv⟩ := h hr
  exact ⟨node, c, v, by simp [Property.adopt, hr, hnode], hc, hv⟩

theorem own_isLiteral (n : Node) : (own n).isLiteral = false := by
  rw [← declared_none]
  exact declared_isLiteral n

variable {n : Node} {s : Scope}

theorem primitive?_of_isOf (h : n.isOf [.property, .param]) : primitive? n = none := by
  cases n <;> first | rfl | cases h

/-- A field or parameter is a literal by its initializer, or by the declaration that it refers to. -/
theorem literal_getD (hn : n.isOf [.property, .param]) (hinit : Outline.Initialized n)
    {referenced : Option Property} (h : ∀ r ∈ referenced, r.Literal) :
    ((literal? n).getD (declared n referenced)).Literal := by
  cases hliteral : literal? n with
  | none =>
    cases referenced with
    | none =>
      intro hfalse
      rw [Option.getD_none, declared_none, own_isLiteral] at hfalse
      cases hfalse
    | some r =>
      rw [Option.getD_none, declared_some]
      split
      · exact (h r rfl).adopt _
      · intro hfalse
        rw [own_isLiteral] at hfalse
        cases hfalse
  | some p =>
    intro _
    obtain ⟨node, c, rfl, hc, rfl | hnode⟩ := literal?_eq_some hliteral
    · rw [primitive?_of_isOf hn] at hc
      cases hc
    · obtain ⟨e, rfl⟩ := hinit node hnode
      obtain ⟨v, hv⟩ := Node.exists_denotes_of_primitive hc
      exact ⟨_, c, v, rfl, rfl, hv⟩

theorem literal_ofNodeAlone (hn : n.isOf [.property, .param]) (hinit : Outline.Initialized n) :
    (ofNodeAlone n).Literal :=
  literal_getD hn hinit (by simp)

theorem exists_of_lookup {name : String} {exclude : Option Node} {d : Node}
    (h : s.lookup name exclude = some d) :
    ∃ root ∈ s.roots, d ∈ root.findAll [.property, .param] := by
  obtain ⟨root, hroot, hd⟩ := List.exists_of_findSome?_eq_some h
  exact ⟨root, hroot, List.mem_of_find?_eq_some hd⟩

theorem literal_resolve (hn : n.isOf [.property, .param]) (hstands : n.Stands)
    (hs : ∀ root ∈ s.roots, root.Stands) (follow : Bool) : (resolve s follow n).Literal := by
  rw [resolve_eq]
  apply literal_getD hn hstands.initialized.self
  intro r hr
  obtain ⟨d, hd, rfl⟩ := Option.map_eq_some_iff.mp hr
  obtain ⟨-, hd⟩ := Option.ite_none_right_eq_some.mp hd
  obtain ⟨init, -, hd⟩ := Option.bind_eq_some_iff.mp hd
  obtain ⟨name, -, hd⟩ := Option.bind_eq_some_iff.mp hd
  obtain ⟨root, hroot, hd⟩ := exists_of_lookup hd
  have hinit := (hs root hroot).initialized.of_mem_findAll hd
  exact literal_ofNodeAlone (Node.isOf_of_mem_findAll hd) hinit.self

theorem ofLiteral_of_denotes {p : Property} {node : Node} {c : Category} {v : Value}
    (hnode : p.node = some node) (h : node.Denotes c v) : Value.ofLiteral p = v := by
  unfold Value.ofLiteral
  rw [hnode]
  cases h <;> rfl

/-- What is known of a node of a module agrees: a literal has a primitive sort, is no array and has no
type, and a type is known by name for objects alone. If a field or parameter is known as a literal, then
by the node of a literal of its sort, which says its value. -/
theorem resolve_agrees (hn : n.Stands) (hs : ∀ root ∈ s.roots, root.Stands) (follow : Bool) :
    let p := resolve s follow n
    (p.isLiteral → (p.category = some .number ∨ p.category = some .string ∨
        p.category = some .boolean) ∧ p.isArray = false ∧ p.typeName = none) ∧
      (p.category = some .object ↔ p.typeName.isSome) ∧
      (n.isOf [.property, .param] → p.isLiteral → ∃ node c v, p.node = some node ∧
        p.category = some c ∧ node.Denotes c v ∧ Value.ofLiteral p = v) := by
  intro p
  have hp : p.WellFormed := wellFormed_resolve s follow n
  refine ⟨?_, hp.typed, ?_⟩
  · intro hliteral
    obtain ⟨⟨c, hc, hne⟩, hrest⟩ := hp.literal hliteral
    refine ⟨?_, hrest⟩
    cases c with
    | number => exact .inl hc
    | string => exact .inr (.inl hc)
    | boolean => exact .inr (.inr hc)
    | object => exact absurd rfl hne
  · intro hdeclared hliteral
    obtain ⟨node, c, v, hnode, hc, hv⟩ := literal_resolve hdeclared hn hs follow hliteral
    exact ⟨node, c, v, hnode, hc, hv, ofLiteral_of_denotes hnode hv⟩

/-! A module with two names, where the second is set from the first, which is a literal. -/

namespace Limits

def statements : List Source.Stmt :=
  [.assign [.name "limit" ⟨1, 0, 1, 5⟩] (.constant (.number (.int 7)) ⟨1, 8, 1, 9⟩) ⟨1, 0, 1, 9⟩,
    .assign [.name "size" ⟨2, 0, 2, 4⟩] (.name "limit" ⟨2, 7, 2, 12⟩) ⟨2, 0, 2, 12⟩]

def limit : Node :=
  .property "limit" none (some (.numeric (.int 7) ⟨1, 8, 1, 9⟩)) ⟨Span.unknown, 0⟩ ⟨1, 0, 1, 9⟩

def size : Node :=
  .property "size" none (some (.identifier "limit" ⟨2, 7, 2, 12⟩)) ⟨Span.unknown, 0⟩ ⟨2, 0, 2, 12⟩

def root : Node := .module [limit, size]

def scope : Scope := ⟨none, some root⟩

open scoped Interpreter in
theorem stands {n : Node} (h : n ∈ root.findAll [.node]) : n.Stands :=
  ⟨.ofSource "", statements, [limit, size], rfl, h⟩

theorem stands_root : root.Stands :=
  stands (Node.mem_findAll_self root)

theorem stands_size : size.Stands :=
  stands (Node.mem_findAll_of_mem_children (List.mem_cons_of_mem _ List.mem_cons_self)
    (Node.mem_findAll_self size))

theorem findAll_root : root.findAll [.property, .param] = [limit, size] := by
  have hlimit : limit.findAll [.property, .param] = [limit] :=
    Outline.findAll_of_declared (Outline.declared_property Node.every_nil "limit"
      (some (.constant (.number (.int 7)) ⟨1, 8, 1, 9⟩)) _ _)
  have hsize : size.findAll [.property, .param] = [size] :=
    Outline.findAll_of_declared (Outline.declared_property Node.every_nil "size"
      (some (.name "limit" ⟨2, 7, 2, 12⟩)) _ _)
  rw [Node.findAll_eq, if_neg (by decide), root]
  simp only [Node.children, List.flatMap_cons, hlimit, hsize]
  rfl

theorem isLiteral_size : (resolve scope true size).isLiteral = true := by
  have hfollowed : followed? scope true size = some limit := by
    rw [followed?_of_reference rfl rfl]
    apply lookup_of_find rfl
    rw [findAll_root]
    rfl
  rw [resolve_eq, hfollowed]
  rfl

end Limits

theorem resolve_agrees_size :
    ∃ node c v, (resolve Limits.scope true Limits.size).node = some node ∧
      (resolve Limits.scope true Limits.size).category = some c ∧ node.Denotes c v ∧
      Value.ofLiteral (resolve Limits.scope true Limits.size) = v := by
  have hroots : ∀ root ∈ Limits.scope.roots, root.Stands := by
    intro root hroot
    obtain rfl := List.mem_singleton.mp hroot
    exact Limits.stands_root
  obtain ⟨-, -, hliteral⟩ := resolve_agrees Limits.stands_size hroots true
  exact hliteral rfl Limits.isLiteral_size

end Property
end BranchCover
