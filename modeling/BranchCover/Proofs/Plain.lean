import BranchCover.Outline.Statement
import BranchCover.Proofs.Except
import BranchCover.Subject.Property

/-! What holds throughout an outline. Expressions, annotations and statements without statements in them
are plain throughout: nothing in them declares or decides anything. A field or parameter is declared
with a plain annotation and an expression. -/
namespace BranchCover

namespace Node

inductive Throughout (P : Node → Prop) : Node → Prop where
  | of {n : Node} (here : P n) (below : ∀ c ∈ n.children, Throughout P c) : Throughout P n

/-- A property holds throughout each of the nodes. -/
def Every (P : Node → Prop) (ns : List Node) : Prop :=
  ∀ n ∈ ns, Throughout P n

section

variable {P Q : Node → Prop} {n d : Node} {ns ms : List Node} {kinds : List NodeKind}

@[simp] theorem every_nil : Every P [] := by
  simp [Every]

@[simp] theorem every_cons : Every P (n :: ns) ↔ Throughout P n ∧ Every P ns := by
  simp [Every]

@[simp] theorem every_append : Every P (ns ++ ms) ↔ Every P ns ∧ Every P ms := by
  simp only [Every, List.forall_mem_append]

namespace Throughout

theorem iff : Throughout P n ↔ P n ∧ Every P n.children := by
  constructor
  · rintro ⟨here, below⟩
    exact ⟨here, below⟩
  · rintro ⟨here, below⟩
    exact .of here below

theorem self (hn : Throughout P n) : P n :=
  (iff.mp hn).1

theorem mono (hn : Throughout P n) (h : ∀ m, P m → Q m) : Throughout Q n := by
  induction hn with
  | of here below ih => exact .of (h _ here) ih

theorem of_mem_findAll (hn : Throughout P n) (hd : d ∈ n.findAll kinds) : Throughout P d := by
  induction hn with
  | @of n here below ih =>
    have hbelow : d ∈ n.children.flatMap (findAll kinds) → Throughout P d := by
      intro h
      obtain ⟨c, hc, hd⟩ := List.mem_flatMap.mp h
      exact ih c hc hd
    rw [findAll_eq] at hd
    split at hd
    · rcases List.mem_cons.mp hd with rfl | hd
      · exact .of here below
      · exact hbelow hd
    · exact hbelow hd

theorem findAll_eq_nil (hn : Throughout P n) (h : ∀ m, P m → m.isOf kinds = false) :
    n.findAll kinds = [] := by
  induction hn with
  | of here below ih =>
    rw [findAll_eq, h _ here, if_neg Bool.false_ne_true]
    exact List.flatMap_eq_nil_iff.mpr ih

end Throughout

end

/-- A node neither declares nor decides anything, and is no clause or block. -/
def IsPlain : Node → Prop
  | conditional .. | binary .. | unary .. | identifier .. | memberAccess .. | call .. | numeric ..
  | string .. | boolean .. | noneLit .. | hint .. | arrayType .. | typeRef .. | compound .. => True
  | _ => False

theorem plain_withSpan {n : Node} (s : Span) (h : n.Throughout IsPlain) :
    (n.withSpan s).Throughout IsPlain := by
  rw [Throughout.iff] at h ⊢
  cases n <;> exact h

end Node

/-- A statement has no statements in it. -/
def Source.Stmt.isSimple : Source.Stmt → Bool
  | function .. | classDef .. | forLoop .. | whileLoop .. | ifStmt .. | withStmt .. | matchStmt ..
  | tryStmt .. => false
  | _ => true

namespace Outline

open Source
open Node (Throughout Every IsPlain)

@[simp] theorem plain_leaf (label : String) : (leaf label).Throughout IsPlain :=
  .of trivial Node.every_nil

@[simp] theorem plain_ofConstant (s : Span) (c : Constant) :
    (ofConstant s c).Throughout IsPlain := by
  cases c <;> exact .of trivial Node.every_nil

@[simp] theorem plain_ofAccess (a : Access) : (ofAccess a).Throughout IsPlain := by
  cases a <;> exact plain_leaf _

@[simp] theorem plain_ofBoolOp (op : BoolOp) : (ofBoolOp op).Throughout IsPlain := by
  cases op <;> exact plain_leaf _

@[simp] theorem plain_ofBinaryOp (op : BinaryOp) : (ofBinaryOp op).Throughout IsPlain := by
  cases op <;> exact plain_leaf _

@[simp] theorem plain_ofRelation (r : Relation) : (ofRelation r).Throughout IsPlain := by
  cases r <;> exact plain_leaf _

theorem plain_map_ofRelation (rs : List Relation) : Every IsPlain (rs.map ofRelation) := by
  simp [Every]

theorem ofExpr_unary (op : UnaryOp) (operand : Expr) (s : Span) :
    (∃ n, ofExpr (.unary op operand s) = .numeric n s) ∨
      ofExpr (.unary op operand s) = .unary op (ofExpr operand) s := by
  by_cases h : op = .minus ∧ ∃ n t, operand = .constant (.number n) t
  · obtain ⟨rfl, n, t, rfl⟩ := h
    exact .inl ⟨n.neg, rfl⟩
  · right
    rw [ofExpr]
    rintro n t rfl rfl
    exact h ⟨rfl, n, t, rfl⟩

/-- A comparison with one operator keeps its sides; a chain is a compound. -/
theorem ofExpr_compare (left : Expr) (relations : List Relation) (rights : List Expr) (s : Span) :
    (∃ relation right, rights = [right] ∧ ofExpr (.compare left relations rights s) =
        .binary (ofExpr left) relation (ofExpr right) s) ∨
      ofExpr (.compare left relations rights s) =
        .compound "Compare" (ofExpr left :: (relations.map ofRelation ++ ofExprs rights)) s := by
  by_cases h : ∃ relation right, relations = [relation] ∧ rights = [right]
  · obtain ⟨relation, right, rfl, rfl⟩ := h
    exact .inl ⟨relation, right, rfl, rfl⟩
  · right
    rw [ofExpr]
    rintro relation right rfl rfl
    exact h ⟨relation, right, rfl, rfl⟩

theorem plain_compound {label : String} {items : List Node} {s : Span} (h : Every IsPlain items) :
    (Node.compound label items s).Throughout IsPlain :=
  .of trivial h

mutual

/-- By induction on the expression, one case for each construct of the grammar. -/
theorem plain_ofExpr : ∀ e : Expr, (ofExpr e).Throughout IsPlain
  | .constant c s => by
    rw [ofExpr]
    exact plain_ofConstant s c
  | .name id s => .of trivial Node.every_nil
  | .member value attr s => by
    rw [ofExpr]
    exact .of trivial (Node.every_cons.mpr ⟨plain_ofExpr value, Node.every_nil⟩)
  | .subscript value index a s => by
    rw [ofExpr]
    exact plain_compound (by simp [plain_ofExpr value, plain_ofExpr index])
  | .starred value a s => by
    rw [ofExpr]
    exact plain_compound (by simp [plain_ofExpr value])
  | .list items a s => by
    rw [ofExpr]
    exact plain_compound (by simp [plain_ofExprs items, -ofExprs_eq])
  | .tuple items a s => by
    rw [ofExpr]
    exact plain_compound (by simp [plain_ofExprs items, -ofExprs_eq])
  | .set items s => by
    rw [ofExpr]
    exact plain_compound (plain_ofExprs items)
  | .dict items s => by
    rw [ofExpr]
    exact plain_compound (Node.every_append.mpr ⟨plain_keys items, plain_values items⟩)
  | .listComp item loops s => by
    rw [ofExpr]
    exact plain_compound (Node.every_cons.mpr ⟨plain_ofExpr item, plain_ofLoops loops⟩)
  | .setComp item loops s => by
    rw [ofExpr]
    exact plain_compound (Node.every_cons.mpr ⟨plain_ofExpr item, plain_ofLoops loops⟩)
  | .dictComp key value loops s => by
    rw [ofExpr]
    exact plain_compound (by simp [plain_ofExpr key, plain_ofExpr value, plain_ofLoops loops])
  | .generator item loops s => by
    rw [ofExpr]
    exact plain_compound (Node.every_cons.mpr ⟨plain_ofExpr item, plain_ofLoops loops⟩)
  | .lambda params body s => by
    rw [ofExpr]
    exact plain_compound (by simp [plain_ofParameters params, plain_ofExpr body])
  | .boolOp op values s => by
    rw [ofExpr]
    exact plain_compound (by simp [plain_ofExprs values, -ofExprs_eq])
  | .named target value s => by
    rw [ofExpr]
    exact plain_compound (by simp [plain_ofExpr target, plain_ofExpr value])
  | .binary left op right s => by
    rw [ofExpr]
    exact plain_compound (by simp [plain_ofExpr left, plain_ofExpr right])
  | .unary op operand s => by
    rcases ofExpr_unary op operand s with ⟨n, h⟩ | h
    · rw [h]
      exact .of trivial Node.every_nil
    · rw [h]
      exact .of trivial (Node.every_cons.mpr ⟨plain_ofExpr operand, Node.every_nil⟩)
  | .conditional test body orelse s => by
    have hparts : Every IsPlain [ofExpr test, ofExpr body, ofExpr orelse] := by
      simp [plain_ofExpr test, plain_ofExpr body, plain_ofExpr orelse]
    rw [ofExpr]
    exact .of trivial hparts
  | .await value s => by
    rw [ofExpr]
    exact plain_compound (by simp [plain_ofExpr value])
  | .yield value s => by
    rw [ofExpr]
    exact plain_compound (plain_ofOptional value)
  | .yieldFrom value s => by
    rw [ofExpr]
    exact plain_compound (by simp [plain_ofExpr value])
  | .compare left relations rights s => by
    have hrights := plain_ofExprs rights
    rcases ofExpr_compare left relations rights s with ⟨relation, right, rfl, h⟩ | h
    · rw [h]
      exact .of trivial (Node.every_cons.mpr ⟨plain_ofExpr left, hrights⟩)
    · rw [h]
      exact plain_compound
        (by simp [plain_ofExpr left, plain_map_ofRelation, hrights, -ofExprs_eq])
  | .call func args keywords s => by
    have hparts : Every IsPlain (ofExpr func :: (ofExprs args ++ ofKeywords keywords)) := by
      simp [plain_ofExpr func, plain_ofExprs args, plain_ofKeywords keywords, -ofExprs_eq,
        -ofKeywords_eq]
    rw [ofExpr]
    exact .of trivial hparts
  | .field value conversion format s => by
    rw [ofExpr]
    exact plain_compound (Node.every_cons.mpr ⟨plain_ofExpr value, plain_ofOptional format⟩)
  | .formatted parts s => by
    rw [ofExpr]
    exact plain_compound (plain_ofExprs parts)
  | .slice lower upper step s => by
    rw [ofExpr]
    exact plain_compound
      (by simp [plain_ofOptional lower, plain_ofOptional upper, plain_ofOptional step])

theorem plain_ofExprs : ∀ es : List Expr, Every IsPlain (ofExprs es)
  | [] => Node.every_nil
  | e :: es => Node.every_cons.mpr ⟨plain_ofExpr e, plain_ofExprs es⟩

theorem plain_ofOptional : ∀ o : Option Expr, Every IsPlain (ofOptional o)
  | none => Node.every_nil
  | some e => Node.every_cons.mpr ⟨plain_ofExpr e, Node.every_nil⟩

theorem plain_ofKeywords : ∀ ks : List Keyword, Every IsPlain (ofKeywords ks)
  | [] => Node.every_nil
  | .mk _ value :: ks => Node.every_cons.mpr ⟨plain_ofExpr value, plain_ofKeywords ks⟩

theorem plain_keys : ∀ is : List DictItem, Every IsPlain (keys is)
  | [] => Node.every_nil
  | .pair key _ :: is => Node.every_cons.mpr ⟨plain_ofExpr key, plain_keys is⟩
  | .spread _ :: is => plain_keys is

theorem plain_values : ∀ is : List DictItem, Every IsPlain (values is)
  | [] => Node.every_nil
  | .pair _ value :: is => Node.every_cons.mpr ⟨plain_ofExpr value, plain_values is⟩
  | .spread value :: is => Node.every_cons.mpr ⟨plain_ofExpr value, plain_values is⟩

theorem plain_ofLoops : ∀ ls : List Comprehension, Every IsPlain (ofLoops ls)
  | [] => Node.every_nil
  | .mk target iter tests _ :: ls => by
    have hloop : Every IsPlain (ofExpr target :: ofExpr iter :: ofExprs tests) := by
      simp [plain_ofExpr target, plain_ofExpr iter, plain_ofExprs tests, -ofExprs_eq]
    rw [ofLoops]
    exact Node.every_cons.mpr ⟨plain_compound hloop, plain_ofLoops ls⟩

theorem plain_ofParam : ∀ p : Param, (ofParam p).Throughout IsPlain
  | .mk _ typing _ s => by
    rw [ofParam]
    exact plain_compound (plain_ofOptional typing)

theorem plain_ofParams : ∀ ps : List Param, Every IsPlain (ofParams ps)
  | [] => Node.every_nil
  | p :: ps => Node.every_cons.mpr ⟨plain_ofParam p, plain_ofParams ps⟩

theorem plain_ofGathered : ∀ o : Option Param, Every IsPlain (ofGathered o)
  | none => Node.every_nil
  | some p => Node.every_cons.mpr ⟨plain_ofParam p, Node.every_nil⟩

theorem plain_ofDefault : ∀ p : Param, Every IsPlain (ofDefault p)
  | .mk _ _ default _ => by
    rw [ofDefault]
    exact plain_ofOptional default

theorem plain_ofDefaults : ∀ ps : List Param, Every IsPlain (ofDefaults ps)
  | [] => Node.every_nil
  | p :: ps => Node.every_append.mpr ⟨plain_ofDefault p, plain_ofDefaults ps⟩

theorem plain_ofParameters : ∀ ps : Parameters, (ofParameters ps).Throughout IsPlain
  | .mk posOnly args rest kwOnly keywords => by
    rw [ofParameters]
    exact plain_compound (by
      simp [plain_ofParams posOnly, plain_ofParams args, plain_ofGathered rest,
        plain_ofParams kwOnly, plain_ofDefaults kwOnly, plain_ofGathered keywords,
        plain_ofDefaults posOnly, plain_ofDefaults args])

end

theorem plain_hint (h : Hint) (s : Span) : (Node.hint h s).Throughout IsPlain :=
  .of trivial Node.every_nil

theorem plain_arrayType {element : Node} (s : Span) (h : element.Throughout IsPlain) :
    (Node.arrayType element s).Throughout IsPlain :=
  .of trivial (Node.every_cons.mpr ⟨h, Node.every_nil⟩)

theorem plain_ofName (s : Span) (name : String) : (Typing.ofName s name).Throughout IsPlain := by
  unfold Typing.ofName
  split
  · exact plain_hint _ s
  split
  · exact plain_hint _ s
  split
  · exact plain_hint _ s
  split
  · exact plain_arrayType s (plain_hint _ s)
  split
  · exact plain_hint _ s
  · exact .of trivial Node.every_nil

/-- By induction on how an annotation is read. -/
theorem plain_read {expression : Text → Except Refusal Expr} {bound : Option Nat} {e : Expr}
    {n : Node} (h : Typing.read expression bound e = .ok n) : n.Throughout IsPlain := by
  fun_induction Typing.read expression bound e generalizing n with
  | case1 bound e he =>
    obtain rfl := pure_eq_ok.mp h
    exact plain_hint _ _
  | case2 bound e name he =>
    obtain rfl := pure_eq_ok.mp h
    exact plain_ofName _ _
  | case3 bound e inner he hlt ih => exact ih h
  | case4 bound e he =>
    obtain rfl := pure_eq_ok.mp h
    exact plain_arrayType _ (plain_hint _ _)
  | case5 bound e element he hlt ih =>
    obtain ⟨x, hx, hn⟩ := bind_eq_ok.mp h
    obtain rfl := pure_eq_ok.mp hn
    exact plain_arrayType _ (ih hx)
  | case6 bound e t he hfits inner hinner ih =>
    obtain ⟨x, hx, hn⟩ := bind_eq_ok.mp h
    obtain rfl := pure_eq_ok.mp hn
    exact Node.plain_withSpan _ (ih hx)
  | case7 bound e t he hfits fault hfault =>
    obtain rfl := pure_eq_ok.mp h
    exact plain_hint _ _
  | case8 bound e t he hfits r hr herror => cases h
  | case9 bound e t he hfits =>
    obtain rfl := pure_eq_ok.mp h
    exact plain_hint _ _

theorem plain_typing {r : Reader} {e : Expr} {n : Node} (h : r.typing e = .ok n) :
    n.Throughout IsPlain :=
  plain_read (mapError_eq_ok.mp h)

/-- What holds throughout what an annotation is read as holds throughout what an optional one is. -/
theorem every_typing? {Q : Node → Prop} {r : Reader} {o : Option Expr} {a : Option Node}
    (ho : ∀ e ∈ o, ∀ {n}, r.typing e = .ok n → n.Throughout Q) (h : r.typing? o = .ok a) :
    Every Q a.toList := by
  cases o with
  | none =>
    obtain rfl := pure_eq_ok.mp h
    exact Node.every_nil
  | some e =>
    obtain ⟨n, hn, ha⟩ := bind_eq_ok.mp h
    obtain rfl := pure_eq_ok.mp ha
    exact Node.every_cons.mpr ⟨ho e rfl hn, Node.every_nil⟩

theorem every_map_ofExpr {Q : Node → Prop} {o : Option Expr}
    (ho : ∀ e ∈ o, (ofExpr e).Throughout Q) : Every Q (o.map ofExpr).toList := by
  cases o with
  | none => exact Node.every_nil
  | some e => exact Node.every_cons.mpr ⟨ho e rfl, Node.every_nil⟩

theorem plain_typing? {r : Reader} {o : Option Expr} {a : Option Node}
    (h : r.typing? o = .ok a) : Every IsPlain a.toList :=
  every_typing? (fun _ _ => plain_typing) h

theorem plain_map_ofExpr (o : Option Expr) : Every IsPlain (o.map ofExpr).toList :=
  every_map_ofExpr fun e _ => plain_ofExpr e

mutual

/-- By induction on the pattern: each of its tests is an expression, or a compound without parts. -/
theorem plain_tests : ∀ (p : Pattern) (t : Node), some t ∈ tests p → t.Throughout IsPlain
  | .value e s, t, h => by
    obtain rfl : t = ofExpr e := by simpa [tests] using h
    exact plain_ofExpr e
  | .singleton c s, t, h => by
    obtain rfl : t = ofConstant s c := by simpa [tests] using h
    exact plain_ofConstant s c
  | .alternatives ps s, t, h => by
    rw [tests] at h
    exact plain_testsOfAll ps t h
  | .capture none name s, t, h => by simp [tests] at h
  | .capture (some p) name s, t, h => by
    rw [tests] at h
    exact plain_tests p t h
  | .sequence ps s, t, h => by
    obtain rfl : t = .compound "MatchSequence" [] s := by simpa [tests] using h
    exact plain_compound Node.every_nil
  | .mapping ks ps rest s, t, h => by
    obtain rfl : t = .compound "MatchMapping" [] s := by simpa [tests] using h
    exact plain_compound Node.every_nil
  | .object c ps names named s, t, h => by
    obtain rfl : t = .compound "MatchClass" [] s := by simpa [tests] using h
    exact plain_compound Node.every_nil
  | .star name s, t, h => by
    obtain rfl : t = .compound "MatchStar" [] s := by simpa [tests] using h
    exact plain_compound Node.every_nil

theorem plain_testsOfAll : ∀ (ps : List Pattern) (t : Node),
    some t ∈ tests.testsOfAll ps → t.Throughout IsPlain
  | [], t, h => by simp [tests.testsOfAll] at h
  | p :: ps, t, h => by
    rw [tests.testsOfAll, List.mem_append] at h
    rcases h with h | h
    · exact plain_tests p t h
    · exact plain_testsOfAll ps t h

end

theorem plain_ofAliases (names : List Alias) : Every IsPlain (names.map ofAlias) := by
  intro n hn
  obtain ⟨a, -, rfl⟩ := List.mem_map.mp hn
  exact plain_compound Node.every_nil

theorem plain_ofItems (items : List WithItem) : Every IsPlain (items.map ofItem) := by
  intro n hn
  obtain ⟨i, -, rfl⟩ := List.mem_map.mp hn
  exact plain_compound (Node.every_cons.mpr ⟨plain_ofExpr _, plain_ofOptional _⟩)

theorem exists_plain_of_isSimple (r : Reader) {s : Stmt} (hs : s.isSimple) :
    ∃ n, ofStmt r s = .ok n ∧ n.Throughout IsPlain := by
  cases s with
  | expr value s => exact ⟨_, rfl, plain_ofExpr value⟩
  | returnStmt value s => exact ⟨_, rfl, plain_compound (plain_ofOptional value)⟩
  | delete targets s => exact ⟨_, rfl, plain_compound (plain_ofExprs targets)⟩
  | assign targets value s =>
    exact ⟨_, rfl, plain_compound (by simp [plain_ofExprs targets, plain_ofExpr value, -ofExprs_eq])⟩
  | augment target op value s =>
    exact ⟨_, rfl, plain_compound (by simp [plain_ofExpr target, plain_ofExpr value])⟩
  | annotate target typing value s =>
    exact ⟨_, rfl, plain_compound
      (by simp [plain_ofExpr target, plain_ofExpr typing, plain_ofOptional value])⟩
  | raise exception cause s =>
    exact ⟨_, rfl, plain_compound
      (Node.every_append.mpr ⟨plain_ofOptional exception, plain_ofOptional cause⟩)⟩
  | assert test message s =>
    exact ⟨_, rfl, plain_compound
      (Node.every_cons.mpr ⟨plain_ofExpr test, plain_ofOptional message⟩)⟩
  | importStmt names s | importFrom path names level s =>
    exact ⟨_, rfl, plain_compound (plain_ofAliases names)⟩
  | global names s | nonlocal names s | pass s | breakStmt s | continueStmt s =>
    exact ⟨_, rfl, plain_compound Node.every_nil⟩
  | _ => cases hs

theorem plain_of_isSimple {r : Reader} {s : Stmt} {n : Node} (hs : s.isSimple)
    (h : ofStmt r s = .ok n) : n.Throughout IsPlain := by
  obtain ⟨m, hm, hplain⟩ := exists_plain_of_isSimple r hs
  rw [h] at hm
  exact Except.ok.inj hm ▸ hplain

/-- The initializer of a node, if it has one, is an expression. -/
def Initialized (n : Node) : Prop :=
  ∀ init, Property.initializer? n = some init → ∃ e, ofExpr e = init

/-- A field or parameter as a source declares it. -/
structure Declared (n : Node) : Prop where
  isOf : n.isOf [.property, .param] = true
  plain : Every IsPlain n.children
  initialized : Initialized n

theorem initialized_of_map {n : Node} (value : Option Expr)
    (h : Property.initializer? n = value.map ofExpr) : Initialized n := by
  intro init hinit
  rw [h] at hinit
  obtain ⟨e, -, he⟩ := Option.map_eq_some_iff.mp hinit
  exact ⟨e, he⟩

theorem declared_property {a : Option Node} (ha : Every IsPlain a.toList) (name : String)
    (value : Option Expr) (site : Site) (s : Span) :
    Declared (.property name a (value.map ofExpr) site s) where
  isOf := rfl
  plain := Node.every_append.mpr ⟨ha, plain_map_ofExpr value⟩
  initialized := initialized_of_map value rfl

theorem declared_param {a : Option Node} (ha : Every IsPlain a.toList) (name : String)
    (default : Option Expr) (kwOnly : Bool) (s : Span) :
    Declared (.param name a (default.map ofExpr) kwOnly s) where
  isOf := rfl
  plain := Node.every_append.mpr ⟨ha, plain_map_ofExpr default⟩
  initialized := initialized_of_map default rfl

theorem declared_of_mem_params {r : Reader} {ps : List (Source.Param × Bool)} {ns : List Node}
    (h : ps.mapM (param r) = .ok ns) : ∀ n ∈ ns, Declared n := by
  intro n hn
  obtain ⟨p, -, hp⟩ := exists_of_mem_mapM h n hn
  obtain ⟨a, ha, hn⟩ := bind_eq_ok.mp hp
  obtain rfl := pure_eq_ok.mp hn
  exact declared_param (plain_typing? ha) _ _ _ _

theorem declared_of_mem_instanceFields {r : Reader} {owner : Span} {declared : List String}
    {ps : Parameters} {body : List Stmt} {ns : List Node}
    (h : instanceFields r owner declared ps body = .ok ns) : ∀ n ∈ ns, Declared n := by
  unfold instanceFields at h
  split at h
  · obtain rfl := pure_eq_ok.mp h
    simp
  · intro n hn
    obtain ⟨b, -, hb⟩ := exists_of_mem_mapM h n hn
    obtain ⟨a, ha, hn⟩ := bind_eq_ok.mp hb
    obtain rfl := pure_eq_ok.mp hn
    exact declared_property (plain_typing? ha) _ _ _ _

theorem declared_of_mem_declarations {r : Reader} {owner : Span} {s : Stmt}
    {ds : Except Failure (List Node)} {ns : List Node} (hs : declarations? r owner s = some ds)
    (h : ds = .ok ns) : s.isSimple ∧ ∀ n ∈ ns, Declared n := by
  unfold declarations? at hs
  split at hs
  · obtain rfl := Option.some.inj hs
    obtain ⟨a, ha, hn⟩ := bind_eq_ok.mp h
    obtain rfl := pure_eq_ok.mp hn
    have hplain : Every IsPlain (some a).toList :=
      Node.every_cons.mpr ⟨plain_typing ha, Node.every_nil⟩
    refine ⟨rfl, ?_⟩
    intro n hn
    obtain rfl := List.mem_singleton.mp hn
    exact declared_property hplain _ _ _ _
  · dsimp only at hs
    split at hs
    · cases hs
    · obtain rfl := Option.some.inj hs
      obtain rfl := pure_eq_ok.mp h
      refine ⟨rfl, ?_⟩
      intro n hn
      obtain ⟨b, -, rfl⟩ := List.mem_map.mp hn
      exact declared_property Node.every_nil _ (some _) _ _
  · cases hs

end Outline
end BranchCover
