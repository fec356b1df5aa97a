import BranchCover.Proofs.Plain

/-! How statements, functions, the members of a class and the statements of a module are read. The outline
of a statement is made of the outlines of its parts. Besides the statements in them there is nothing but
what is plain and what is declared. -/
namespace BranchCover
namespace Outline

open Source
open Node (Throughout Every IsPlain)

section

variable {r : Reader} {s : Span} {n : Node} {ns : List Node}

theorem ofStmts_cons {x : Stmt} {xs : List Stmt} (h : ofStmts r (x :: xs) = .ok ns) :
    ∃ n rest, ofStmt r x = .ok n ∧ ofStmts r xs = .ok rest ∧ ns = n :: rest := by
  rw [ofStmts] at h
  obtain ⟨n, hn, h⟩ := bind_eq_ok.mp h
  obtain ⟨rest, hrest, h⟩ := bind_eq_ok.mp h
  exact ⟨n, rest, hn, hrest, (pure_eq_ok.mp h).symm⟩

/-- A block holds the outlines of its statements; there is none without statements. -/
theorem exists_of_ofBlock {ss : List Stmt} (h : ofBlock r s ss = .ok ns) :
    ∃ os, ofStmts r ss = .ok os ∧
      ns = if ss.isEmpty then [] else [.block os (blockSpan s ss)] := by
  cases ss with
  | nil =>
    obtain rfl := pure_eq_ok.mp h
    exact ⟨[], rfl, rfl⟩
  | cons x xs =>
    obtain ⟨n, hn, h⟩ := bind_eq_ok.mp h
    obtain ⟨rest, hrest, h⟩ := bind_eq_ok.mp h
    obtain rfl := pure_eq_ok.mp h
    refine ⟨n :: rest, ?_, rfl⟩
    rw [ofStmts, hn, hrest]
    rfl

theorem ofStmt_classDef {name : String} {bases : List Expr} {ks : List Keyword}
    {body : List Stmt} {ds : List Expr}
    (h : ofStmt r (.classDef name bases ks body ds s) = .ok n) :
    ∃ items, ofMembers r s (boundNames body) false body = .ok items ∧
      n = .classDecl name items s := by
  rw [ofStmt] at h
  obtain ⟨items, hitems, h⟩ := bind_eq_ok.mp h
  exact ⟨items, hitems, (pure_eq_ok.mp h).symm⟩

theorem ofStmt_ifStmt_parts {test : Expr} {body orelse : List Stmt}
    (h : ofStmt r (.ifStmt test body orelse s) = .ok n) :
    ∃ b o, ofStmts r body = .ok b ∧ ofBlock r s orelse = .ok o ∧
      n = .ifStmt (ofExpr test) (.block b (blockSpan s body)) o.head? s := by
  rw [ofStmt] at h
  obtain ⟨b, hb, h⟩ := bind_eq_ok.mp h
  obtain ⟨o, ho, h⟩ := bind_eq_ok.mp h
  exact ⟨b, o, hb, ho, (pure_eq_ok.mp h).symm⟩

theorem ofStmt_ifStmt {test : Expr} {body orelse : List Stmt}
    (h : ofStmt r (.ifStmt test body orelse s) = .ok n) : ∃ b o, n = .ifStmt (ofExpr test) b o s := by
  obtain ⟨b, o, -, -, rfl⟩ := ofStmt_ifStmt_parts h
  exact ⟨_, _, rfl⟩

theorem ofStmt_matchStmt {subject : Expr} {cases : List MatchCase}
    (h : ofStmt r (.matchStmt subject cases s) = .ok n) :
    ∃ cs, ofCases r false cases = .ok cs ∧ n = .switch (ofExpr subject) cs s := by
  rw [ofStmt] at h
  obtain ⟨cs, hcs, h⟩ := bind_eq_ok.mp h
  exact ⟨cs, hcs, (pure_eq_ok.mp h).symm⟩

theorem ofStmt_forLoop {target iter : Expr} {body orelse : List Stmt} {isAsync : Bool}
    (h : ofStmt r (.forLoop target iter body orelse isAsync s) = .ok n) :
    ∃ b o, ofBlock r s body = .ok b ∧ ofBlock r s orelse = .ok o ∧
      n = .compound (if isAsync then "AsyncFor" else "For")
        (ofExpr target :: ofExpr iter :: (b ++ o)) s := by
  rw [ofStmt] at h
  obtain ⟨b, hb, h⟩ := bind_eq_ok.mp h
  obtain ⟨o, ho, h⟩ := bind_eq_ok.mp h
  exact ⟨b, o, hb, ho, (pure_eq_ok.mp h).symm⟩

theorem ofStmt_whileLoop {test : Expr} {body orelse : List Stmt}
    (h : ofStmt r (.whileLoop test body orelse s) = .ok n) :
    ∃ b o, ofBlock r s body = .ok b ∧ ofBlock r s orelse = .ok o ∧
      n = .compound "While" (ofExpr test :: (b ++ o)) s := by
  rw [ofStmt] at h
  obtain ⟨b, hb, h⟩ := bind_eq_ok.mp h
  obtain ⟨o, ho, h⟩ := bind_eq_ok.mp h
  exact ⟨b, o, hb, ho, (pure_eq_ok.mp h).symm⟩

theorem ofStmt_withStmt {items : List WithItem} {body : List Stmt} {isAsync : Bool}
    (h : ofStmt r (.withStmt items body isAsync s) = .ok n) :
    ∃ b, ofBlock r s body = .ok b ∧
      n = .compound (if isAsync then "AsyncWith" else "With") (items.map ofItem ++ b) s := by
  rw [ofStmt] at h
  obtain ⟨b, hb, h⟩ := bind_eq_ok.mp h
  exact ⟨b, hb, (pure_eq_ok.mp h).symm⟩

theorem ofStmt_tryStmt {body orelse final : List Stmt} {handlers : List Handler} {isStar : Bool}
    (h : ofStmt r (.tryStmt body handlers orelse final isStar s) = .ok n) :
    ∃ b hs o f, ofBlock r s body = .ok b ∧ ofHandlers r handlers = .ok hs ∧
      ofBlock r s orelse = .ok o ∧ ofBlock r s final = .ok f ∧
      n = .compound (if isStar then "TryStar" else "Try") (b ++ hs ++ o ++ f) s := by
  rw [ofStmt] at h
  obtain ⟨b, hb, h⟩ := bind_eq_ok.mp h
  obtain ⟨hs, hhs, h⟩ := bind_eq_ok.mp h
  obtain ⟨o, ho, h⟩ := bind_eq_ok.mp h
  obtain ⟨f, hf, h⟩ := bind_eq_ok.mp h
  exact ⟨b, hs, o, f, hb, hhs, ho, hf, (pure_eq_ok.mp h).symm⟩

theorem ofCases_cons {taken : Bool} {pattern : Pattern} {guard : Option Expr}
    {body : List Stmt} {cs : List MatchCase}
    (h : ofCases r taken (.mk pattern guard body :: cs) = .ok ns) :
    ∃ b rest, ofStmts r body = .ok b ∧
      ofCases r (taken || (tests pattern).any (·.isNone)) cs = .ok rest ∧
      ns = clausesOf (.block b (blockSpan Span.unknown body)) pattern.span taken (tests pattern) ++
        rest := by
  rw [ofCases] at h
  obtain ⟨b, hb, h⟩ := bind_eq_ok.mp h
  obtain ⟨rest, hrest, h⟩ := bind_eq_ok.mp h
  exact ⟨b, rest, hb, hrest, (pure_eq_ok.mp h).symm⟩

theorem ofHandlers_cons {type : Option Expr} {name : Option String} {body : List Stmt}
    {hs : List Handler} (h : ofHandlers r (.mk type name body s :: hs) = .ok ns) :
    ∃ b rest, ofBlock r s body = .ok b ∧ ofHandlers r hs = .ok rest ∧
      ns = .compound "ExceptHandler" (ofOptional type ++ b) s :: rest := by
  rw [ofHandlers] at h
  obtain ⟨b, hb, h⟩ := bind_eq_ok.mp h
  obtain ⟨rest, hrest, h⟩ := bind_eq_ok.mp h
  exact ⟨b, rest, hb, hrest, (pure_eq_ok.mp h).symm⟩

end

section

variable {Q : Node → Prop}

/-- What holds throughout the outlines of statements holds throughout their block. -/
theorem every_ofBlock {r : Reader} {s : Span} {ss : List Stmt} {ns : List Node}
    (hblock : ∀ ns s, Q (.block ns s)) (hss : ∀ {os}, ofStmts r ss = .ok os → Every Q os)
    (h : ofBlock r s ss = .ok ns) : Every Q ns := by
  obtain ⟨os, hos, rfl⟩ := exists_of_ofBlock h
  split
  · exact Node.every_nil
  · exact Node.every_cons.mpr ⟨.of (hblock _ _) (hss hos), Node.every_nil⟩

theorem mem_clausesOf {body c : Node} {s : Span} {taken : Bool} {ts : List (Option Node)}
    (h : c ∈ clausesOf body s taken ts) :
    (∃ t, some t ∈ ts ∧ c = .caseClause t body s) ∨ c = .defaultClause body s := by
  fun_induction clausesOf body s taken ts with
  | case1 => cases h
  | case2 _ t ts ih =>
    rcases List.mem_cons.mp h with rfl | h
    · exact .inl ⟨t, List.mem_cons_self, rfl⟩
    · exact (ih h).imp_left fun ⟨t, ht, hc⟩ => ⟨t, List.mem_cons_of_mem _ ht, hc⟩
  | case3 ts ih =>
    rcases List.mem_cons.mp h with rfl | h
    · exact .inr rfl
    · exact (ih h).imp_left fun ⟨t, ht, hc⟩ => ⟨t, List.mem_cons_of_mem _ ht, hc⟩
  | case4 ts ih => exact (ih h).imp_left fun ⟨t, ht, hc⟩ => ⟨t, List.mem_cons_of_mem _ ht, hc⟩

theorem every_clausesOf {body : Node} {s : Span} (hcase : ∀ t b s, Q (.caseClause t b s))
    (hdefault : ∀ b s, Q (.defaultClause b s)) (hbody : body.Throughout Q) (taken : Bool)
    {ts : List (Option Node)} (hts : ∀ t, some t ∈ ts → t.Throughout Q) :
    Every Q (clausesOf body s taken ts) := by
  intro c hc
  rcases mem_clausesOf hc with ⟨t, ht, rfl⟩ | rfl
  · have hparts : Every Q [t, body] := by simp [hts t ht, hbody]
    exact .of (hcase _ _ _) hparts
  · have hparts : Every Q [body] := by simp [hbody]
    exact .of (hdefault _ _) hparts

theorem every_toList_head? {ns : List Node} (h : Every Q ns) : Every Q ns.head?.toList := by
  cases ns with
  | nil => exact Node.every_nil
  | cons n ns => exact Node.every_cons.mpr ⟨(Node.every_cons.mp h).1, Node.every_nil⟩

end

/-- A function with a body: a method with its parameters, or a compound of the body and what is plain. -/
inductive FunctionOf (body : Node) : Node → Prop where
  | method (head : MethodHead) {params : List Node} {returns : Option Node} (s : Span)
      (declared : ∀ p ∈ params, Declared p) (plain : Every IsPlain returns.toList) :
      FunctionOf body (.method head params body returns s)
  | compound (label : String) {before after : List Node} (s : Span) (plain : Every IsPlain before)
      (plain' : Every IsPlain after) : FunctionOf body (.compound label (before ++ body :: after) s)

theorem method_parts {r : Reader} {inClass isConstructor : Bool} {f : Function}
    {body : Except Failure Node} {n : Node} (h : method r inClass isConstructor f body = .ok n) :
    ∃ modifiers params block returns returnsText,
      f.decorators.mapM decoratorName = .ok modifiers ∧
      (shownParams (inClass && !modifiers.contains "staticmethod") f.params).mapM (param r) =
        .ok params ∧
      body = .ok block ∧ r.typing? f.returns = .ok returns ∧
      n = .method ⟨isConstructor, f.name, returnsText, modifiers, f.isAsync,
        if inClass && !modifiers.contains "staticmethod" then f.params.positional.head?.map Param.name
        else none⟩ params block returns f.span := by
  obtain ⟨modifiers, hmodifiers, h⟩ := bind_eq_ok.mp h
  obtain ⟨params, hparams, h⟩ := bind_eq_ok.mp h
  obtain ⟨block, hblock, h⟩ := bind_eq_ok.mp h
  obtain ⟨returns, hreturns, h⟩ := bind_eq_ok.mp h
  exact ⟨modifiers, params, block, returns, _, hmodifiers, hparams, hblock, hreturns,
    (pure_eq_ok.mp h).symm⟩

/-- A function is read with the body of its statements, wherever it stands. -/
theorem exists_of_method {r : Reader} {inClass isConstructor : Bool} {f : Function}
    {body : List Stmt} {s : Span} {n : Node}
    (h : method r inClass isConstructor f (do
      let b ← ofStmts r body
      pure (.block b s)) = .ok n) :
    ∃ b, ofStmts r body = .ok b ∧ FunctionOf (.block b s) n := by
  obtain ⟨_, params, block, returns, _, -, hparams, hblock, hreturns, rfl⟩ := method_parts h
  obtain ⟨b, hb, hblock⟩ := bind_eq_ok.mp hblock
  obtain rfl := pure_eq_ok.mp hblock
  exact ⟨b, hb, .method _ _ (declared_of_mem_params hparams) (plain_typing? hreturns)⟩

/-- How a function among the members of a class is read, with whether the class has its constructor before
it and after it: as a method, as a further initializer, which is a compound, or as the constructor, after
the fields that it gives to the instance. -/
inductive ReadFunction (r : Reader) (owner : Span) (declared : List String) (f : Function)
    (body : List Stmt) : Bool → List Node → Bool → Prop where
  | method {hasInit : Bool} {m : Node} (hname : f.name ≠ "__init__")
      (h : method r true false f (do
        let b ← ofStmts r body
        pure (.block b (blockSpan f.span body))) = .ok m) :
      ReadFunction r owner declared f body hasInit [m] hasInit
  | further {b : List Node} (hname : f.name = "__init__") (h : ofStmts r body = .ok b) :
      ReadFunction r owner declared f body true
        [.compound (if f.isAsync then "AsyncFunctionDef" else "FunctionDef")
          (ofParameters f.params :: .block b (blockSpan f.span body) ::
            (ofExprs f.decorators ++ ofOptional f.returns)) f.span] true
  | constructor {fields : List Node} {m : Node} (hname : f.name = "__init__")
      (hfields : instanceFields r owner declared f.params body = .ok fields)
      (h : Outline.method r true true f (do
        let b ← ofStmts r body
        pure (.block b (blockSpan f.span body))) = .ok m) :
      ReadFunction r owner declared f body false (fields ++ [m]) true

/-- A function among the members of a class is read before what follows it. -/
theorem exists_of_ofMembers_function {r : Reader} {owner : Span} {declared : List String}
    {hasInit : Bool} {name : String} {ps : Parameters} {body : List Stmt} {ds : List Expr}
    {returns : Option Expr} {isAsync : Bool} {s : Span} {ss : List Stmt} {ns : List Node}
    (h : ofMembers r owner declared hasInit (.function name ps body ds returns isAsync s :: ss) =
      .ok ns) :
    ∃ ms rest hasInit', ns = ms ++ rest ∧
      ReadFunction r owner declared ⟨name, ps, ds, returns, isAsync, s⟩ body hasInit ms hasInit' ∧
      ofMembers r owner declared hasInit' ss = .ok rest := by
  rw [ofMembers] at h
  dsimp only at h
  split at h
  · rename_i hname
    obtain ⟨m, hm, h⟩ := bind_eq_ok.mp h
    obtain ⟨rest, hrest, h⟩ := bind_eq_ok.mp h
    obtain rfl := pure_eq_ok.mp h
    exact ⟨[m], rest, hasInit, rfl, .method (bne_iff_ne.mp hname) hm, hrest⟩
  rename_i hname
  have hname : name = "__init__" := by simpa using hname
  split at h
  · rename_i hinit
    subst hinit
    obtain ⟨block, hblock, h⟩ := bind_eq_ok.mp h
    obtain ⟨b, hb, hblock⟩ := bind_eq_ok.mp hblock
    obtain rfl := pure_eq_ok.mp hblock
    obtain ⟨rest, hrest, h⟩ := bind_eq_ok.mp h
    obtain rfl := pure_eq_ok.mp h
    exact ⟨[_], rest, true, rfl, .further hname hb, hrest⟩
  · rename_i hinit
    obtain rfl := Bool.eq_false_iff.mpr hinit
    obtain ⟨fields, hfields, h⟩ := bind_eq_ok.mp h
    obtain ⟨m, hm, h⟩ := bind_eq_ok.mp h
    obtain ⟨rest, hrest, h⟩ := bind_eq_ok.mp h
    obtain rfl := pure_eq_ok.mp h
    exact ⟨fields ++ [m], rest, true, (List.append_cons _ _ _), .constructor hname hfields hm, hrest⟩

/-- Whatever a function of a class is read as, its own node is read once, with the body of its statements,
and what is before it is declared. -/
theorem ReadFunction.exists_functionOf {r : Reader} {owner : Span} {declared : List String}
    {f : Function} {body : List Stmt} {hasInit hasInit' : Bool} {ms : List Node}
    (h : ReadFunction r owner declared f body hasInit ms hasInit') :
    ∃ fields m b, ms = fields ++ [m] ∧ (∀ f ∈ fields, Declared f) ∧
      FunctionOf (.block b (blockSpan f.span body)) m ∧ ofStmts r body = .ok b := by
  cases h with
  | @method _ m _ h =>
    obtain ⟨b, hb, hfunction⟩ := exists_of_method h
    exact ⟨[], m, b, rfl, by simp, hfunction, hb⟩
  | @further b _ h =>
    have hbefore : Every IsPlain [ofParameters f.params] :=
      Node.every_cons.mpr ⟨plain_ofParameters f.params, Node.every_nil⟩
    have hafter : Every IsPlain (ofExprs f.decorators ++ ofOptional f.returns) :=
      Node.every_append.mpr ⟨plain_ofExprs f.decorators, plain_ofOptional f.returns⟩
    exact ⟨[], _, b, rfl, by simp, .compound _ _ hbefore hafter, h⟩
  | @constructor fields m _ hfields h =>
    obtain ⟨b, hb, hfunction⟩ := exists_of_method h
    exact ⟨fields, m, b, rfl, declared_of_mem_instanceFields hfields, hfunction, hb⟩

/-- A statement contributes nodes to its module or class: what it declares, or else its own outline. -/
def Contributes (r : Reader) (owner : Span) (s : Stmt) (ms : List Node) : Prop :=
  declarations? r owner s = some (.ok ms) ∨ ∃ n, ofStmt r s = .ok n ∧ ms = [n]

theorem exists_contributes_of_cons {r : Reader} {owner : Span} {s : Stmt}
    {more : Except Failure (List Node)} {ns : List Node}
    (h : (do
      let ns ← match declarations? r owner s with
        | some ds => ds
        | none => do
          let n ← ofStmt r s
          pure [n]
      let rest ← more
      pure (ns ++ rest)) = .ok ns) :
    ∃ ms rest, ns = ms ++ rest ∧ Contributes r owner s ms ∧ more = .ok rest := by
  split at h
  · rename_i ds hds
    obtain ⟨ms, hms, h⟩ := bind_eq_ok.mp h
    obtain ⟨rest, hrest, h⟩ := bind_eq_ok.mp h
    exact ⟨ms, rest, (pure_eq_ok.mp h).symm, .inl (hms ▸ hds), hrest⟩
  · obtain ⟨n, hn, h⟩ := bind_eq_ok.mp h
    obtain ⟨ms, hms, h⟩ := bind_eq_ok.mp h
    obtain ⟨rest, hrest, h⟩ := bind_eq_ok.mp h
    exact ⟨ms, rest, (pure_eq_ok.mp h).symm, .inr ⟨n, hn, (pure_eq_ok.mp hms).symm⟩, hrest⟩

theorem ofMembers_cons {r : Reader} {owner : Span} {declared : List String}
    {hasInit : Bool} {s : Stmt} {ss : List Stmt} {ns : List Node}
    (hs : ∀ name ps body ds returns isAsync sp, s ≠ .function name ps body ds returns isAsync sp)
    (h : ofMembers r owner declared hasInit (s :: ss) = .ok ns) :
    ∃ ms rest, ns = ms ++ rest ∧ Contributes r owner s ms ∧
      ofMembers r owner declared hasInit ss = .ok rest := by
  rw [ofMembers] at h
  · exact exists_contributes_of_cons h
  · exact hs

theorem ofTopLevel_cons {r : Reader} {s : Stmt} {ss : List Stmt} {ns : List Node}
    (h : ofTopLevel r (s :: ss) = .ok ns) :
    ∃ ms rest, ns = ms ++ rest ∧ Contributes r Span.unknown s ms ∧ ofTopLevel r ss = .ok rest := by
  rw [ofTopLevel] at h
  exact exists_contributes_of_cons h

/-- An outline is one of the statements that the source is read as. -/
theorem exists_of_ofSource [Interpreter] {source : String} {root : Node} (h : ofSource source = .ok root) :
    ∃ ss items, readModule source = .ok ss ∧ ofTopLevel (.ofSource source) ss = .ok items ∧
      root = .module items := by
  unfold ofSource at h
  split at h
  · cases h
  · obtain ⟨ss, hss, h⟩ := bind_eq_ok.mp h
    obtain ⟨items, hitems, h⟩ := bind_eq_ok.mp h
    exact ⟨ss, items, mapError_eq_ok.mp hss, hitems, (pure_eq_ok.mp h).symm⟩

/-- What a statement of a module or class is read as: its own node, or the names that it declares. -/
inductive ReadAs (r : Reader) (s : Stmt) : List Node → Prop where
  | node {n : Node} (h : ofStmt r s = .ok n) : ReadAs r s [n]
  | declarations {ns : List Node} (simple : s.isSimple) (declared : ∀ n ∈ ns, Declared n) :
      ReadAs r s ns

theorem Contributes.readAs {r : Reader} {owner : Span} {s : Stmt} {ms : List Node}
    (h : Contributes r owner s ms) : ReadAs r s ms := by
  obtain h | ⟨n, hn, rfl⟩ := h
  · obtain ⟨hsimple, hdeclared⟩ := declared_of_mem_declarations h rfl
    exact .declarations hsimple hdeclared
  · exact .node hn

end Outline
end BranchCover
