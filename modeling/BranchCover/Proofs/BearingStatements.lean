import BranchCover.Proofs.Assigning
import BranchCover.Proofs.Bearing
import BranchCover.Proofs.Initializers
import BranchCover.Proofs.KeepingStatements

/-! The names in an outline are names of its source. What holds of every name that a scan gives, and of the
empty name, holds of every name that a node of the outline of a source declares or refers to. -/
namespace BranchCover
namespace Outline

open Source
open Node (Throughout Every)

/-- The expressions that a reader finds in strings name what has the property, and the property holds of
the empty name, which stands for the base of a generic type that has none. -/
structure Reader.Keeps (P : String → Prop) (r : Reader) : Prop where
  empty : P ""
  expression : ∀ {t e}, r.expression t = .ok e → e.Named P

variable {P : String → Prop} {r : Reader}

theorem bears_typing (hr : r.Keeps P) {e : Expr} {n : Node} (he : e.Named P)
    (h : r.typing e = .ok n) : Bears P n :=
  Typing.bears_read hr.empty hr.expression he (mapError_eq_ok.mp h)

theorem bears_typing? (hr : r.Keeps P) {o : Option Expr} {a : Option Node} (ho : ∀ e ∈ o, e.Named P)
    (h : r.typing? o = .ok a) : AllBear P a.toList :=
  every_typing? (fun e he => bears_typing hr (ho e he)) h

theorem bears_map_ofExpr {o : Option Expr} (ho : ∀ e ∈ o, e.Named P) :
    AllBear P (o.map ofExpr).toList :=
  every_map_ofExpr fun e he => bears_ofExpr e (ho e he)

theorem named_of_mem_some {value : Expr} (h : value.Named P) : ∀ e ∈ some value, e.Named P :=
  fun _ he => Option.some.inj he ▸ h

theorem bears_property {name : String} {a : Option Node} {value : Option Expr} {site : Site} {s : Span}
    (hname : P name) (ha : AllBear P a.toList) (hvalue : ∀ e ∈ value, e.Named P) :
    Bears P (.property name a (value.map ofExpr) site s) :=
  .of (fun _ h => Option.some.inj h ▸ hname) (Node.every_append.mpr ⟨ha, bears_map_ofExpr hvalue⟩)

theorem bears_param (hr : r.Keeps P) {p : Source.Param × Bool} {n : Node} (hp : p.1.Named P)
    (h : param r p = .ok n) : Bears P n := by
  obtain ⟨⟨name, typing, default, s⟩, kwOnly⟩ := p
  cases hp with
  | mk hname htyping hdefault =>
    obtain ⟨a, ha, hn⟩ := bind_eq_ok.mp h
    obtain rfl := pure_eq_ok.mp hn
    exact .of (fun _ h => Option.some.inj h ▸ hname)
      (Node.every_append.mpr ⟨bears_typing? hr htyping ha, bears_map_ofExpr hdefault⟩)

theorem named_of_mem_shownParams {ps : Parameters} (hps : ps.Named P) {hasReceiver : Bool}
    {p : Source.Param × Bool} (hp : p ∈ shownParams hasReceiver ps) : p.1.Named P := by
  cases hps with
  | @mk posOnly args kwOnly rest keywords hposOnly hargs _ hkwOnly _ =>
    have hpositional : ∀ q ∈ posOnly ++ args, q.Named P :=
      List.forall_mem_append.mpr ⟨hposOnly, hargs⟩
    rcases List.mem_append.mp hp with hp | hp
    · obtain ⟨q, hq, rfl⟩ := List.mem_map.mp hp
      split at hq
      · exact hpositional q (List.mem_of_mem_drop hq)
      · exact hpositional q hq
    · obtain ⟨q, hq, rfl⟩ := List.mem_map.mp hp
      exact hkwOnly q hq

/-- A method bears its own name, those of its parameters, and those in its body. -/
theorem bears_method (hr : r.Keeps P) {inClass isConstructor : Bool} {f : Function}
    {body : Except Failure Node} {n : Node} (hname : P f.name) (hparams : f.params.Named P)
    (hreturns : ∀ e ∈ f.returns, e.Named P) (hbody : ∀ b, body = .ok b → Bears P b)
    (h : method r inClass isConstructor f body = .ok n) : Bears P n := by
  obtain ⟨_, params, block, returns, _, -, hps, hblock, hret, rfl⟩ := method_parts h
  have hparts : AllBear P params := by
    intro m hm
    obtain ⟨p, hp, hpm⟩ := exists_of_mem_mapM hps m hm
    exact bears_param hr (named_of_mem_shownParams hparams hp) hpm
  exact .of (fun _ h => Option.some.inj h ▸ hname) (Node.every_append.mpr
    ⟨hparts, Node.every_cons.mpr ⟨hbody block hblock, bears_typing? hr hreturns hret⟩⟩)

theorem named_of_mem_parts {x y : Stmt} (hx : x.Named P) (hy : y ∈ x.parts) : y.Named P := by
  cases hx with
  | function _ _ hbody | classDef _ _ _ hbody | withStmt _ hbody => exact hbody y hy
  | ifStmt _ hbody horelse | forLoop _ _ hbody horelse | whileLoop _ hbody horelse =>
    exact List.forall_mem_append.mpr ⟨hbody, horelse⟩ y hy
  | matchStmt _ hcases =>
    obtain ⟨c, hc, hy⟩ := List.mem_flatMap.mp hy
    cases hcases c hc with
    | mk _ _ hbody => exact hbody y hy
  | @tryStmt body orelse final handlers isStar s hbody hhandlers horelse hfinal =>
    have hcaught : ∀ z ∈ handlers.flatMap Handler.body, z.Named P := by
      intro z hz
      obtain ⟨c, hc, hz⟩ := List.mem_flatMap.mp hz
      cases hhandlers c hc with
      | mk _ _ hbody => exact hbody z hz
    simp only [Stmt.parts, List.mem_append] at hy
    rcases hy with hy | hy | hy | hy
    · exact hbody y hy
    · exact hcaught y hy
    · exact horelse y hy
    · exact hfinal y hy
  | _ => cases hy

theorem named_of_within {x : Stmt} {ss : List Stmt} (h : Within Stmt.parts x ss)
    (hss : ∀ s ∈ ss, s.Named P) : x.Named P := by
  induction h with
  | here h => exact hss _ h
  | inside h _ ih => exact ih fun y hy => named_of_mem_parts (hss _ h) hy

structure Assignment.Named (P : String → Prop) (a : Assignment) : Prop where
  targets : ∀ e ∈ a.targets, e.Named P
  typing : ∀ e ∈ a.typing, e.Named P
  value : ∀ e ∈ a.value, e.Named P

theorem named_of_inside {a : Assignment} {ss : List Stmt} (h : a.Inside ss)
    (hss : ∀ s ∈ ss, s.Named P) : a.Named P := by
  obtain ⟨x, hx, ha⟩ := h
  cases named_of_within hx hss with
  | assign htargets hvalue =>
    obtain rfl := Option.some.inj ha
    exact ⟨htargets, nofun, fun e he => Option.some.inj he ▸ hvalue⟩
  | annotate htarget htyping hvalue =>
    obtain rfl := Option.some.inj ha
    exact ⟨List.forall_mem_singleton.mpr htarget, fun e he => Option.some.inj he ▸ htyping, hvalue⟩
  | _ => cases ha

theorem bears_instanceFields (hr : r.Keeps P) {owner : Span} {declared : List String}
    {ps : Parameters} {body : List Stmt} {ns : List Node} (hbody : ∀ s ∈ body, s.Named P)
    (h : instanceFields r owner declared ps body = .ok ns) : AllBear P ns := by
  unfold instanceFields at h
  split at h
  · obtain rfl := pure_eq_ok.mp h
    exact Node.every_nil
  · intro n hn
    obtain ⟨b, hb, hbn⟩ := exists_of_mem_mapM h n hn
    obtain ⟨a, ha, hn⟩ := bind_eq_ok.mp hbn
    obtain rfl := pure_eq_ok.mp hn
    obtain ⟨c, hc, hbc⟩ := List.mem_flatMap.mp (firstBindings_sublist.subset hb)
    obtain ⟨rfl, s, t, htarget⟩ := mem_fields_iff.mp hbc
    have hnamed := named_of_inside (Assignment.mem_sorted_iff.mp hc) hbody
    cases hnamed.targets _ (List.mem_of_getElem? htarget) with
    | member _ hattr => exact bears_property hattr (bears_typing? hr hnamed.typing ha) hnamed.value

theorem bears_declarations (hr : r.Keeps P) {owner : Span} {s : Stmt}
    {ds : Except Failure (List Node)} {ns : List Node} (hs : s.Named P)
    (hdecl : declarations? r owner s = some ds) (h : ds = .ok ns) : AllBear P ns := by
  unfold declarations? at hdecl
  split at hdecl
  · obtain rfl := Option.some.inj hdecl
    cases hs with
    | annotate htarget htyping hvalue =>
      cases htarget with
      | name hid =>
        obtain ⟨a, ha, hn⟩ := bind_eq_ok.mp h
        obtain rfl := pure_eq_ok.mp hn
        have htype : AllBear P (some a).toList :=
          Node.every_cons.mpr ⟨bears_typing hr htyping ha, Node.every_nil⟩
        exact Node.every_cons.mpr ⟨bears_property hid htype hvalue, Node.every_nil⟩
  · dsimp only at hdecl
    split at hdecl
    · cases hdecl
    · obtain rfl := Option.some.inj hdecl
      obtain rfl := pure_eq_ok.mp h
      cases hs with
      | assign htargets hvalue =>
        intro n hn
        obtain ⟨b, hb, rfl⟩ := List.mem_map.mp hn
        obtain ⟨⟨e, i⟩, he, heb⟩ := List.mem_filterMap.mp hb
        have hmem := (List.mem_zipIdx_iff_getElem?.mp he)
        split at heb
        · obtain rfl := Option.some.inj heb
          rename_i id s' i' heq
          obtain ⟨rfl, rfl⟩ := Prod.mk.inj heq
          cases htargets _ (List.mem_of_getElem? hmem) with
          | name hid =>
            exact bears_property hid Node.every_nil (named_of_mem_some hvalue)
        · cases heb
  · cases hdecl

theorem bears_ofItems {items : List WithItem} (h : ∀ i ∈ items, i.Named P) :
    AllBear P (items.map ofItem) := by
  intro n hn
  obtain ⟨i, hi, rfl⟩ := List.mem_map.mp hn
  exact bears_compound (Node.every_cons.mpr
    ⟨bears_ofExpr _ (h i hi).context, bears_ofOptional _ (h i hi).target⟩)

theorem bears_ofAliases (names : List Alias) : AllBear P (names.map ofAlias) := by
  intro n hn
  obtain ⟨a, -, rfl⟩ := List.mem_map.mp hn
  exact bears_compound Node.every_nil

mutual

theorem bears_tests : ∀ (p : Pattern) (t : Node), p.Named P → some t ∈ tests p → Bears P t
  | .value e s, t, .value he, h => by
    obtain rfl : t = ofExpr e := by simpa [tests] using h
    exact bears_ofExpr e he
  | .singleton c s, t, _, h => by
    obtain rfl : t = ofConstant s c := by simpa [tests] using h
    exact bears_ofConstant s c
  | .alternatives ps s, t, .alternatives hps, h => by
    rw [tests] at h
    exact bears_testsOfAll ps t hps h
  | .capture none name s, t, _, h => by simp [tests] at h
  | .capture (some p) name s, t, .capture hp _, h => by
    rw [tests] at h
    exact bears_tests p t (hp p rfl) h
  | .sequence ps s, t, _, h => by
    obtain rfl : t = .compound "MatchSequence" [] s := by simpa [tests] using h
    exact bears_compound Node.every_nil
  | .mapping ks ps rest s, t, _, h => by
    obtain rfl : t = .compound "MatchMapping" [] s := by simpa [tests] using h
    exact bears_compound Node.every_nil
  | .object c ps names named s, t, _, h => by
    obtain rfl : t = .compound "MatchClass" [] s := by simpa [tests] using h
    exact bears_compound Node.every_nil
  | .star name s, t, _, h => by
    obtain rfl : t = .compound "MatchStar" [] s := by simpa [tests] using h
    exact bears_compound Node.every_nil

theorem bears_testsOfAll : ∀ (ps : List Pattern) (t : Node), (∀ p ∈ ps, p.Named P) →
    some t ∈ tests.testsOfAll ps → Bears P t
  | [], t, _, h => by simp [tests.testsOfAll] at h
  | p :: ps, t, hps, h => by
    rw [tests.testsOfAll, List.mem_append] at h
    obtain ⟨hp, hrest⟩ := List.forall_mem_cons.mp hps
    rcases h with h | h
    · exact bears_tests p t hp h
    · exact bears_testsOfAll ps t hrest h

end

/-- What a statement of a module or class is read as bears the names of the statement. -/
theorem bears_of_contributes (hr : r.Keeps P) {owner : Span} {s : Stmt} {ms : List Node}
    (hs : s.Named P) (hof : ∀ {n}, ofStmt r s = .ok n → Bears P n) (h : Contributes r owner s ms) :
    AllBear P ms := by
  obtain h | ⟨n, hn, rfl⟩ := h
  · exact bears_declarations hr hs h rfl
  · exact Node.every_cons.mpr ⟨hof hn, Node.every_nil⟩

theorem bears_ofBlock {s : Span} {ss : List Stmt} {ns : List Node}
    (hss : ∀ {os}, ofStmts r ss = .ok os → AllBear P os) (h : ofBlock r s ss = .ok ns) :
    AllBear P ns :=
  every_ofBlock (fun _ _ => nofun) hss h

/-- What a function of a class is read as bears the names of the function. -/
theorem bears_readFunction (hr : r.Keeps P) {owner : Span} {declared : List String} {f : Function}
    {body : List Stmt} {hasInit hasInit' : Bool} {ms : List Node} (hname : P f.name)
    (hparams : f.params.Named P) (hdecorators : ∀ e ∈ f.decorators, e.Named P)
    (hreturns : ∀ e ∈ f.returns, e.Named P) (hbody : ∀ s ∈ body, s.Named P)
    (hof : ∀ {b}, ofStmts r body = .ok b → AllBear P b)
    (h : ReadFunction r owner declared f body hasInit ms hasInit') : AllBear P ms := by
  have hblock : ∀ n, (do
      let b ← ofStmts r body
      pure (Node.block b (blockSpan f.span body))) = .ok n → Bears P n := by
    intro n hn
    obtain ⟨b, hb, hn⟩ := bind_eq_ok.mp hn
    obtain rfl := pure_eq_ok.mp hn
    exact bears_block (hof hb)
  cases h with
  | method _ hm =>
    exact Node.every_cons.mpr ⟨bears_method hr hname hparams hreturns hblock hm, Node.every_nil⟩
  | @further b _ hb =>
    have hparts : AllBear P (ofParameters f.params :: .block b (blockSpan f.span body) ::
        (ofExprs f.decorators ++ ofOptional f.returns)) := by
      simp [bears_ofParameters _ hparams, bears_block (hof hb), bears_ofExprs _ hdecorators,
        bears_ofOptional _ hreturns, -ofExprs_eq]
    exact Node.every_cons.mpr ⟨bears_compound hparts, Node.every_nil⟩
  | constructor _ hfields hm =>
    have hm := bears_method hr hname hparams hreturns hblock hm
    exact Node.every_append.mpr
      ⟨bears_instanceFields hr hbody hfields, Node.every_cons.mpr ⟨hm, Node.every_nil⟩⟩

mutual

/-- By induction on the statement. -/
theorem bears_ofStmt (hr : r.Keeps P) : ∀ (s : Stmt) {n : Node}, s.Named P → ofStmt r s = .ok n →
    Bears P n
  | .function name ps body ds returns isAsync s, n, .function hname hps hbody _ hreturns, h => by
    rw [ofStmt] at h
    refine bears_method hr hname hps hreturns (fun b hb => ?_) h
    obtain ⟨ns, hns, hb⟩ := bind_eq_ok.mp hb
    obtain rfl := pure_eq_ok.mp hb
    exact bears_block (bears_ofStmts hr body hbody hns)
  | .classDef name bases ks body ds s, n, .classDef hname _ _ hbody _, h => by
    obtain ⟨items, hitems, rfl⟩ := ofStmt_classDef h
    exact .of (fun _ h => Option.some.inj h ▸ hname)
      (bears_ofMembers hr s (boundNames body) false body hbody hitems)
  | .ifStmt test body orelse s, n, .ifStmt htest hbody horelse, h => by
    obtain ⟨b, o, hb, ho, rfl⟩ := ofStmt_ifStmt_parts h
    have hthen := bears_block (s := blockSpan s body) (bears_ofStmts hr body hbody hb)
    have helse := every_toList_head? (bears_ofBlock (bears_ofStmts hr orelse horelse) ho)
    have hparts : AllBear P (ofExpr test :: .block b (blockSpan s body) :: o.head?.toList) := by
      simp [bears_ofExpr test htest, hthen, helse]
    exact .of nofun hparts
  | .matchStmt subject cases s, n, .matchStmt hsubject hcases, h => by
    obtain ⟨cs, hcs, rfl⟩ := ofStmt_matchStmt h
    have hparts : AllBear P (ofExpr subject :: cs) := Node.every_cons.mpr
      ⟨bears_ofExpr subject hsubject, bears_ofCases hr false cases hcases hcs⟩
    exact .of nofun hparts
  | .forLoop target iter body orelse isAsync s, n, .forLoop htarget hiter hbody horelse, h => by
    obtain ⟨b, o, hb, ho, rfl⟩ := ofStmt_forLoop h
    exact bears_compound (by
      simp [bears_ofExpr target htarget, bears_ofExpr iter hiter,
        bears_ofBlock (bears_ofStmts hr body hbody) hb,
        bears_ofBlock (bears_ofStmts hr orelse horelse) ho])
  | .whileLoop test body orelse s, n, .whileLoop htest hbody horelse, h => by
    obtain ⟨b, o, hb, ho, rfl⟩ := ofStmt_whileLoop h
    exact bears_compound (by
      simp [bears_ofExpr test htest, bears_ofBlock (bears_ofStmts hr body hbody) hb,
        bears_ofBlock (bears_ofStmts hr orelse horelse) ho])
  | .withStmt items body isAsync s, n, .withStmt hitems hbody, h => by
    obtain ⟨b, hb, rfl⟩ := ofStmt_withStmt h
    exact bears_compound (Node.every_append.mpr
      ⟨bears_ofItems hitems, bears_ofBlock (bears_ofStmts hr body hbody) hb⟩)
  | .tryStmt body handlers orelse final isStar s, n, .tryStmt hbody hhandlers horelse hfinal, h => by
    obtain ⟨b, hs, o, f, hb, hhs, ho, hf, rfl⟩ := ofStmt_tryStmt h
    exact bears_compound (by
      simp [bears_ofBlock (bears_ofStmts hr body hbody) hb,
        bears_ofHandlers hr handlers hhandlers hhs,
        bears_ofBlock (bears_ofStmts hr orelse horelse) ho,
        bears_ofBlock (bears_ofStmts hr final hfinal) hf])
  | .expr value s, n, .expr hvalue, h => Except.ok.inj h ▸ bears_ofExpr value hvalue
  | .returnStmt value s, n, .returnStmt hvalue, h =>
    Except.ok.inj h ▸ bears_compound (bears_ofOptional value hvalue)
  | .delete targets s, n, .delete htargets, h =>
    Except.ok.inj h ▸ bears_compound (bears_ofExprs targets htargets)
  | .assign targets value s, n, .assign htargets hvalue, h =>
    Except.ok.inj h ▸ bears_compound
      (by simp [bears_ofExprs targets htargets, bears_ofExpr value hvalue, -ofExprs_eq])
  | .augment target op value s, n, .augment htarget hvalue, h =>
    Except.ok.inj h ▸ bears_compound
      (by simp [bears_ofExpr target htarget, bears_ofExpr value hvalue])
  | .annotate target typing value s, n, .annotate htarget htyping hvalue, h =>
    Except.ok.inj h ▸ bears_compound (by
      simp [bears_ofExpr target htarget, bears_ofExpr typing htyping, bears_ofOptional value hvalue])
  | .raise exception cause s, n, .raise hexception hcause, h =>
    Except.ok.inj h ▸ bears_compound (Node.every_append.mpr
      ⟨bears_ofOptional exception hexception, bears_ofOptional cause hcause⟩)
  | .assert test message s, n, .assert htest hmessage, h =>
    Except.ok.inj h ▸ bears_compound (Node.every_cons.mpr
      ⟨bears_ofExpr test htest, bears_ofOptional message hmessage⟩)
  | .importStmt names s, n, _, h | .importFrom _ names _ s, n, _, h =>
    Except.ok.inj h ▸ bears_compound (bears_ofAliases names)
  | .global names s, n, _, h | .nonlocal names s, n, _, h | .pass s, n, _, h
  | .breakStmt s, n, _, h | .continueStmt s, n, _, h =>
    Except.ok.inj h ▸ bears_compound Node.every_nil

theorem bears_ofStmts (hr : r.Keeps P) : ∀ (ss : List Stmt) {ns : List Node},
    (∀ s ∈ ss, s.Named P) → ofStmts r ss = .ok ns → AllBear P ns
  | [], ns, _, h => by
    obtain rfl := pure_eq_ok.mp h
    exact Node.every_nil
  | s :: ss, ns, hss, h => by
    obtain ⟨hs, hss⟩ := List.forall_mem_cons.mp hss
    obtain ⟨n, rest, hn, hrest, rfl⟩ := ofStmts_cons h
    exact Node.every_cons.mpr ⟨bears_ofStmt hr s hs hn, bears_ofStmts hr ss hss hrest⟩

theorem bears_ofMembers (hr : r.Keeps P) (owner : Span) (declared : List String) :
    ∀ (hasInit : Bool) (ss : List Stmt) {ns : List Node}, (∀ s ∈ ss, s.Named P) →
      ofMembers r owner declared hasInit ss = .ok ns → AllBear P ns
  | hasInit, [], ns, _, h => by
    obtain rfl := pure_eq_ok.mp h
    exact Node.every_nil
  | hasInit, s :: ss, ns, hss, h => by
    obtain ⟨hs, htail⟩ := List.forall_mem_cons.mp hss
    cases s with
    | function name ps body ds returns isAsync s =>
      cases hs with
      | function hname hps hbody hds hreturns =>
        obtain ⟨ms, rest, hasInit', rfl, hread, hrest⟩ := exists_of_ofMembers_function h
        have hms :=
          bears_readFunction hr hname hps hds hreturns hbody (bears_ofStmts hr body hbody) hread
        exact Node.every_append.mpr ⟨hms, bears_ofMembers hr owner declared hasInit' ss htail hrest⟩
    | _ =>
      obtain ⟨ms, rest, rfl, hms, hrest⟩ := ofMembers_cons (by simp) h
      exact Node.every_append.mpr ⟨bears_of_contributes hr hs (bears_ofStmt hr _ hs) hms,
        bears_ofMembers hr owner declared hasInit ss htail hrest⟩

theorem bears_ofCases (hr : r.Keeps P) : ∀ (taken : Bool) (cases : List MatchCase)
    {ns : List Node}, (∀ c ∈ cases, c.Named P) → ofCases r taken cases = .ok ns → AllBear P ns
  | taken, [], ns, _, h => by
    obtain rfl := pure_eq_ok.mp h
    exact Node.every_nil
  | taken, .mk pattern guard body :: cs, ns, hcs, h => by
    obtain ⟨hcase, hcs⟩ := List.forall_mem_cons.mp hcs
    cases hcase with
    | mk hpattern _ hbody =>
      obtain ⟨b, rest, hb, hrest, rfl⟩ := ofCases_cons h
      have hblock := bears_block (s := blockSpan Span.unknown body) (bears_ofStmts hr body hbody hb)
      have hclauses := every_clausesOf (s := pattern.span) (fun _ _ _ => nofun) (fun _ _ => nofun)
        hblock taken fun t ht => bears_tests pattern t hpattern ht
      exact Node.every_append.mpr ⟨hclauses, bears_ofCases hr _ cs hcs hrest⟩

theorem bears_ofHandlers (hr : r.Keeps P) : ∀ (hs : List Handler) {ns : List Node},
    (∀ x ∈ hs, x.Named P) → ofHandlers r hs = .ok ns → AllBear P ns
  | [], ns, _, h => by
    obtain rfl := pure_eq_ok.mp h
    exact Node.every_nil
  | .mk type name body s :: hs, ns, hhs, h => by
    obtain ⟨hhandler, hhs⟩ := List.forall_mem_cons.mp hhs
    cases hhandler with
    | mk htype _ hbody =>
      obtain ⟨b, rest, hb, hrest, rfl⟩ := ofHandlers_cons h
      have hparts : AllBear P (ofOptional type ++ b) := Node.every_append.mpr
        ⟨bears_ofOptional type htype, bears_ofBlock (bears_ofStmts hr body hbody) hb⟩
      exact Node.every_cons.mpr ⟨bears_compound hparts, bears_ofHandlers hr hs hhs hrest⟩

end

theorem bears_ofTopLevel (hr : r.Keeps P) {ss : List Stmt} {items : List Node}
    (hss : ∀ s ∈ ss, s.Named P) (h : ofTopLevel r ss = .ok items) : AllBear P items := by
  induction ss generalizing items with
  | nil =>
    obtain rfl := pure_eq_ok.mp h
    exact Node.every_nil
  | cons s ss ih =>
    obtain ⟨hs, hss⟩ := List.forall_mem_cons.mp hss
    obtain ⟨ms, rest, rfl, hms, hrest⟩ := ofTopLevel_cons h
    exact Node.every_append.mpr ⟨bears_of_contributes hr hs (bears_ofStmt hr s hs) hms, ih hss hrest⟩

/-- Every name in the outline of a source is one that a scan gives, or the empty name. -/
theorem bears_ofSource [Interpreter] (hscan : ScannedNamed P) (hempty : P "") {source : String} {root : Node}
    (h : ofSource source = .ok root) : Bears P root := by
  obtain ⟨ss, items, hss, hitems, rfl⟩ := exists_of_ofSource h
  have hr : (Reader.ofSource source).Keeps P := ⟨hempty, named_of_readExpression hscan⟩
  have hnamed := named_of_readModule hscan hss
  exact .of nofun (bears_ofTopLevel hr hnamed hitems)

end Outline
end BranchCover
