import BranchCover.Proofs.KeepingPatterns
import BranchCover.Proofs.Except
import BranchCover.Source.Read

/-! The rules of statements keep to names of a property. So every name in a source that is read has the
property, if all names have it that a scan may give. -/
namespace BranchCover
namespace Source
namespace Grammar

open Parse

variable {P : String → Prop} {r : Rules}

section

variable (h : r.Keep P)
include h

/-! Statements of one line. -/

theorem keeps_yieldOrExpressions : Keeps P (yieldOrExpressions r) (Expr.Named P) :=
  .orElse (keeps_yieldExpression h) (keeps_starExpressions h)

theorem keeps_annotatedValue : Keeps P (annotatedValue r) fun o => ∀ e ∈ o, e.Named P :=
  (Keeps.skip (.fixed _) (keeps_yieldOrExpressions h)).optional

omit h in
theorem keeps_augmenting : Keeps P augmenting fun _ => True := by
  refine Keeps.current.bind fun t _ => ?_
  split
  · exact Keeps.advance.bind fun _ _ => .pure trivial
  · exact .miss

theorem keeps_annotatedDisplay : Keeps P (annotatedDisplay r) (Expr.Named P) :=
  .orElse (keeps_list h) <| .orElse (keeps_tuple h) <| .skip (.fixed _) <|
    (h .annotatedTarget).bind fun _ he => .skip (.fixed _) <| .pure he

theorem keeps_typing {target : Parse Expr} (htarget : Keeps P target (Expr.Named P)) :
    Keeps P (typing r target) (Stmt.Named P) :=
  .withSpan <| htarget.bind fun _ he => .skip (.fixed _) <| (keeps_expression h).bind
    fun _ ha => (keeps_annotatedValue h).bind fun _ hv => .pure fun _ => .annotate he ha hv

omit h in
theorem keeps_parenthesized {p : Parse Expr} (hp : Keeps P p (Expr.Named P)) :
    Keeps P (parenthesized p) (Expr.Named P) :=
  .skip (.fixed _) <| hp.bind fun _ he => .skip (.fixed _) <| .pure he

theorem keeps_assignment : Keeps P (assignment r) (Stmt.Named P) := by
  refine .orElse (keeps_typing h keeps_name) <| .orElse ?annotated <| .orElse ?plain ?augmented
  case annotated =>
    exact keeps_typing h <| .orElse (keeps_parenthesized (keeps_singleTarget h))
      (keeps_partTarget h .store)
  case plain =>
    have htarget : Keeps P (do
        let t ← starTargets r
        discard (fixed "=")
        return t) (Expr.Named P) :=
      (keeps_starTargets h).bind fun _ ht => .skip (.fixed _) <| .pure ht
    exact .withSpan <| htarget.many1.bind fun _ hts => (keeps_yieldOrExpressions h).bind
      fun _ he => (Keeps.fixed _).notAhead.bind fun _ _ => .pure fun _ => .assign hts he
  case augmented =>
    have hhead : Keeps P (do
        let t ← singleTarget r
        return (t, ← augmenting)) fun x => x.1.Named P :=
      (keeps_singleTarget h).bind fun _ ht => keeps_augmenting.bind fun _ _ => .pure ht
    refine Keeps.current.bind fun start _ => hhead.optional.bind fun head hhead => ?_
    cases head with
    | none => exact .diagnosis _
    | some head =>
      exact (keeps_yieldOrExpressions h).bind fun _ he => (Keeps.spanFrom _).bind fun _ _ =>
        .pure (.augment (hhead head rfl) he)

theorem keeps_returnStmt : Keeps P (returnStmt r) (Stmt.Named P) :=
  .withSpan <| .skip (.fixed _) <| (keeps_starExpressions h).optional.bind fun _ he =>
    .pure fun _ => .returnStmt he

theorem keeps_raiseStmt : Keeps P (raiseStmt r) (Stmt.Named P) := by
  refine .withSpan <| .skip (.fixed _) <| .orElse ?_ (.pure fun _ => .raise (by simp) (by simp))
  refine (keeps_expression h).bind fun e he =>
    (Keeps.skip (.fixed _) (keeps_expression h)).optional.bind fun _ hc =>
      .pure fun _ => .raise (by simpa using he) hc

omit h in
theorem keeps_names : Keeps P names fun ns => ∀ n ∈ ns, P n :=
  keeps_plainName.sepBy ","

theorem keeps_delStmt : Keeps P (delStmt r) (Stmt.Named P) :=
  .orElse
    (.withSpan <| .skip (.fixed _) <| ((keeps_delTarget h).sepBy ",").bind fun _ hes =>
      .skip (Keeps.fixed _).optional <|
        .skip (Keeps.orElse (.fixed _) ((Keeps.kind _).mono fun _ _ => trivial)).ahead <|
          .pure fun _ => .delete hes)
    (.diagnosis _)

theorem keeps_assertStmt : Keeps P (assertStmt r) (Stmt.Named P) :=
  .withSpan <| .skip (.fixed _) <| (keeps_expression h).bind fun _ he =>
    (Keeps.skip (.fixed _) (keeps_expression h)).optional.bind fun _ hm =>
      .pure fun _ => .assert he hm

omit h in
theorem keeps_dottedName : Keeps P dottedName fun _ => True :=
  (keeps_plainName.sepBy ".").bind fun _ _ => .pure trivial

omit h in
theorem keeps_asName {path : Parse String} {Q : String → Prop} (hpath : Keeps P path Q) :
    Keeps P (asName path) fun _ => True :=
  .withSpan <| hpath.bind fun _ _ => (Keeps.skip (.fixed _) keeps_plainName).optional.bind
    fun _ _ => .pure fun _ => trivial

omit h in
theorem keeps_importName : Keeps P importName (Stmt.Named P) :=
  .withSpan <| .skip (.fixed _) <| ((keeps_asName keeps_dottedName).sepBy ",").bind fun _ _ =>
    .pure fun _ => .importStmt

omit h in
theorem keeps_importDots : Keeps P importDots fun _ => True := by
  refine (Keeps.many (Q := fun _ => True) (.orElse ?_ ?_)).mono fun _ _ => trivial
  · exact .skip (.fixed _) (.pure trivial)
  · exact .skip (.fixed _) (.pure trivial)

omit h in
theorem keeps_importedNames : Keeps P importedNames fun _ => True := by
  have hnames := (keeps_asName (P := P) keeps_plainName).sepBy ","
  refine .orElse ?group <| .orElse ?plain <| .orElse ?star (.diagnosis _)
  case group =>
    exact .skip (.fixed _) <| hnames.bind fun _ _ => .skip (Keeps.fixed _).optional <|
      .skip (.fixed _) <| .pure trivial
  case plain =>
    exact hnames.bind fun _ _ => (Keeps.fixed _).notAhead.bind fun _ _ => .pure trivial
  case star => exact (Keeps.fixed _).bind fun _ _ => .pure trivial

omit h in
theorem keeps_importFrom : Keeps P importFrom (Stmt.Named P) := by
  refine .orElse ?path ?dots
  case path =>
    exact .withSpan <| .skip (.fixed _) <| keeps_importDots.bind fun _ _ => keeps_dottedName.bind
      fun _ _ => .skip (.fixed _) <| keeps_importedNames.bind fun _ _ => .pure fun _ => .importFrom
  case dots =>
    exact .withSpan <| .skip (.fixed _) <| keeps_importDots.bind fun _ _ => .ite .miss <|
      .skip (.fixed _) <| keeps_importedNames.bind fun _ _ => .pure fun _ => .importFrom

theorem keeps_simpleStmt : Keeps P (simpleStmt r) (Stmt.Named P) := by
  refine .memo (ρ := .simpleStmt) <| .orElse (keeps_assignment h) <| .orElse ?expressions <|
    .orElse (keeps_returnStmt h) <| .orElse keeps_importName <| .orElse keeps_importFrom <|
    .orElse (keeps_raiseStmt h) <| .orElse ?pass <| .orElse (keeps_delStmt h) <|
    .orElse ?yield <| .orElse (keeps_assertStmt h) <| .orElse ?leave <| .orElse ?repeated <|
    .orElse ?global <| .orElse ?nonlocal .miss
  case expressions =>
    exact .withSpan <| (keeps_starExpressions h).bind fun _ he => .pure fun _ => .expr he
  case pass => exact .withSpan <| .skip (.fixed _) <| .pure fun _ => .pass
  case yield =>
    exact .withSpan <| (keeps_yieldExpression h).bind fun _ he => .pure fun _ => .expr he
  case leave => exact .withSpan <| .skip (.fixed _) <| .pure fun _ => .breakStmt
  case repeated => exact .withSpan <| .skip (.fixed _) <| .pure fun _ => .continueStmt
  case global =>
    exact .withSpan <| .skip (.fixed _) <| keeps_names.bind fun _ hns => .pure fun _ => .global hns
  case nonlocal =>
    exact .withSpan <| .skip (.fixed _) <| keeps_names.bind fun _ hns =>
      .pure fun _ => .nonlocal hns

theorem keeps_simpleStmts : Keeps P (simpleStmts r) fun ss => ∀ s ∈ ss, s.Named P :=
  ((keeps_simpleStmt h).sepBy ";").bind fun _ hss => .skip (Keeps.fixed _).optional <|
    .skip (Keeps.kind _) <| .pure hss

/-! Statements with blocks. -/

omit h in
theorem keeps_statements {statement : Parse (List Stmt)}
    (hstatement : Keeps P statement fun ss => ∀ s ∈ ss, s.Named P) :
    Keeps P (statements statement) fun ss => ∀ s ∈ ss, s.Named P := by
  refine hstatement.many1.bind fun sss hsss => .pure fun s hs => ?_
  obtain ⟨ss, hss, hs⟩ := List.mem_flatten.mp hs
  exact hsss ss hss s hs

theorem keeps_block {statement : Parse (List Stmt)}
    (hstatement : Keeps P statement fun ss => ∀ s ∈ ss, s.Named P) :
    Keeps P (block r statement) fun ss => ∀ s ∈ ss, s.Named P :=
  .memo (ρ := .block) <| .orElse
    (.skip (Keeps.kind _) <| .skip (Keeps.kind _) <| (keeps_statements hstatement).bind
      fun _ hss => .skip (Keeps.kind _) <| .pure hss)
    (.orElse (keeps_simpleStmts h) (.diagnosis _))

theorem keeps_elseBlock : Keeps P (elseBlock r) fun ss => ∀ s ∈ ss, s.Named P :=
  .orElse (.diagnosis _) <| .skip (.fixed _) <| .skip (.forced _) (h .block)

omit h in
theorem named_getD {o : Option (List Stmt)} (ho : ∀ ss ∈ o, ∀ s ∈ ss, s.Named P) :
    ∀ s ∈ o.getD [], s.Named P := by
  cases o with
  | none => simp
  | some ss => exact ho ss rfl

theorem keeps_optionalElse : Keeps P (optionalElse r) fun ss => ∀ s ∈ ss, s.Named P :=
  (keeps_elseBlock h).optional.bind fun _ ho => .pure (named_getD ho)

theorem keeps_conditional (word : String) : Keeps P (conditional r word) (Stmt.Named P) := by
  have htest := keeps_namedExpression h
  refine .orElse (.diagnosis _) <| .orElse ?chained ?last
  case chained =>
    exact .withSpan <| .skip (.fixed _) <| htest.bind fun _ ht => .skip (.fixed _) <|
      (h .block).bind fun _ hb => (h .elseIf).bind fun _ ho =>
        .pure fun _ => .ifStmt ht hb (List.forall_mem_singleton.mpr ho)
  case last =>
    exact .withSpan <| .skip (.fixed _) <| htest.bind fun _ ht => .skip (.fixed _) <|
      (h .block).bind fun _ hb => (keeps_optionalElse h).bind fun _ ho =>
        .pure fun _ => .ifStmt ht hb ho

theorem keeps_whileStmt : Keeps P (whileStmt r) (Stmt.Named P) :=
  .orElse (.diagnosis _) <| .withSpan <| .skip (.fixed _) <| (keeps_namedExpression h).bind
    fun _ ht => .skip (.fixed _) <| (h .block).bind fun _ hb => (keeps_optionalElse h).bind
      fun _ ho => .pure fun _ => .whileLoop ht hb ho

theorem keeps_forStmt : Keeps P (forStmt r) (Stmt.Named P) := by
  have hhead : Keeps P (do
      let isAsync := (← optional (fixed "async")).isSome
      discard (fixed "for")
      let target ← starTargets r
      discard (fixed "in")
      return (isAsync, target)) fun x => x.2.Named P :=
    (Keeps.fixed _).optional.bind fun _ _ => .skip (.fixed _) <| (keeps_starTargets h).bind
      fun _ ht => .skip (.fixed _) <| .pure ht
  refine .orElse (.diagnosis _) <| Keeps.current.bind fun start _ => hhead.optional.bind
    fun head hhead => ?_
  cases head with
  | none => exact .diagnosis _
  | some head =>
    exact (keeps_starExpressions h).bind fun _ hi => .skip (.fixed _) <| (h .block).bind
      fun _ hb => (keeps_optionalElse h).bind fun _ ho => (Keeps.spanFrom _).bind fun _ _ =>
        .pure (.forLoop (hhead head rfl) hi hb ho)

theorem keeps_withItem : Keeps P (withItem r) (WithItem.Named P) := by
  have hcontext := keeps_expression h
  refine .orElse ?_ <| .orElse (.diagnosis _) <| hcontext.bind fun _ he => .pure ⟨he, by simp⟩
  exact hcontext.bind fun _ he => .skip (.fixed _) <| (keeps_starTarget h).bind fun t ht =>
    .skip (Keeps.orElse (.fixed _) (.orElse (.fixed _) (.fixed _))).ahead <|
      .pure ⟨he, by simpa using ht⟩

theorem keeps_withStmt : Keeps P (withStmt r) (Stmt.Named P) := by
  have hitems := (keeps_withItem h).sepBy ","
  refine .orElse (.diagnosis _) <| .orElse ?group <| .orElse ?bare (.diagnosis _)
  case group =>
    exact .withSpan <| (Keeps.fixed _).optional.bind fun _ _ => .skip (.fixed _) <|
      .skip (.fixed _) <| hitems.bind fun _ his => .skip (Keeps.fixed _).optional <|
        .skip (.fixed _) <| .skip (.fixed _) <| (h .block).bind fun _ hb =>
          .pure fun _ => .withStmt his hb
  case bare =>
    exact .withSpan <| (Keeps.fixed _).optional.bind fun _ _ => .skip (.fixed _) <|
      hitems.bind fun _ his => .skip (.fixed _) <| (h .block).bind fun _ hb =>
        .pure fun _ => .withStmt his hb

omit h in
theorem keeps_handlerName : Keeps P handlerName fun o => ∀ n ∈ o, P n :=
  (Keeps.skip (.fixed _) keeps_plainName).optional

theorem keeps_handler : Keeps P (handler r) (Handler.Named P) := by
  refine .orElse (.diagnosis _) <| .orElse ?typed <| .orElse ?bare (.diagnosis _)
  case typed =>
    exact .withSpan <| .skip (.fixed _) <| (keeps_expression h).bind fun _ he =>
      keeps_handlerName.bind fun _ hn => .skip (.fixed _) <| (h .block).bind fun _ hb =>
        .pure fun _ => .mk (by simpa using he) hn hb
  case bare =>
    exact .withSpan <| .skip (.fixed _) <| .skip (.fixed _) <| (h .block).bind fun _ hb =>
      .pure fun _ => .mk (by simp) (by simp) hb

theorem keeps_starHandler : Keeps P (starHandler r) (Handler.Named P) := by
  refine .orElse (.diagnosis _) <| .orElse ?_ (.diagnosis _)
  exact .withSpan <| .skip (.fixed _) <| .skip (.fixed _) <| (keeps_expression h).bind
    fun _ he => keeps_handlerName.bind fun _ hn => .skip (.fixed _) <| (h .block).bind fun _ hb =>
      .pure fun _ => .mk (by simpa using he) hn hb

theorem keeps_finallyBlock : Keeps P (finallyBlock r) fun ss => ∀ s ∈ ss, s.Named P :=
  .orElse (.diagnosis _) <| .skip (.fixed _) <| .skip (.forced _) (h .block)

theorem keeps_handled {p : Parse Handler} (hp : Keeps P p (Handler.Named P)) (isStar : Bool) :
    Keeps P (tryStmt.handled r p isStar) (Stmt.Named P) :=
  .withSpan <| .skip (.fixed _) <| .skip (.forced _) <| (h .block).bind fun _ hb =>
    hp.many1.bind fun _ hhs => (keeps_optionalElse h).bind fun _ ho =>
      (keeps_finallyBlock h).optional.bind fun _ hf =>
        .pure fun _ => .tryStmt hb hhs ho (named_getD hf)

theorem keeps_tryStmt : Keeps P (tryStmt r) (Stmt.Named P) := by
  refine .orElse (.diagnosis _) <| .orElse ?_ <|
    .orElse (keeps_handled h (keeps_handler h) _) (keeps_handled h (keeps_starHandler h) _)
  exact .withSpan <| .skip (.fixed _) <| .skip (.forced _) <| (h .block).bind fun _ hb =>
    (keeps_finallyBlock h).bind fun _ hf => .pure fun _ => .tryStmt hb (by simp) (by simp) hf

theorem keeps_decorators : Keeps P (decorators r) fun ds => ∀ d ∈ ds, d.Named P :=
  (Keeps.skip (.fixed _) <| (keeps_namedExpression h).bind fun _ he => .skip (Keeps.kind _) <|
    .pure he).many

theorem keeps_functionDef {ds : List Expr} (hds : ∀ d ∈ ds, d.Named P) :
    Keeps P (functionDef r ds) (Stmt.Named P) := by
  have hparams := (functionStyle.keeps_parametersOrFault h).optional
  refine .orElse (.diagnosis _) <| .withSpan <| (Keeps.fixed _).optional.bind fun _ _ =>
    .skip (.fixed _) <| keeps_plainName.bind fun _ hn => .skip (.forced _) <| hparams.bind
      fun ps hps => .skip (.fixed _) <|
        (Keeps.skip (.fixed _) (keeps_expression h)).optional.bind fun _ hr =>
          .skip (.forced _) <| (h .block).bind fun _ hb => .pure fun _ => .function hn ?_ hb hds hr
  cases ps with
  | none => exact named_none
  | some ps => exact hps ps rfl

theorem keeps_classHeader :
    Keeps P (classHeader r) fun x => P x.2.1 ∧ ∀ a ∈ x.2.2, Arguments.Named P a := by
  have hbases : Keeps P (do
      discard (fixed "(")
      let a ← optional (arguments r)
      discard (fixed ")")
      return a) fun a => ∀ x ∈ a, Arguments.Named P x :=
    .skip (.fixed _) <| (keeps_arguments h).optional.bind fun _ ha => .skip (.fixed _) <| .pure ha
  refine (Keeps.fixed _).bind fun t _ => keeps_plainName.bind fun n hn => hbases.optional.bind
    fun bases hbases => .pure ⟨hn, fun a ha => ?_⟩
  exact hbases _ (Option.join_eq_some_iff.mp ha) a rfl

theorem keeps_classDef {ds : List Expr} (hds : ∀ d ∈ ds, d.Named P) :
    Keeps P (classDef r ds) (Stmt.Named P) := by
  refine .orElse (.diagnosis _) <| .withSpan <| (keeps_classHeader h).bind fun x hx =>
    .skip (.fixed _) <| (h .block).bind fun _ hb => .pure fun _ => ?_
  obtain ⟨t, n, a⟩ := x
  obtain ⟨hn, ha⟩ := hx
  cases a with
  | none => exact .classDef hn (by simp) (by simp) hb hds
  | some a => exact .classDef hn (ha a rfl).positional (ha a rfl).keywords hb hds

theorem keeps_decorated {p : List Expr → Parse Stmt}
    (hp : ∀ {ds : List Expr}, (∀ d ∈ ds, d.Named P) → Keeps P (p ds) (Stmt.Named P)) :
    Keeps P (decorated r p) (Stmt.Named P) :=
  (keeps_decorators h).bind fun _ hds => hp hds

theorem keeps_subject : Keeps P (subject r) (Expr.Named P) :=
  .orElse
    (.withSpan <| (keeps_starNamedExpression h).bind fun _ he => .skip (.fixed _) <|
      (keeps_maybeItems h).bind fun _ hes =>
        .pure fun _ => .tuple (List.forall_mem_cons.mpr ⟨he, hes⟩))
    (keeps_namedExpression h)

theorem keeps_guard : Keeps P (guard r) fun o => ∀ e ∈ o, e.Named P :=
  (Keeps.skip (.fixed _) (keeps_namedExpression h)).optional

theorem keeps_matchCase : Keeps P (matchCase r) (MatchCase.Named P) :=
  .orElse (.diagnosis _) <| .skip (.soft _) <| (keeps_casePattern h).bind fun _ hp =>
    (keeps_guard h).bind fun _ hg => .skip (.fixed _) <| (h .block).bind fun _ hb =>
      .pure (.mk hp hg hb)

theorem keeps_matchStmt : Keeps P (matchStmt r) (Stmt.Named P) :=
  .orElse
    (.withSpan <| .skip (.soft _) <| (keeps_subject h).bind fun _ he => .skip (.fixed _) <|
      .skip (Keeps.kind _) <| .skip (Keeps.kind _) <| (keeps_matchCase h).many1.bind
        fun _ hcs => .skip (Keeps.kind _) <| .pure fun _ => .matchStmt he hcs)
    (.diagnosis _)

theorem keeps_compoundStmt : Keeps P (compoundStmt r) (Stmt.Named P) := by
  have hfunction := keeps_decorated h fun hds => keeps_functionDef h hds
  have hclass := keeps_decorated h fun hds => keeps_classDef h hds
  exact Keeps.current.bind fun t _ => .ite hfunction <| .ite (.orElse hfunction hclass) <|
    .ite (.orElse hfunction <| .orElse (keeps_withStmt h) (keeps_forStmt h)) <|
    .ite (keeps_conditional h _) <| .ite hclass <| .ite (keeps_withStmt h) <|
    .ite (keeps_forStmt h) <| .ite (keeps_tryStmt h) <| .ite (keeps_whileStmt h)
    (keeps_matchStmt h)

theorem keeps_statement : Keeps P (statement r) fun ss => ∀ s ∈ ss, s.Named P :=
  .orElse
    ((keeps_compoundStmt h).bind fun _ hs => .pure (List.forall_mem_singleton.mpr hs))
    (keeps_simpleStmts h)

theorem keeps_module : Keeps P (module r) fun ss => ∀ s ∈ ss, s.Named P :=
  (keeps_statements (keeps_statement h)).optional.bind fun _ hss => .skip (Keeps.kind _) <|
    .pure (named_getD hss)

theorem keeps_loneExpression : Keeps P (loneExpression r) (Expr.Named P) :=
  (keeps_expressions h).bind fun _ he => .skip (Keeps.kind _).many <| .skip (Keeps.kind _) <|
    .pure he

end

end Grammar

variable [Interpreter] {P : String → Prop}

/-- By induction on how deep the rules may call each other. -/
theorem keep_rules (hscan : ScannedNamed P) : ∀ n, (rules n).Keep P
  | 0, _ => .miss
  | n + 1, ρ => by
    have h := keep_rules hscan n
    cases ρ with
    | expression => exact Grammar.keeps_expression h
    | namedExpression => exact Grammar.keeps_namedExpression h
    | starExpression => exact Grammar.keeps_starExpression h
    | starExpressions => exact Grammar.keeps_starExpressions h
    | disjunction => exact Grammar.keeps_disjunction h
    | inversion => exact Grammar.keeps_inversion h
    | bitwiseOr => exact Grammar.keeps_bitwiseOr h
    | factor => exact Grammar.keeps_factor h
    | primary => exact Grammar.keeps_primary h
    | strings => exact Grammar.keeps_strings hscan h
    | arguments => exact Grammar.keeps_arguments h
    | misplacedEquals => exact .miss
    | targetPrimary => exact Grammar.keeps_targetPrimary h
    | starTarget => exact Grammar.keeps_starTarget h
    | starTargets => exact Grammar.keeps_starTargets h
    | targetAtom => exact Grammar.keeps_targetAtom h
    | singleTarget => exact Grammar.keeps_singleTarget h
    | delTarget => exact Grammar.keeps_delTarget h
    | annotatedTarget => exact Grammar.keeps_annotatedDisplay h
    | closedPattern => exact Grammar.keeps_closedPattern h
    | pattern => exact Grammar.keeps_pattern h
    | simpleStmt => exact Grammar.keeps_simpleStmt h
    | elseIf => exact Grammar.keeps_conditional h _
    | block => exact Grammar.keeps_block h (Grammar.keeps_statement h)

/-- Every name in a module that is read is one that a scan gives. -/
theorem named_of_readModule (hscan : ScannedNamed P) {source : String} {ss : List Stmt}
    (h : readModule source = .ok ss) : ∀ s ∈ ss, s.Named P := by
  unfold readModule at h
  dsimp only at h
  split at h
  · cases h
  · exact (Grammar.keeps_module (keep_rules hscan _)).run (hscan 1 _) (mapError_eq_ok.mp h)

theorem named_of_readExpression (hscan : ScannedNamed P) {t : Text} {e : Expr}
    (h : readExpression t = .ok e) : e.Named P := by
  unfold readExpression at h
  split at h
  · split at h <;> cases h
  · dsimp only at h
    split at h
    · cases h
    · exact (Grammar.keeps_loneExpression (keep_rules hscan _)).run (hscan 1 _)
        (mapError_eq_ok.mp h)

end Source
end BranchCover
