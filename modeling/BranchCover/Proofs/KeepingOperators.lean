import BranchCover.Proofs.KeepingExpressions

/-! The rules of parameters, operators and patterns keep to names of a property, if the rules that they
call do. -/
namespace BranchCover
namespace Source
namespace Grammar

open Parse

variable {P : String → Prop} {r : Rules}

namespace ParameterStyle

variable (y : ParameterStyle)

theorem keeps_separator : Keeps P y.separator fun _ => True :=
  .orElse (Keeps.fixed _).discard (Keeps.fixed _).ahead.discard

/-- A parameter whose default is still open: every name but those of the default has the property. -/
theorem keeps_named {typing : Parse Expr} (htyping : Keeps P typing (Expr.Named P)) :
    Keeps P (y.named typing) fun f => ∀ d, (∀ e ∈ d, Expr.Named P e) → (f d).Named P := by
  refine Keeps.current.bind fun t _ => keeps_plainName.bind fun n hn => ?_
  extract_lets finish
  have hfinish : ∀ a, (∀ e ∈ a, Expr.Named P e) → Keeps P (finish a) fun f =>
      ∀ d, (∀ e ∈ d, Expr.Named P e) → (f d).Named P := fun a ha =>
    (Keeps.spanFrom _).bind fun _ _ => .pure fun _ hd => .mk hn ha hd
  split
  · exact htyping.optional.bind hfinish
  · exact Keeps.bind (.pure (by simp)) hfinish

variable (h : r.Keep P)
include h

theorem keeps_param :
    Keeps P (y.param r) fun f => ∀ d, (∀ e ∈ d, Expr.Named P e) → (f d).Named P :=
  y.keeps_named (.skip (.fixed _) (h .expression))

theorem keeps_default : Keeps P (y.default r) (Expr.Named P) :=
  .orElse (.skip (.fixed _) (h .expression)) (.diagnosis _)

theorem keeps_noDefault : Keeps P (y.noDefault r) (Param.Named P) :=
  (y.keeps_param h).bind fun _ hp => y.keeps_separator.bind fun _ _ => .pure (hp none (by simp))

theorem keeps_withDefault : Keeps P (y.withDefault r) (Param.Named P) :=
  (y.keeps_param h).bind fun _ hp => (y.keeps_default h).bind fun d hd => y.keeps_separator.bind
    fun _ _ => .pure (hp (some d) (by simpa using hd))

theorem keeps_maybeDefault : Keeps P (y.maybeDefault r) (Param.Named P) :=
  (y.keeps_param h).bind fun _ hp => (y.keeps_default h).optional.bind fun d hd =>
    y.keeps_separator.bind fun _ _ => .pure (hp d hd)

omit h in
theorem keeps_slash : Keeps P y.slash fun _ => True :=
  .skip (.fixed _) y.keeps_separator

theorem keeps_slashNoDefault : Keeps P (y.slashNoDefault r) fun ps => ∀ p ∈ ps, p.Named P :=
  (y.keeps_noDefault h).many1.bind fun _ hps => y.keeps_slash.bind fun _ _ => .pure hps

theorem keeps_slashWithDefault : Keeps P (y.slashWithDefault r) fun ps => ∀ p ∈ ps, p.Named P :=
  (y.keeps_noDefault h).many.bind fun _ hps => (y.keeps_withDefault h).many1.bind fun _ hds =>
    y.keeps_slash.bind fun _ _ => .pure (List.forall_mem_append.mpr ⟨hps, hds⟩)

theorem keeps_keywords : Keeps P (y.keywords r) (Param.Named P) :=
  .orElse (.diagnosis _) <| .skip (.fixed _) (y.keeps_noDefault h)

omit h in
def StarNamed (P : String → Prop) (x : Option Param × List Param × Option Param) : Prop :=
  (∀ p ∈ x.1, p.Named P) ∧ (∀ p ∈ x.2.1, p.Named P) ∧ ∀ p ∈ x.2.2, p.Named P

theorem keeps_tail {rest : Option Param} (hrest : ∀ p ∈ rest, p.Named P) :
    Keeps P (star.tail y r rest) (StarNamed P) :=
  (y.keeps_maybeDefault h).many.bind fun _ hps => (y.keeps_keywords h).optional.bind fun _ hks =>
    .pure ⟨hrest, hps, hks⟩

theorem keeps_star : Keeps P (y.star r) (StarNamed P) := by
  refine .orElse (.diagnosis _) <| .orElse ?rest <| .orElse ?annotated <| .orElse ?bare ?keywords
  case rest =>
    exact .skip (.fixed _) <| (y.keeps_noDefault h).bind fun _ hp =>
      y.keeps_tail h (by simpa using hp)
  case annotated =>
    split
    · refine .skip (.fixed _) <| (y.keeps_named (.skip (.fixed _) (h .starExpression))).bind
        fun p hp => y.keeps_separator.bind fun _ _ => y.keeps_tail h ?_
      simpa using hp none (by simp)
    · exact .miss
  case bare =>
    exact .skip (.fixed _) <| .skip (.fixed _) <| (y.keeps_maybeDefault h).many1.bind fun _ hps =>
      (y.keeps_keywords h).optional.bind fun _ hks => .pure ⟨by simp, hps, hks⟩
  case keywords =>
    exact (y.keeps_keywords h).bind fun k hk => .pure ⟨by simp, by simp, by simpa using hk⟩

omit h in
theorem named_assemble {posOnly args : List Param}
    {star : Option (Option Param × List Param × Option Param)}
    (hposOnly : ∀ p ∈ posOnly, p.Named P) (hargs : ∀ p ∈ args, p.Named P)
    (hstar : ∀ x ∈ star, StarNamed P x) : (assemble posOnly args star).Named P := by
  cases star with
  | none => exact .mk hposOnly hargs (by simp) (by simp) (by simp)
  | some x =>
    obtain ⟨hrest, hkwOnly, hkeywords⟩ := hstar x rfl
    exact .mk hposOnly hargs hrest hkwOnly hkeywords

theorem keeps_parameters : Keeps P (y.parameters r) (Parameters.Named P) := by
  have hbare := y.keeps_noDefault h
  have hgiven := y.keeps_withDefault h
  have hstar := y.keeps_star h
  refine .orElse ?slashBare <| .orElse ?slashGiven <| .orElse ?bare <| .orElse ?given ?star
  case slashBare =>
    exact (y.keeps_slashNoDefault h).bind fun _ ha => hbare.many.bind fun _ hb => hgiven.many.bind
      fun _ hc => hstar.optional.bind fun _ hs =>
        .pure (named_assemble ha (List.forall_mem_append.mpr ⟨hb, hc⟩) hs)
  case slashGiven =>
    exact (y.keeps_slashWithDefault h).bind fun _ ha => hgiven.many.bind fun _ hb =>
      hstar.optional.bind fun _ hs => .pure (named_assemble ha hb hs)
  case bare =>
    exact hbare.many1.bind fun _ ha => hgiven.many.bind fun _ hb => hstar.optional.bind fun _ hs =>
      .pure (named_assemble (by simp) (List.forall_mem_append.mpr ⟨ha, hb⟩) hs)
  case given =>
    exact hgiven.many1.bind fun _ ha => hstar.optional.bind fun _ hs =>
      .pure (named_assemble (by simp) ha hs)
  case star =>
    exact hstar.bind fun _ hs => .pure (named_assemble (by simp) (by simp) (by simpa using hs))

theorem keeps_parametersOrFault : Keeps P (y.parametersOrFault r) (Parameters.Named P) :=
  .orElse (.diagnosis _) (y.keeps_parameters h)

end ParameterStyle

theorem named_none : Parameters.none.Named P :=
  .mk (by simp) (by simp) (by simp) (by simp) (by simp)

theorem keeps_lambda (h : r.Keep P) : Keeps P (lambda r) (Expr.Named P) :=
  .withSpan <| .skip (.fixed _) <|
    (Keeps.orElse (lambdaStyle.keeps_parametersOrFault h) (.pure named_none)).bind fun _ hps =>
      .skip (.fixed _) <| (h .expression).bind fun _ he => .pure fun _ => .lambda hps he

section

variable (h : r.Keep P)
include h

/-! Operators by precedence. -/

theorem keeps_awaitPrimary : Keeps P (awaitPrimary r) (Expr.Named P) :=
  .orElse
    (.withSpan <| .skip (.fixed _) <| (keeps_primary h).bind fun _ he =>
      .pure fun _ => .await he)
    (keeps_primary h)

theorem keeps_power : Keeps P (power r) (Expr.Named P) :=
  Keeps.current.bind fun _ _ => (keeps_awaitPrimary h).bind fun _ he => .orElse
    (.skip (.fixed _) <| (h .factor).bind fun _ hx => (Keeps.spanFrom _).bind fun _ _ =>
      .pure (.binary he hx))
    (.pure he)

theorem keeps_factor : Keeps P (factor r) (Expr.Named P) := by
  refine Keeps.current.bind fun t _ => ?_
  dsimp only
  split
  · exact .withSpan <| Keeps.advance.bind fun _ _ => (h .factor).bind fun _ he =>
      .pure fun _ => .unary he
  · exact keeps_power h

omit h in
theorem keeps_leftGrouped (ops : List BinaryOp) {operand : Parse Expr}
    (hoperand : Keeps P operand (Expr.Named P)) :
    Keeps P (leftGrouped ops operand) (Expr.Named P) := by
  refine Keeps.current.bind fun start _ => hoperand.chain fun e he => Keeps.current.bind fun t _ => ?_
  split
  · exact Keeps.advance.bind fun _ _ => hoperand.bind fun _ hx => (Keeps.spanFrom _).bind fun _ _ =>
      .pure (.binary he hx)
  · exact .miss

theorem keeps_bitwiseOr : Keeps P (bitwiseOr r) (Expr.Named P) :=
  .memo (ρ := .bitwiseOr) <| keeps_leftGrouped _ <| keeps_leftGrouped _ <| keeps_leftGrouped _ <|
    keeps_leftGrouped _ <| keeps_leftGrouped _ <| keeps_leftGrouped _ (keeps_factor h)

theorem keeps_comparisonPart : Keeps P (comparisonPart r) fun x => x.2.Named P := by
  have hside := keeps_bitwiseOr h
  refine Keeps.current.bind fun t _ => ?_
  dsimp only
  split
  · exact Keeps.advance.bind fun _ _ => hside.bind fun _ he => .pure he
  split
  · exact Keeps.advance.bind fun _ _ => .skip (.fixed _) <| hside.bind fun _ he => .pure he
  split
  · exact .orElse
      (Keeps.advance.bind fun _ _ => .skip (.fixed _) <| hside.bind fun _ he => .pure he)
      (Keeps.advance.bind fun _ _ => hside.bind fun _ he => .pure he)
  · exact .miss

theorem keeps_comparison : Keeps P (comparison r) (Expr.Named P) :=
  Keeps.current.bind fun _ _ => (keeps_bitwiseOr h).bind fun _ he =>
    (keeps_comparisonPart h).many.bind fun _ hparts => .ite (.pure he) <|
      (Keeps.spanFrom _).bind fun _ _ => .pure (.compare he (List.forall_mem_map.mpr hparts))

theorem keeps_inversion : Keeps P (inversion r) (Expr.Named P) :=
  .orElse
    (.withSpan <| .skip (.fixed _) <| (h .inversion).bind fun _ he => .pure fun _ => .unary he)
    (keeps_comparison h)

omit h in
theorem keeps_joined (word : String) (op : BoolOp) {operand : Parse Expr}
    (hoperand : Keeps P operand (Expr.Named P)) :
    Keeps P (joined word op operand) (Expr.Named P) :=
  Keeps.current.bind fun _ _ => hoperand.bind fun _ he =>
    (Keeps.skip (.fixed _) hoperand).many.bind fun _ hes => .ite (.pure he) <|
      (Keeps.spanFrom _).bind fun _ _ => .pure (.boolOp (List.forall_mem_cons.mpr ⟨he, hes⟩))

theorem keeps_disjunction : Keeps P (disjunction r) (Expr.Named P) :=
  .memo (ρ := .disjunction) <| keeps_joined _ _ <| keeps_joined _ _ (keeps_inversion h)

theorem keeps_choice : Keeps P (choice r) (Expr.Named P) := by
  have hpart := keeps_disjunction h
  refine Keeps.current.bind fun start _ => hpart.bind fun e he => .orElse ?_ (.pure he)
  exact .skip (.fixed _) <| hpart.bind fun _ htest => .skip (.fixed _) <| (h .expression).bind
    fun _ hother => (Keeps.spanFrom _).bind fun _ _ => .pure (.conditional htest he hother)

theorem keeps_expression : Keeps P (expression r) (Expr.Named P) :=
  .memo (ρ := .expression) <| .orElse (.diagnosis _) <| .orElse (.diagnosis _) <|
    .orElse (keeps_choice h) (keeps_lambda h)

theorem keeps_starExpression : Keeps P (starExpression r) (Expr.Named P) :=
  .memo (ρ := .starExpression) <| .orElse
    (.withSpan <| .skip (.fixed _) <| (keeps_bitwiseOr h).bind fun _ he =>
      .pure fun _ => .starred he)
    (keeps_expression h)

omit h in
theorem keeps_orTuple {item : Parse Expr} (hitem : Keeps P item (Expr.Named P)) :
    Keeps P (orTuple item) (Expr.Named P) :=
  Keeps.current.bind fun _ _ => hitem.bind fun _ he => (Keeps.skip (.fixed _) hitem).many.bind
    fun _ hes => (Keeps.fixed _).optional.bind fun _ _ => .ite (.pure he) <|
      (Keeps.spanFrom _).bind fun _ _ => .pure (.tuple (List.forall_mem_cons.mpr ⟨he, hes⟩))

theorem keeps_starExpressions : Keeps P (starExpressions r) (Expr.Named P) :=
  keeps_orTuple (keeps_starExpression h)

theorem keeps_expressions : Keeps P (expressions r) (Expr.Named P) :=
  keeps_orTuple (keeps_expression h)

end

end Grammar
end Source
end BranchCover
