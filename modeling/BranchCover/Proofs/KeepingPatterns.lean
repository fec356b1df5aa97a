import BranchCover.Proofs.KeepingOperators

/-! The rules of patterns keep to names of a property, if the rules that they call do. -/
namespace BranchCover
namespace Source
namespace Grammar

open Parse

variable {P : String → Prop} {r : Rules}

theorem keeps_signed {p : Parse Expr} (hp : Keeps P p (Expr.Named P)) :
    Keeps P (signed p) (Expr.Named P) :=
  .orElse hp <| .withSpan <| .skip (.fixed _) <| hp.bind fun _ he => .pure fun _ => .unary he

theorem keeps_realNumber : Keeps P realNumber (Expr.Named P) :=
  keeps_number.bind fun _ he => .ite (.complainAt _ _) (.pure he)

theorem keeps_imaginaryNumber : Keeps P imaginaryNumber (Expr.Named P) :=
  keeps_number.bind fun _ he => .ite (.pure he) (.complainAt _ _)

theorem keeps_complexNumber : Keeps P complexNumber (Expr.Named P) := by
  refine .withSpan <| (keeps_signed keeps_realNumber).bind fun _ ha =>
    Keeps.bind (Q := fun _ => True) ?_ fun _ _ => keeps_imaginaryNumber.bind fun _ hb =>
      .pure fun _ => .binary ha hb
  exact .orElse (.skip (.fixed _) (.pure trivial)) (.skip (.fixed _) (.pure trivial))

theorem keeps_patternNumber : Keeps P patternNumber (Expr.Named P) :=
  .orElse
    ((keeps_signed keeps_number).bind fun _ he =>
      (Keeps.orElse (.fixed _) (.fixed _)).notAhead.bind fun _ _ => .pure he)
    keeps_complexNumber

theorem keeps_boundName : Keeps P boundName P :=
  (Keeps.soft _).notAhead.bind fun _ _ => keeps_plainName.bind fun _ hn =>
    (Keeps.orElse (.fixed _) (.orElse (.fixed _) (.fixed _))).notAhead.bind fun _ _ => .pure hn

theorem keeps_nameOrAttribute : Keeps P nameOrAttribute (Expr.Named P) :=
  Keeps.current.bind fun start _ => keeps_name.chain fun _ he => keeps_memberOf start he

theorem keeps_attributePath : Keeps P attributePath (Expr.Named P) := by
  refine keeps_nameOrAttribute.bind fun e he => ?_
  split
  · exact .pure he
  · exact .miss

theorem keeps_valuePattern : Keeps P valuePattern (Pattern.Named P) :=
  .withSpan <| keeps_attributePath.bind fun _ he =>
    (Keeps.orElse (.fixed _) (.orElse (.fixed _) (.fixed _))).notAhead.bind fun _ _ =>
      .pure fun _ => .value he

theorem keeps_starPattern : Keeps P starPattern (Pattern.Named P) :=
  .orElse
    (.withSpan <| .skip (.fixed _) <| keeps_boundName.bind fun _ hn =>
      .pure fun _ => .star (by simpa using hn))
    (.withSpan <| .skip (.fixed _) <| .skip (.soft _) <| .pure fun _ => .star (by simp))

theorem keeps_mappingRest : Keeps P mappingRest P :=
  .skip (.fixed _) keeps_boundName

section

variable (h : r.Keep P)
include h

theorem keeps_literalPattern : Keeps P (literalPattern r) (Pattern.Named P) := by
  refine .orElse ?number <| .orElse ?string ?word
  case number =>
    exact .withSpan <| keeps_patternNumber.bind fun _ he => .pure fun _ => .value he
  case string =>
    exact .withSpan <| (h .strings).bind fun _ he => .pure fun _ => .value he
  case word =>
    refine keeps_keywordConstant.bind fun e _ => ?_
    split
    · exact .pure .singleton
    · exact .miss

theorem keeps_literalExpression : Keeps P (literalExpression r) (Expr.Named P) :=
  .orElse keeps_patternNumber <| .orElse (h .strings) keeps_keywordConstant

theorem keeps_maybeStarPattern : Keeps P (maybeStarPattern r) (Pattern.Named P) :=
  .orElse keeps_starPattern (h .pattern)

theorem keeps_maybeSequence : Keeps P (maybeSequence r) fun ps => ∀ p ∈ ps, p.Named P :=
  ((keeps_maybeStarPattern h).sepBy ",").bind fun _ hps => .skip (Keeps.fixed _).optional <|
    .pure hps

theorem keeps_openSequence : Keeps P (openSequence r) fun ps => ∀ p ∈ ps, p.Named P :=
  (keeps_maybeStarPattern h).bind fun _ hp => .skip (.fixed _) <|
    (Keeps.orElse (keeps_maybeSequence h) (.pure (by simp))).bind fun _ hps =>
      .pure (List.forall_mem_cons.mpr ⟨hp, hps⟩)

theorem keeps_sequencePattern : Keeps P (sequencePattern r) (Pattern.Named P) :=
  .orElse
    (.withSpan <| .skip (.fixed _) <| (Keeps.orElse (keeps_maybeSequence h) (.pure (by simp))).bind
      fun _ hps => .skip (.fixed _) <| .pure fun _ => .sequence hps)
    (.withSpan <| .skip (.fixed _) <| (Keeps.orElse (keeps_openSequence h) (.pure (by simp))).bind
      fun _ hps => .skip (.fixed _) <| .pure fun _ => .sequence hps)

theorem keeps_keyValue : Keeps P (keyValue r) fun x => x.1.Named P ∧ x.2.Named P :=
  (Keeps.orElse (keeps_literalExpression h) keeps_attributePath).bind fun _ hkey =>
    .skip (.fixed _) <| (h .pattern).bind fun _ hp => .pure ⟨hkey, hp⟩

theorem keeps_mappingPattern : Keeps P (mappingPattern r) (Pattern.Named P) := by
  have hitems := (keeps_keyValue h).sepBy ","
  refine .orElse ?empty <| .orElse ?rest <| .orElse ?both <| .orElse ?items .miss
  case empty =>
    exact .withSpan <| .skip (.fixed _) <| .skip (.fixed _) <|
      .pure fun _ => .mapping (by simp) (by simp) (by simp)
  case rest =>
    exact .withSpan <| .skip (.fixed _) <| keeps_mappingRest.bind fun _ hn =>
      .skip (Keeps.fixed _).optional <| .skip (.fixed _) <|
        .pure fun _ => .mapping (by simp) (by simp) (by simpa using hn)
  case both =>
    exact .withSpan <| .skip (.fixed _) <| hitems.bind fun _ his => .skip (.fixed _) <|
      keeps_mappingRest.bind fun _ hn => .skip (Keeps.fixed _).optional <| .skip (.fixed _) <|
        .pure fun _ => .mapping (List.forall_mem_map.mpr fun i hi => (his i hi).1)
          (List.forall_mem_map.mpr fun i hi => (his i hi).2) (by simpa using hn)
  case items =>
    exact .withSpan <| .skip (.fixed _) <| hitems.bind fun _ his =>
      .skip (Keeps.fixed _).optional <| .skip (.fixed _) <|
        .pure fun _ => .mapping (List.forall_mem_map.mpr fun i hi => (his i hi).1)
          (List.forall_mem_map.mpr fun i hi => (his i hi).2) (by simp)

theorem keeps_keywordPattern : Keeps P (keywordPattern r) fun x => P x.1 ∧ x.2.Named P :=
  keeps_plainName.bind fun _ hn => .skip (.fixed _) <| (h .pattern).bind fun _ hp => .pure ⟨hn, hp⟩

theorem keeps_objectPattern : Keeps P (objectPattern r) (Pattern.Named P) := by
  have hpatterns := (h .pattern).sepBy ","
  have hkeywords := (keeps_keywordPattern h).sepBy ","
  refine .orElse ?empty <| .orElse ?positional <| .orElse ?keywords <| .orElse ?both <|
    .orElse (.diagnosis _) .miss
  case empty =>
    exact .withSpan <| keeps_nameOrAttribute.bind fun _ he => .skip (.fixed _) <|
      .skip (.fixed _) <| .pure fun _ => .object he (by simp) (by simp) (by simp)
  case positional =>
    exact .withSpan <| keeps_nameOrAttribute.bind fun _ he => .skip (.fixed _) <|
      hpatterns.bind fun _ hps => .skip (Keeps.fixed _).optional <| .skip (.fixed _) <|
        .pure fun _ => .object he hps (by simp) (by simp)
  case keywords =>
    exact .withSpan <| keeps_nameOrAttribute.bind fun _ he => .skip (.fixed _) <|
      hkeywords.bind fun _ hks => .skip (Keeps.fixed _).optional <| .skip (.fixed _) <|
        .pure fun _ => .object he (by simp) (List.forall_mem_map.mpr fun k hk => (hks k hk).1)
          (List.forall_mem_map.mpr fun k hk => (hks k hk).2)
  case both =>
    exact .withSpan <| keeps_nameOrAttribute.bind fun _ he => .skip (.fixed _) <|
      hpatterns.bind fun _ hps => .skip (.fixed _) <| hkeywords.bind fun _ hks =>
        .skip (Keeps.fixed _).optional <| .skip (.fixed _) <|
          .pure fun _ => .object he hps (List.forall_mem_map.mpr fun k hk => (hks k hk).1)
            (List.forall_mem_map.mpr fun k hk => (hks k hk).2)

theorem keeps_closedPattern : Keeps P (closedPattern r) (Pattern.Named P) := by
  refine .memo (ρ := .closedPattern) <| .orElse (keeps_literalPattern h) <|
    .orElse ?capture <| .orElse ?wildcard <| .orElse keeps_valuePattern <| .orElse ?group <|
    .orElse (keeps_sequencePattern h) <| .orElse (keeps_mappingPattern h) <|
    .orElse (keeps_objectPattern h) .miss
  case capture =>
    exact .withSpan <| keeps_boundName.bind fun _ hn =>
      .pure fun _ => .capture (by simp) (by simpa using hn)
  case wildcard =>
    exact .withSpan <| .skip (.soft _) <| .pure fun _ => .capture (by simp) (by simp)
  case group =>
    exact .skip (.fixed _) <| (h .pattern).bind fun _ hp => .skip (.fixed _) <| .pure hp

theorem keeps_orPattern : Keeps P (orPattern r) (Pattern.Named P) := by
  refine Keeps.current.bind fun start _ => ((keeps_closedPattern h).sepBy "|").bind
    fun ps hps => ?_
  split
  · exact .pure (hps _ List.mem_cons_self)
  · exact (Keeps.spanFrom _).bind fun _ _ => .pure (.alternatives hps)

theorem keeps_pattern : Keeps P (pattern r) (Pattern.Named P) :=
  .orElse
    (.withSpan <| (keeps_orPattern h).bind fun _ hp => .skip (.fixed _) <|
      keeps_boundName.bind fun _ hn =>
        .pure fun _ => .capture (by simpa using hp) (by simpa using hn))
    (.orElse (.diagnosis _) (keeps_orPattern h))

theorem keeps_casePattern : Keeps P (casePattern r) (Pattern.Named P) :=
  .orElse
    (.withSpan <| (keeps_openSequence h).bind fun _ hps => .pure fun _ => .sequence hps)
    (keeps_pattern h)

end

end Grammar
end Source
end BranchCover
