import BranchCover.Proofs.KeepingLiterals
import BranchCover.Source.Grammar.PatternRule

/-! The rules of expressions and patterns keep to names of a property, if the rules that they call do. -/
namespace BranchCover
namespace Source
namespace Grammar

open Parse

variable {P : String → Prop} {r : Rules}

section

variable (h : r.Keep P)
include h

/-! Arguments of calls, and the loops of comprehensions. -/

theorem keeps_starredExpression : Keeps P (starredExpression r) (Expr.Named P) :=
  .orElse
    (.withSpan <| .skip (.fixed _) <| (h .expression).bind fun _ he => .pure fun _ => .starred he)
    (.diagnosis _)

theorem keeps_assignmentExpression : Keeps P (assignmentExpression r) (Expr.Named P) :=
  .withSpan <| keeps_name.bind fun _ hn => .skip (.fixed _) <| (h .expression).bind fun _ he =>
    .pure fun _ => .named hn he

theorem keeps_plainExpression : Keeps P (plainExpression r) (Expr.Named P) :=
  .orElse (keeps_assignmentExpression h) <| (h .expression).bind fun _ he =>
    (Keeps.fixed _).notAhead.bind fun _ _ => .pure he

theorem keeps_loop : Keeps P (loop r) (Comprehension.Named P) := by
  have hhead : Keeps P (do
      let isAsync := (← optional (fixed "async")).isSome
      discard (fixed "for")
      let target ← r .starTargets
      discard (fixed "in")
      return (isAsync, target)) fun x => x.2.Named P :=
    (Keeps.fixed _).optional.bind fun _ _ => .skip (.fixed _) <| (h .starTargets).bind
      fun _ htarget => .skip (.fixed _) <| .pure htarget
  refine hhead.optional.bind fun head htarget => ?_
  cases head with
  | none => exact .diagnosis _
  | some head =>
    have htests := (Keeps.skip (.fixed "if") (h .disjunction)).many
    exact (h .disjunction).bind fun _ hiter => htests.bind fun _ htests =>
      .pure (.mk (htarget head rfl) hiter htests)

theorem keeps_loops : Keeps P (loops r) fun ls => ∀ l ∈ ls, l.Named P :=
  (keeps_loop h).many1

omit h in
def LateArgument.Named (P : String → Prop) : LateArgument → Prop
  | .value e => e.Named P
  | .keyword k => k.Named P

theorem keeps_positionalArgument : Keeps P (positionalArgument r) (Expr.Named P) :=
  .orElse (keeps_starredExpression h) <| (keeps_plainExpression h).bind fun _ he =>
    (Keeps.fixed _).notAhead.bind fun _ _ => .pure he

theorem keeps_keywordArgument : Keeps P (keywordArgument r) (LateArgument.Named P) :=
  .orElse (.diagnosis _) <| keeps_plainName.bind fun n hn => .skip (.fixed _) <|
    (h .expression).bind fun _ he => .pure (Keyword.Named.mk (by simpa using hn) he)

theorem keeps_keywordOrStarred : Keeps P (keywordOrStarred r) (LateArgument.Named P) :=
  .orElse (keeps_keywordArgument h) <| (keeps_starredExpression h).bind fun _ he => .pure he

theorem keeps_keywordOrMapping : Keeps P (keywordOrMapping r) (LateArgument.Named P) :=
  .orElse (keeps_keywordArgument h) <| .skip (.fixed _) <| (h .expression).bind fun _ he =>
    .pure (Keyword.Named.mk (by simp) he)

theorem keeps_lateArguments :
    Keeps P (lateArguments r) fun xs => ∀ x ∈ xs, LateArgument.Named P x := by
  have hmappings := (keeps_keywordOrMapping h).sepBy ","
  refine .orElse ?_ hmappings
  refine ((keeps_keywordOrStarred h).sepBy ",").bind fun xs hxs => ?_
  refine (Keeps.orElse (.skip (.fixed _) hmappings) (.pure (by simp))).bind fun ys hys => .pure ?_
  exact List.forall_mem_append.mpr ⟨hxs, hys⟩

omit h in
theorem named_lateValues {xs : List LateArgument} (hxs : ∀ x ∈ xs, LateArgument.Named P x) :
    ∀ e ∈ lateValues xs, e.Named P := by
  fun_induction lateValues xs with
  | case1 => simp
  | case2 e xs ih =>
    obtain ⟨he, hrest⟩ := List.forall_mem_cons.mp hxs
    exact List.forall_mem_cons.mpr ⟨he, ih hrest⟩
  | case3 k xs ih => exact ih (List.forall_mem_cons.mp hxs).2

omit h in
theorem named_lateKeywords {xs : List LateArgument} (hxs : ∀ x ∈ xs, LateArgument.Named P x) :
    ∀ k ∈ lateKeywords xs, k.Named P := by
  fun_induction lateKeywords xs with
  | case1 => simp
  | case2 e xs ih => exact ih (List.forall_mem_cons.mp hxs).2
  | case3 k xs ih =>
    obtain ⟨hk, hrest⟩ := List.forall_mem_cons.mp hxs
    exact List.forall_mem_cons.mpr ⟨hk, ih hrest⟩

theorem keeps_argumentList : Keeps P (argumentList r) (Arguments.Named P) := by
  refine .withSpan (.orElse ?_ ?_)
  · refine ((keeps_positionalArgument h).sepBy ",").bind fun xs hxs => ?_
    refine (Keeps.orElse (.skip (.fixed _) (keeps_lateArguments h)) (.pure (by simp))).bind
      fun late hlate => .pure fun _ => ⟨?_, named_lateKeywords hlate⟩
    exact List.forall_mem_append.mpr ⟨hxs, named_lateValues hlate⟩
  · exact (keeps_lateArguments h).bind fun late hlate => .pure fun _ =>
      ⟨named_lateValues hlate, named_lateKeywords hlate⟩

theorem keeps_arguments : Keeps P (arguments r) (Arguments.Named P) :=
  .memo (ρ := .arguments) <| .orElse
    ((keeps_argumentList h).bind fun _ ha => .skip (Keeps.fixed _).optional <|
      .skip (Keeps.fixed _).ahead <| .pure ha)
    (.diagnosis _)

/-! Displays and groups. -/

theorem keeps_starNamedExpression : Keeps P (starNamedExpression r) (Expr.Named P) :=
  .orElse
    (.withSpan <| .skip (.fixed _) <| (h .bitwiseOr).bind fun _ he => .pure fun _ => .starred he)
    (h .namedExpression)

theorem keeps_starNamedExpressions :
    Keeps P (starNamedExpressions r) fun es => ∀ e ∈ es, e.Named P :=
  ((keeps_starNamedExpression h).sepBy ",").bind fun _ hes => .skip (Keeps.fixed _).optional <|
    .pure hes

theorem keeps_maybeItems :
    Keeps P (starNamedExpressions r <|> return []) fun es => ∀ e ∈ es, e.Named P :=
  .orElse (keeps_starNamedExpressions h) (.pure (by simp))

theorem keeps_list : Keeps P (list r) (Expr.Named P) :=
  .withSpan <| .skip (.fixed _) <| (keeps_maybeItems h).bind fun _ hes => .skip (.fixed _) <|
    .pure fun _ => .list hes

theorem keeps_tuple : Keeps P (tuple r) (Expr.Named P) := by
  refine .withSpan <| .skip (.fixed _) <| Keeps.bind (Q := fun es => ∀ e ∈ es, Expr.Named P e)
    (.orElse ?_ (.pure (by simp))) fun _ hes => .skip (.fixed _) <| .pure fun _ => .tuple hes
  exact (keeps_starNamedExpression h).bind fun _ he => .skip (.fixed _) <|
    (keeps_maybeItems h).bind fun _ hes => .pure (List.forall_mem_cons.mpr ⟨he, hes⟩)

theorem keeps_generator : Keeps P (generator r) (Expr.Named P) :=
  .orElse
    (.withSpan <| .skip (.fixed _) <| (keeps_plainExpression h).bind fun _ he =>
      (keeps_loops h).bind fun _ hls => .skip (.fixed _) <| .pure fun _ => .generator he hls)
    (.diagnosis _)

theorem keeps_listComprehension : Keeps P (listComprehension r) (Expr.Named P) :=
  .orElse
    (.withSpan <| .skip (.fixed _) <| (h .namedExpression).bind fun _ he =>
      (keeps_loops h).bind fun _ hls => .skip (.fixed _) <| .pure fun _ => .listComp he hls)
    (.diagnosis _)

theorem keeps_set : Keeps P (set r) (Expr.Named P) :=
  .withSpan <| .skip (.fixed _) <| (keeps_starNamedExpressions h).bind fun _ hes =>
    .skip (.fixed _) <| .pure fun _ => .set hes

theorem keeps_setComprehension : Keeps P (setComprehension r) (Expr.Named P) :=
  .orElse
    (.withSpan <| .skip (.fixed _) <| (h .namedExpression).bind fun _ he =>
      (keeps_loops h).bind fun _ hls => .skip (.fixed _) <| .pure fun _ => .setComp he hls)
    (.diagnosis _)

theorem keeps_pair : Keeps P (pair r) fun x => x.1.Named P ∧ x.2.Named P :=
  (h .expression).bind fun _ hkey => .skip (.fixed _) <| (h .expression).bind fun _ hvalue =>
    .pure ⟨hkey, hvalue⟩

theorem keeps_dictItem : Keeps P (dictItem r) (DictItem.Named P) :=
  .orElse
    (.skip (.fixed _) <| (h .bitwiseOr).bind fun _ he => .pure (.spread he))
    ((keeps_pair h).bind fun _ ⟨hkey, hvalue⟩ => .pure (.pair hkey hvalue))

theorem keeps_dictValueFaults : Keeps P (firstOf (dictValueFaults r)) fun _ => True := by
  refine .orElse ?starred <| .orElse ?missing .miss
  case starred =>
    exact .skip (h .expression) <| .skip (.fixed _) <| (Keeps.fixed _).bind fun t _ =>
      .skip (h .bitwiseOr) <| .complainAtToken t _
  case missing =>
    exact .skip (h .expression) <| (Keeps.fixed _).bind fun t _ =>
      .skip (Keeps.orElse (.fixed _) (.fixed _)).ahead <| .complainAtToken t _

/-- This explanation takes part in every reading, so that it counts what it leaves behind. -/
theorem keeps_dictFaults : Keeps P (dictFaults r) fun _ => True := by
  refine .orElse ?items (keeps_dictValueFaults h)
  refine .skip ((keeps_dictItem h).sepBy ",") <| .skip (.fixed _) <|
    Keeps.bind (.orElse ?colon (keeps_dictValueFaults h)) fun _ _ => .miss
  case colon =>
    exact (h .expression).bind fun _ _ => (Keeps.fixed _).notAhead.bind fun _ _ =>
      .complainFrom _ _ _

theorem keeps_dict : Keeps P (dict r) (Expr.Named P) := by
  refine .orElse ?_ (.skip (.fixed _) <| (keeps_dictFaults h).bind fun _ _ => .miss)
  refine .withSpan <| .skip (.fixed _) <| Keeps.bind (Q := fun is => ∀ i ∈ is, DictItem.Named P i)
    (.orElse ?_ (.pure (by simp))) fun _ his => .skip (.fixed _) <| .pure fun _ => .dict his
  exact ((keeps_dictItem h).sepBy ",").bind fun _ his => .skip (Keeps.fixed _).optional <| .pure his

theorem keeps_dictComprehension : Keeps P (dictComprehension r) (Expr.Named P) :=
  .orElse
    (.withSpan <| .skip (.fixed _) <| (keeps_pair h).bind fun _ ⟨hkey, hvalue⟩ =>
      (keeps_loops h).bind fun _ hls => .skip (.fixed _) <|
        .pure fun _ => .dictComp hkey hvalue hls)
    (.diagnosis _)

theorem keeps_yieldExpression : Keeps P (yieldExpression r) (Expr.Named P) :=
  .orElse
    (.withSpan <| .skip (.fixed _) <| .skip (.fixed _) <| (h .expression).bind fun _ he =>
      .pure fun _ => .yieldFrom he)
    (.withSpan <| .skip (.fixed _) <| (h .starExpressions).optional.bind fun _ he =>
      .pure fun _ => .yield he)

theorem keeps_group : Keeps P (group r) (Expr.Named P) :=
  .orElse
    (.skip (.fixed _) <| (Keeps.orElse (keeps_yieldExpression h) (h .namedExpression)).bind
      fun _ he => .skip (.fixed _) <| .pure he)
    (.diagnosis _)

theorem keeps_namedExpression : Keeps P (namedExpression r) (Expr.Named P) :=
  .orElse (keeps_assignmentExpression h) <| .orElse (.diagnosis _) <| (h .expression).bind
    fun _ he => (Keeps.fixed _).notAhead.bind fun _ _ => .pure he

/-! Atoms, and the attributes, calls and subscripts behind them. -/

theorem keeps_slice : Keeps P (slice r) (Expr.Named P) :=
  .orElse
    (.withSpan <| (h .expression).optional.bind fun _ hlower => .skip (.fixed _) <|
      (h .expression).optional.bind fun _ hupper =>
        (Keeps.orElse (.skip (.fixed _) (h .expression).optional) (.pure (by simp))).bind
          fun _ hstep => .pure fun _ => .slice hlower hupper hstep)
    (h .namedExpression)

theorem keeps_slices : Keeps P (slices r) (Expr.Named P) :=
  .orElse
    ((keeps_slice h).bind fun _ he => (Keeps.fixed _).notAhead.bind fun _ _ => .pure he)
    (.withSpan <| ((Keeps.orElse (keeps_slice h) (keeps_starredExpression h)).sepBy ",").bind
      fun _ hes => .skip (Keeps.fixed _).optional <| .pure fun _ => .tuple hes)

theorem keeps_atom : Keeps P (atom r) (Expr.Named P) := by
  refine Keeps.current.bind fun t _ => ?_
  cases t.kind with
  | name => exact keeps_name
  | number => exact keeps_number
  | string => exact h .strings
  | _ =>
    exact .ite (.orElse (keeps_tuple h) <| .orElse (keeps_group h) (keeps_generator h)) <|
      .ite (.orElse (keeps_list h) (keeps_listComprehension h)) <|
      .ite (.orElse (keeps_dict h) <| .orElse (keeps_set h) <|
        .orElse (keeps_dictComprehension h) (keeps_setComprehension h)) <|
      .ite (Keeps.advance.bind fun _ _ => .pure .constant) keeps_keywordConstant

omit h in
theorem keeps_memberOf (start : Token) {e : Expr} (he : e.Named P) :
    Keeps P (memberOf start e) (Expr.Named P) :=
  .skip (.fixed _) <| keeps_plainName.bind fun _ hn => (Keeps.spanFrom _).bind fun _ _ =>
    .pure (.member he hn)

theorem keeps_subscriptOf (access : Access) (start : Token) {e : Expr} (he : e.Named P) :
    Keeps P (subscriptOf r access start e) (Expr.Named P) :=
  .skip (.fixed _) <| (keeps_slices h).bind fun _ hi => .skip (.fixed _) <|
    (Keeps.spanFrom _).bind fun _ _ => .pure (.subscript he hi)

theorem keeps_generatorCallOf (start : Token) {e : Expr} (he : e.Named P) :
    Keeps P (generatorCallOf r start e) (Expr.Named P) :=
  (keeps_generator h).bind fun _ hg => (Keeps.spanFrom _).bind fun _ _ =>
    .pure (.call he (List.forall_mem_singleton.mpr hg) (by simp))

theorem keeps_callOf (start : Token) {e : Expr} (he : e.Named P) :
    Keeps P (callOf r start e) (Expr.Named P) := by
  refine .skip (.fixed _) <| (keeps_arguments h).optional.bind fun a ha => .skip (.fixed _) ?_
  cases a with
  | none => exact (Keeps.spanFrom _).bind fun _ _ => .pure (.call he (by simp) (by simp))
  | some a =>
    obtain ⟨hpositional, hkeywords⟩ := ha a rfl
    exact (Keeps.spanFrom _).bind fun _ _ => .pure (.call he hpositional hkeywords)

theorem keeps_primary : Keeps P (primary r) (Expr.Named P) :=
  .memo (ρ := .primary) <| Keeps.current.bind fun start _ => (keeps_atom h).chain fun _ he =>
    Keeps.current.bind fun _ _ => .ite (keeps_memberOf start he) <|
      .ite (.orElse (keeps_generatorCallOf h start he) (keeps_callOf h start he)) <|
      .ite (keeps_subscriptOf h .load start he) .miss

/-! Targets. -/

omit h in
theorem keeps_continues : Keeps P continues fun _ => True :=
  (Keeps.orElse (.fixed _) (.orElse (.fixed _) (.fixed _))).ahead

omit h in
theorem keeps_ends : Keeps P ends fun _ => True :=
  (Keeps.orElse (.fixed _) (.orElse (.fixed _) (.fixed _))).notAhead

theorem keeps_targetPrimary : Keeps P (targetPrimary r) (Expr.Named P) := by
  have hcontinued : ∀ {p : Parse Expr}, Keeps P p (Expr.Named P) → Keeps P (do
      let e ← p
      discard continues
      return e) (Expr.Named P) :=
    fun hp => hp.bind fun _ he => .skip keeps_continues <| .pure he
  refine .memo (ρ := .targetPrimary) <| Keeps.current.bind fun start _ =>
    (hcontinued (keeps_atom h)).chain fun e he => ?_
  exact .orElse (hcontinued (keeps_memberOf start he)) <|
    .orElse (hcontinued (keeps_subscriptOf h .load start he)) <|
    .orElse (hcontinued (keeps_generatorCallOf h start he)) <|
    .orElse (hcontinued (keeps_callOf h start he)) .miss

theorem keeps_partTarget (access : Access) : Keeps P (partTarget r access) (Expr.Named P) :=
  Keeps.current.bind fun start _ => .orElse
    ((keeps_targetPrimary h).bind fun _ ht => (keeps_memberOf start ht).bind fun _ he =>
      keeps_ends.bind fun _ _ => .pure he)
    ((keeps_targetPrimary h).bind fun _ ht => (keeps_subscriptOf h access start ht).bind
      fun _ he => keeps_ends.bind fun _ _ => .pure he)

end

mutual

theorem named_withAccess (a : Access) : ∀ {e : Expr}, e.Named P → (e.withAccess a).Named P
  | .starred value _ s, .starred hvalue => by
    rw [Expr.withAccess]
    exact .starred (named_withAccess a hvalue)
  | .list items _ s, .list hitems => by
    rw [Expr.withAccess]
    exact .list (named_changeAll a hitems)
  | .tuple items _ s, .tuple hitems => by
    rw [Expr.withAccess]
    exact .tuple (named_changeAll a hitems)
  | .subscript value index _ s, .subscript hvalue hindex => by
    rw [Expr.withAccess]
    exact .subscript hvalue hindex
  | .constant .., h | .name .., h | .member .., h | .set .., h | .dict .., h | .listComp .., h
  | .setComp .., h | .dictComp .., h | .generator .., h | .lambda .., h | .boolOp .., h
  | .named .., h | .binary .., h | .unary .., h | .conditional .., h | .await .., h | .yield .., h
  | .yieldFrom .., h | .compare .., h | .call .., h | .field .., h | .formatted .., h
  | .slice .., h => h

theorem named_changeAll (a : Access) : ∀ {es : List Expr}, (∀ e ∈ es, e.Named P) →
    ∀ e ∈ Expr.withAccess.changeAll a es, e.Named P
  | [], _ => by simp [Expr.withAccess.changeAll]
  | e :: es, hes => by
    obtain ⟨he, hrest⟩ := List.forall_mem_cons.mp hes
    rw [Expr.withAccess.changeAll]
    exact List.forall_mem_cons.mpr ⟨named_withAccess a he, named_changeAll a hrest⟩

end

section

variable (h : r.Keep P)
include h

theorem keeps_starAtom : Keeps P (starAtom r) (Expr.Named P) := by
  refine .orElse keeps_name <| .orElse ?group <| .orElse ?tuple ?list
  case group =>
    exact .skip (.fixed _) <| (h .targetAtom).bind fun _ he => .skip (.fixed _) <|
      .pure (named_withAccess _ he)
  case tuple =>
    refine .withSpan <| .skip (.fixed _) <| Keeps.bind (Q := fun es => ∀ e ∈ es, Expr.Named P e)
      (.orElse ?_ (.pure (by simp))) fun _ hes => .skip (.fixed _) <| .pure fun _ => .tuple hes
    exact (h .starTarget).bind fun _ he => (Keeps.skip (.fixed _) (h .starTarget)).many.bind
      fun _ hes => (Keeps.fixed _).optional.bind fun _ _ => .ite .miss <|
        .pure (List.forall_mem_cons.mpr ⟨he, hes⟩)
  case list =>
    refine .withSpan <| .skip (.fixed _) <| Keeps.bind (Q := fun es => ∀ e ∈ es, Expr.Named P e)
      (.orElse ?_ (.pure (by simp))) fun _ hes => .skip (.fixed _) <| .pure fun _ => .list hes
    exact ((h .starTarget).sepBy ",").bind fun _ hes => .skip (Keeps.fixed _).optional <| .pure hes

theorem keeps_targetAtom : Keeps P (targetAtom r) (Expr.Named P) :=
  .memo (ρ := .targetAtom) <| .orElse (keeps_partTarget h .store) (keeps_starAtom h)

theorem keeps_starTarget : Keeps P (starTarget r) (Expr.Named P) :=
  .memo (ρ := .starTarget) <| .orElse
    (.withSpan <| .skip (.fixed _) <| (Keeps.fixed _).notAhead.bind fun _ _ =>
      (h .starTarget).bind fun _ he => .pure fun _ => .starred (named_withAccess _ he))
    (keeps_targetAtom h)

theorem keeps_starTargets : Keeps P (starTargets r) (Expr.Named P) :=
  .orElse
    ((keeps_starTarget h).bind fun _ he => (Keeps.fixed _).notAhead.bind fun _ _ => .pure he)
    (.withSpan <| ((keeps_starTarget h).sepBy ",").bind fun _ hes =>
      .skip (Keeps.fixed _).optional <| .pure fun _ => .tuple hes)

theorem keeps_singleTarget : Keeps P (singleTarget r) (Expr.Named P) :=
  .orElse (keeps_partTarget h .store) <| .orElse keeps_name <| .skip (.fixed _) <|
    (h .singleTarget).bind fun _ he => .skip (.fixed _) <| .pure he

theorem keeps_delTarget : Keeps P (delTarget r) (Expr.Named P) := by
  have htargets : Keeps P (delTarget.targets r <|> return []) fun es => ∀ e ∈ es, e.Named P :=
    .orElse (((h .delTarget).sepBy ",").bind fun _ hes => .skip (Keeps.fixed _).optional <|
      .pure hes) (.pure (by simp))
  refine .memo (ρ := .delTarget) <| .orElse (keeps_partTarget h .del) <| .orElse keeps_name <|
    .orElse ?group <| .orElse ?tuple ?list
  case group =>
    exact .skip (.fixed _) <| (h .delTarget).bind fun _ he => .skip (.fixed _) <|
      .pure (named_withAccess _ he)
  case tuple =>
    exact .withSpan <| .skip (.fixed _) <| htargets.bind fun _ hes => .skip (.fixed _) <|
      .pure fun _ => .tuple hes
  case list =>
    exact .withSpan <| .skip (.fixed _) <| htargets.bind fun _ hes => .skip (.fixed _) <|
      .pure fun _ => .list hes

end

end Grammar
end Source
end BranchCover
