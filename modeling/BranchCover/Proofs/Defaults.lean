import BranchCover.Source.Grammar.Compound

/-! Defaults of parameters. A reader of parameters puts those with a default behind those without one,
so that the defaults of a function belong to the last ones that take an argument by position. -/
namespace BranchCover
namespace Source

namespace Parse

variable {α β : Type} {p q : Parse α} {P : α → Prop} {Q : β → Prop} {f : α → Parse β}

/-- Whatever the parser reads has the property. -/
def Yields (p : Parse α) (P : α → Prop) : Prop :=
  ∀ e s a s', p e s = (.done a, s') → P a

namespace Yields

theorem pure {a : α} (h : P a) : Yields (Pure.pure a) P := by
  intro e s b s' hb
  cases hb
  exact h

theorem bind (hp : Yields p P) (hf : ∀ a, P a → Yields (f a) Q) : Yields (p >>= f) Q := by
  intro e s b s' hb
  change Parse.bind p f e s = _ at hb
  unfold Parse.bind at hb
  split at hb
  · rename_i a t ha
    exact hf a (hp e s a t ha) e t b s' hb
  · cases hb
  · cases hb

theorem after (hf : ∀ a, Yields (f a) Q) : Yields (p >>= f) Q :=
  bind (P := fun _ => True) (fun _ _ _ _ _ => trivial) fun a _ => hf a

theorem orElse (hp : Yields p P) (hq : Yields q P) : Yields (p <|> q) P := by
  intro e s a s' ha
  change Parse.orElse p (fun _ => q) e s = _ at ha
  unfold Parse.orElse at ha
  split at ha
  · exact hq e _ a s' ha
  · exact hp e s a s' ha

theorem miss : Yields Parse.miss P := by
  intro e s a s' ha
  cases ha

theorem diagnosis (ps : List (Parse Unit)) : Yields (Parse.diagnosis ps) P := by
  intro e s a s' ha
  unfold Parse.diagnosis at ha
  split at ha
  · exact after (p := firstOf ps) (fun _ => miss) e s a s' ha
  · cases ha

theorem manyLoop (hp : Yields p P) : ∀ (fuel : Nat) (as : List α), (∀ a ∈ as, P a) →
    Yields (Parse.manyLoop p fuel as) fun bs => ∀ b ∈ bs, P b
  | 0, as, has => pure (by simpa using has)
  | fuel + 1, as, has => by
    intro e s bs s' hbs
    unfold Parse.manyLoop at hbs
    split at hbs
    · rename_i a t ha
      have hcons : ∀ b ∈ a :: as, P b := List.forall_mem_cons.mpr ⟨hp e s a t ha, has⟩
      exact manyLoop hp fuel (a :: as) hcons e t bs s' hbs
    · cases hbs
      simpa using has
    · cases hbs

theorem many (hp : Yields p P) : Yields (Parse.many p) fun as => ∀ a ∈ as, P a :=
  fun e s => manyLoop hp (e.tokens.size + 1) [] (by simp) e s

theorem many1 (hp : Yields p P) : Yields (Parse.many1 p) fun as => ∀ a ∈ as, P a :=
  hp.bind fun _ ha => hp.many.bind fun _ has => pure (List.forall_mem_cons.mpr ⟨ha, has⟩)

theorem optional (hp : Yields p P) : Yields (Parse.optional p) fun o => ∀ a ∈ o, P a :=
  orElse (hp.bind fun _ ha => pure (by simpa using ha)) (pure (by simp))

end Yields
end Parse

/-- Parameters with a default come behind those without one. -/
def Param.Ordered (ps : List Param) : Prop :=
  ∃ bare given, ps = bare ++ given ∧ (∀ p ∈ bare, p.default = none) ∧
    ∀ p ∈ given, p.default.isSome = true

namespace Param

variable {ps qs : List Param}

theorem ordered_of_bare (h : ∀ p ∈ ps, p.default = none) : Ordered ps :=
  ⟨ps, [], by simp, h, by simp⟩

theorem ordered_of_given (h : ∀ p ∈ ps, p.default.isSome = true) : Ordered ps :=
  ⟨[], ps, by simp, by simp, h⟩

theorem Ordered.append (hps : Ordered ps) (hqs : ∀ p ∈ qs, p.default.isSome = true) :
    Ordered (ps ++ qs) := by
  obtain ⟨bare, given, rfl, hbare, hgiven⟩ := hps
  exact ⟨bare, given ++ qs, by simp, hbare, List.forall_mem_append.mpr ⟨hgiven, hqs⟩⟩

end Param

namespace Parameters

/-- The defaults of the parameters that take an argument by position, the last default for the last
parameter. -/
def pairedDefaults (ps : Parameters) : List (Option Expr) :=
  let given := ps.positional.filterMap Param.default
  List.replicate (ps.positional.length - given.length) Option.none ++ given.map some

/-- Parameters in order have the defaults that are written behind them. -/
theorem pairedDefaults_eq {ps : Parameters} (h : Param.Ordered ps.positional) :
    ps.pairedDefaults = ps.positional.map Param.default := by
  obtain ⟨bare, given, heq, hbare, hgiven⟩ := h
  have hnone : bare.filterMap Param.default = [] := List.filterMap_eq_nil_iff.mpr hbare
  have hsome : (given.filterMap Param.default).map some = given.map Param.default := by
    clear heq
    induction given with
    | nil => rfl
    | cons p given ih =>
      obtain ⟨hp, hrest⟩ := List.forall_mem_cons.mp hgiven
      obtain ⟨d, hd⟩ := Option.isSome_iff_exists.mp hp
      rw [List.filterMap_cons_some hd, List.map_cons, List.map_cons, ih hrest, hd]
  have hlength : (given.filterMap Param.default).length = given.length := by
    simpa using congrArg List.length hsome
  have hreplicate : bare.map Param.default = List.replicate bare.length Option.none :=
    List.eq_replicate_iff.mpr ⟨by simp, by simpa using hbare⟩
  simp only [pairedDefaults, heq, List.filterMap_append, hnone, List.nil_append, hsome, hlength,
    List.length_append, Nat.add_sub_cancel, List.map_append, hreplicate]

end Parameters

namespace Grammar.ParameterStyle

open Parse

variable (y : ParameterStyle) (r : Rules)

theorem yields_named (typing : Parse Expr) : Yields (y.named typing) fun f => ∀ d, (f d).default = d := by
  refine .after fun _ => .after fun _ => ?_
  split <;> exact .after fun _ => .after fun _ => .pure fun _ => rfl

theorem yields_noDefault : Yields (y.noDefault r) fun p => p.default = none :=
  (y.yields_named _).bind fun _ hf => .after fun _ => .pure (hf none)

theorem yields_withDefault : Yields (y.withDefault r) fun p => p.default.isSome = true :=
  (y.yields_named _).bind fun _ hf => .after fun d => .after fun _ => .pure (by rw [hf]; rfl)

theorem yields_slashNoDefault :
    Yields (y.slashNoDefault r) fun ps => ∀ p ∈ ps, p.default = none :=
  (y.yields_noDefault r).many1.bind fun _ hps => .after fun _ => .pure hps

theorem yields_slashWithDefault : Yields (y.slashWithDefault r) Param.Ordered :=
  (y.yields_noDefault r).many.bind fun _ hps => (y.yields_withDefault r).many1.bind fun _ hds =>
    .after fun _ => .pure ((Param.ordered_of_bare hps).append hds)

theorem positional_assemble (a b : List Param)
    (star : Option (Option Param × List Param × Option Param)) :
    (assemble a b star).positional = a ++ b := by
  unfold assemble
  split <;> rfl

theorem yields_parameters : Yields (y.parameters r) fun ps => Param.Ordered ps.positional := by
  have hbare := y.yields_noDefault r
  have hgiven := y.yields_withDefault r
  unfold parameters
  refine .orElse ?slashBare (.orElse ?slashGiven (.orElse ?bare (.orElse ?given ?star)))
  case slashBare =>
    refine (y.yields_slashNoDefault r).bind fun a ha => hbare.many.bind fun b hb =>
      hgiven.many.bind fun c hc => .after fun s => .pure ?_
    have hab := Param.ordered_of_bare (List.forall_mem_append.mpr ⟨ha, hb⟩)
    rw [positional_assemble, ← List.append_assoc]
    exact hab.append hc
  case slashGiven =>
    refine (y.yields_slashWithDefault r).bind fun a ha => hgiven.many.bind fun b hb =>
      .after fun s => .pure ?_
    rw [positional_assemble]
    exact ha.append hb
  case bare =>
    refine hbare.many1.bind fun a ha => hgiven.many.bind fun b hb => .after fun s => .pure ?_
    rw [positional_assemble, List.nil_append]
    exact (Param.ordered_of_bare ha).append hb
  case given =>
    refine hgiven.many1.bind fun a ha => .after fun s => .pure ?_
    rw [positional_assemble, List.nil_append]
    exact Param.ordered_of_given ha
  case star =>
    refine .after fun s => .pure ?_
    rw [positional_assemble, List.nil_append]
    exact Param.ordered_of_bare (by simp)

end Grammar.ParameterStyle

theorem Grammar.yields_functionDef (r : Rules) (ds : List Expr) :
    Parse.Yields (functionDef r ds) fun s => ∃ name ps body returns isAsync span,
      s = .function name ps body ds returns isAsync span ∧ Param.Ordered ps.positional := by
  have hparams : Parse.Yields (functionStyle.parametersOrFault r) fun ps =>
      Param.Ordered ps.positional :=
    .orElse (.diagnosis _) (functionStyle.yields_parameters r)
  refine .orElse (.diagnosis _) (.after fun _ => .bind (P := fun f => ∀ span, ∃ name ps body returns
    isAsync, f span = .function name ps body ds returns isAsync span ∧ Param.Ordered ps.positional)
    ?_ fun f hf => .after fun span => .pure ?_)
  · refine .after fun _ => .after fun _ => .after fun _ => .after fun _ =>
      hparams.optional.bind fun ps hps => ?_
    refine .after fun _ => .after fun _ => .after fun _ => .after fun _ => .pure fun span => ?_
    refine ⟨_, _, _, _, _, rfl, ?_⟩
    cases ps with
    | none => exact Param.ordered_of_bare (by simp [Parameters.none, Parameters.positional])
    | some ps => exact hps ps rfl
  · obtain ⟨name, ps, body, returns, isAsync, heq, hordered⟩ := hf span
    exact ⟨name, ps, body, returns, isAsync, span, heq, hordered⟩

end Source
end BranchCover
