import BranchCover.Proofs.Rendering
import BranchCover.Proofs.Replay
import BranchCover.Proofs.Visits
import BranchCover.Suite.Plan

/-! What a plan holds for each method. A composition fails exactly if a value of its trace has too
many digits, and then the plan has the reason and no scenarios. All other values of a plan were given
to a condition, whose scenario has their text in its comment, or made up, and have texts. -/
namespace BranchCover

def Method.trace (m : Method) : List Drive :=
  Block.traceOf m.body

theorem Method.value_mem_callValues {m : Method} {e : Drive} (he : e ∈ m.trace) :
    e.value ∈ e.condition.callValues := by
  rw [trace, Block.traceOf_eq] at he
  obtain ⟨blk, -, he⟩ := List.mem_flatMap.mp he
  exact blk.value_mem_callValues he

theorem Method.renders_of_mem_trace {m : Method} {e : Drive} (he : e ∈ m.trace)
    (hshort : ¬ e.value.Overlong) : e.Renders :=
  (Condition.renders_iff_of_mem (value_mem_callValues he)).mpr hshort

def Overrides.Render (o : Overrides) : Prop :=
  ∀ name v, o.find? name = some v → v.Renders

theorem Overrides.render_nil : Overrides.Render [] := by
  simp [Render, find?]

/-- The values that a scenario passes and sets. -/
def Scenario.values (s : Scenario) : List Value :=
  s.invocation.args.map Argument.value ++ s.assignments.map FieldAssign.value

theorem baseArguments_renders {o : Overrides} (ho : o.Render) (params : List Property) :
    ∀ a ∈ baseArguments params o, a.value.Renders := by
  intro a ha
  obtain ⟨p, -, rfl⟩ := List.mem_map.mp ha
  cases h : o.find? (p.name.getD "") with
  | none => simpa [h] using Value.make_renders p
  | some v => simpa [h] using ho _ v h

namespace Member

variable (m : Member)

theorem settle_render {o : Overrides} {e : Drive} (ho : o.Render) (he : e.Renders) :
    (m.settle o e).Render := by
  intro name v hv
  rw [find?_settle] at hv
  split at hv
  · exact Option.some.inj hv ▸ he
  · exact ho name v hv

theorem assignments_render {e : Drive} (he : e.Renders) :
    ∀ a ∈ m.assignments e, a.value.Renders := by
  intro a ha
  unfold assignments at ha
  split at ha
  · rw [List.mem_singleton.mp ha]
    exact he
  · simp at ha

/-- By induction along the entries: a value is in force only after an entry that has it. -/
theorem scenariosFrom_render {es : List Drive} (hes : ∀ e ∈ es, e.Renders) (n : Nat)
    {o : Overrides} (ho : o.Render) : ∀ s ∈ m.scenariosFrom n o es, ∀ v ∈ s.values, v.Renders := by
  induction es generalizing n o with
  | nil => simp [scenariosFrom]
  | cons e es ih =>
    have he : e.Renders := hes e List.mem_cons_self
    have ho' := m.settle_render ho he
    intro s hs v hv
    rcases List.mem_cons.mp hs with rfl | hs
    · rcases List.mem_append.mp hv with hv | hv
      · obtain ⟨a, ha, rfl⟩ := List.mem_map.mp hv
        exact baseArguments_renders ho' _ a ha
      · obtain ⟨a, ha, rfl⟩ := List.mem_map.mp hv
        exact m.assignments_render he a ha
    · exact ih (fun x hx => hes x (List.mem_cons_of_mem _ hx)) (n + 1) ho' s hs v hv

/-- Steps fail if a value has too many digits, whatever the state they start from. -/
theorem run_steps_error {es : List Drive} (hes : ∀ e ∈ es, e.value ∈ e.condition.callValues)
    (hlong : ∃ e ∈ es, e.value.Overlong) (s : Composition) :
    ((es.forM m.step).run.run s).1 = .error .tooManyDigits := by
  induction es generalizing s with
  | nil => simp at hlong
  | cons e es ih =>
    simp only [List.forM_eq_forM, List.forM_cons] at ih ⊢
    by_cases he : e.value.Overlong
    · rw [run_bind_error (m.run_step_error s (Value.sourceText_of_overlong he))]
    · have hr : e.Renders := (Condition.renders_iff_of_mem (hes e List.mem_cons_self)).mpr he
      rw [run_bind (m.run_step s hr)]
      refine ih (fun x hx => hes x (List.mem_cons_of_mem _ hx)) ?_ _
      obtain ⟨x, hx, hxlong⟩ := hlong
      rcases List.mem_cons.mp hx with rfl | hx
      · exact absurd hxlong he
      · exact ⟨x, hx, hxlong⟩

/-- A method either has no decisions, and one scenario with made up values, or a body with decisions. -/
theorem sole_or_branches (m : Member) :
    m.method.trace = [] ∧ m.scenarios.1 = .ok [⟨m.method.name, m.invocation [], [], none⟩] ∨
      ∃ b bs, m.method.body = some (.mk (b :: bs)) := by
  match hbody : m.method.body with
  | none | some (.mk []) =>
    left
    simp only [Method.trace, scenarios, compose, hbody]
    exact ⟨rfl, rfl⟩
  | some (.mk (b :: bs)) => exact .inr ⟨b, bs, rfl⟩

theorem scenarios_of_overlong {m : Member} (h : ∃ e ∈ m.method.trace, e.value.Overlong) :
    m.scenarios.1 = .error .tooManyDigits := by
  cases hbody : m.method.body with
  | none => simp [Method.trace, hbody, Block.traceOf] at h
  | some blk =>
    have hmem : ∀ e ∈ blk.trace, e.value ∈ e.condition.callValues :=
      fun e he => blk.value_mem_callValues he
    simp only [Method.trace, hbody, Block.traceOf] at h
    have hrun := m.run_steps_error hmem h .initial
    rw [← composeBlock_eq] at hrun
    match blk with
    | .mk [] => simp at h
    | .mk (b :: bs) =>
      rcases hstate : (m.composeBlock (.mk (b :: bs))).run.run .initial with ⟨r, s⟩
      rw [hstate] at hrun
      obtain rfl : r = .error .tooManyDigits := hrun
      simp only [scenarios, compose, hbody]
      rw [run_bind_error hstate]

theorem renders_of_ok {m : Member} {ss : List Scenario} (h : m.scenarios.1 = .ok ss) :
    ∀ e ∈ m.method.trace, e.Renders := by
  intro e he
  apply Method.renders_of_mem_trace he
  intro hlong
  rw [scenarios_of_overlong ⟨e, he, hlong⟩] at h
  cases h

theorem scenarios_of_short {m : Member} (h : ∀ e ∈ m.method.trace, ¬ e.value.Overlong) :
    ∃ ss, m.scenarios.1 = .ok ss ∧ ∀ s ∈ ss, ∀ v ∈ s.values, v.Renders := by
  have hr : ∀ e ∈ m.method.trace, e.Renders :=
    fun e he => Method.renders_of_mem_trace he (h e he)
  have hplain : ∀ s ∈ [Scenario.mk m.method.name (m.invocation []) [] none],
      ∀ v ∈ s.values, v.Renders := by
    intro s hs v hv
    rw [List.mem_singleton.mp hs] at hv
    simp only [Scenario.values, List.map_nil, List.append_nil] at hv
    obtain ⟨a, ha, rfl⟩ := List.mem_map.mp hv
    exact baseArguments_renders Overrides.render_nil _ a ha
  rcases m.sole_or_branches with ⟨-, hsole⟩ | ⟨b, bs, hbody⟩
  · exact ⟨_, hsole, hplain⟩
  · simp only [Method.trace, hbody, Block.traceOf] at hr
    have hss := m.scenarios_eq hbody (by simp [Block.branches]) hr
    exact ⟨_, by rw [hss], m.scenariosFrom_render hr 1 Overrides.render_nil⟩

end Member

namespace Suite

theorem testsOf_of_overlong {o : Options} {c : Class} {m : Method}
    (h : ∃ e ∈ m.trace, e.value.Overlong) :
    (testsOf o c m).1 = ⟨m.name, [], some Unrenderable.tooManyDigits.report⟩ := by
  have hs := Member.scenarios_of_overlong (m := ⟨m, some c, o⟩) h
  rcases hrun : Member.scenarios ⟨m, some c, o⟩ with ⟨r, notes⟩
  rw [hrun] at hs
  obtain rfl : r = .error .tooManyDigits := hs
  simp [testsOf, hrun]

theorem testsOf_of_short {o : Options} {c : Class} {m : Method}
    (h : ∀ e ∈ m.trace, ¬ e.value.Overlong) :
    ∃ ss, (Member.scenarios ⟨m, some c, o⟩).1 = .ok ss ∧ (testsOf o c m).1 = ⟨m.name, ss, none⟩ ∧
      ∀ s ∈ ss, ∀ v ∈ s.values, v.Renders := by
  obtain ⟨ss, hss, hr⟩ := Member.scenarios_of_short (m := ⟨m, some c, o⟩) h
  refine ⟨ss, hss, ?_, hr⟩
  rcases hrun : Member.scenarios ⟨m, some c, o⟩ with ⟨r, notes⟩
  rw [hrun] at hss
  obtain rfl : r = .ok ss := hss
  simp [testsOf, hrun]

theorem inject_renders (stubs : List Stub) (p : Property) {a : Argument} (ha : a.value.Renders) :
    (inject stubs p a).value.Renders := by
  unfold inject
  split
  · split
    · exact Value.objectStub_renders _
    · exact ha
  · exact ha

theorem constructionOf_renders (c : Class) (stubs : List Stub) :
    ∀ a ∈ (constructionOf c stubs).args, a.value.Renders := by
  intro a ha
  cases hc : c.constructor with
  | none => simp [constructionOf, hc] at ha
  | some m =>
    simp only [constructionOf, hc] at ha
    obtain ⟨k, hk, rfl⟩ := List.mem_iff_getElem.mp ha
    rw [List.getElem_zipWith]
    exact inject_renders _ _ (baseArguments_renders Overrides.render_nil _ _ (List.getElem_mem _))

/-- Every value that a plan holds has a text. -/
theorem plan_values_render (o : Options) (sourceName : String) (c : Class) :
    ∀ v ∈ values (plan o sourceName c).1.construction (plan o sourceName c).1.methods,
      v.Renders := by
  intro v hv
  rcases List.mem_append.mp hv with hv | hv
  · simp only [plan, Option.toList_some, List.flatMap_singleton] at hv
    obtain ⟨a, ha, rfl⟩ := List.mem_map.mp hv
    exact constructionOf_renders c _ a ha
  · obtain ⟨t, ht, hvt⟩ := List.mem_flatMap.mp hv
    obtain ⟨s, hs, hvs⟩ := List.mem_flatMap.mp hvt
    simp only [plan, List.map_map, List.mem_map, Function.comp_apply] at ht
    obtain ⟨m, -, rfl⟩ := ht
    by_cases h : ∃ e ∈ m.trace, e.value.Overlong
    · simp [testsOf_of_overlong h] at hs
    · obtain ⟨ss, -, htests, hr⟩ := testsOf_of_short (o := o) (c := c) (m := m)
        fun e he hlong => h ⟨e, he, hlong⟩
      rw [htests] at hs
      exact hr s hs v hvs

end Suite
end BranchCover
