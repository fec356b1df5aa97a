import BranchCover.Proofs.Sample
import BranchCover.Proofs.Trace

/-! What a composition leaves behind, told from the entries of its trace: the values that parameters
hold after some entries, and the scenario of each entry. -/
namespace BranchCover

namespace Drive

/-- The text of the value of an entry; nothing is said of a value without one. -/
def text (e : Drive) : String :=
  match e.value.sourceText with
  | .ok t => t
  | .error _ => ""

theorem Renders.eq_text {e : Drive} (h : e.Renders) : e.value.sourceText = .ok e.text := by
  obtain ⟨t, ht⟩ := h
  simp [text, ht]

end Drive

namespace Member

variable (m : Member)

/-- The values in force after an entry. -/
def settle (o : Overrides) (e : Drive) : Overrides :=
  match m.route e.condition with
  | .parameter name => o.set name e.value
  | _ => o

def after (o : Overrides) (es : List Drive) : Overrides :=
  es.foldl m.settle o

/-- The fields that the scenario of an entry sets. -/
def assignments (e : Drive) : List FieldAssign :=
  match m.route e.condition with
  | .field name => [⟨name, e.value⟩]
  | _ => []

def notesOn (e : Drive) : List Note :=
  match m.route e.condition with
  | .unrouted symbol => [.unrouted m.method.name symbol]
  | _ => []

/-- The scenario of an entry with its number and the values in force. -/
def scenarioOf (n : Nat) (o : Overrides) (e : Drive) : Scenario :=
  ⟨m.scenarioLabel n, m.invocation o, m.assignments e, some (comment e.condition e.text)⟩

/-- The scenarios of entries from a number and values in force on. -/
def scenariosFrom : Nat → Overrides → List Drive → List Scenario
  | _, _, [] => []
  | n, o, e :: es =>
    m.scenarioOf n (m.settle o e) e :: scenariosFrom (n + 1) (m.settle o e) es

@[simp] theorem after_nil (o : Overrides) : m.after o [] = o := rfl

@[simp] theorem after_cons (o : Overrides) (e : Drive) (es : List Drive) :
    m.after o (e :: es) = m.after (m.settle o e) es := rfl

@[simp] theorem after_append (o : Overrides) (xs ys : List Drive) :
    m.after o (xs ++ ys) = m.after (m.after o xs) ys := List.foldl_append

theorem find?_settle (o : Overrides) (e : Drive) (name : String) :
    (m.settle o e).find? name =
      if m.route e.condition = .parameter name then some e.value else o.find? name := by
  unfold settle
  cases h : m.route e.condition with
  | parameter n =>
    simp only [Overrides.find?_set, Route.parameter.injEq]
    by_cases hn : name = n
    · simp [hn]
    · simp [hn, Ne.symm hn]
  | field n => simp
  | unrouted n => simp
  | undriven => simp

theorem run_step (s : Composition) {e : Drive} (he : e.Renders) :
    (m.step e).run.run s = (.ok (), ⟨s.counter + 1, m.settle s.overrides e,
      s.scenarios ++ [m.scenarioOf s.counter (m.settle s.overrides e) e],
      s.notes ++ m.notesOn e⟩) := by
  have ht := he.eq_text
  cases hr : m.route e.condition <;>
    simp [step, prepare, addScenario, settle, assignments, notesOn, scenarioOf, hr, ht] <;> rfl

/-- The step of an entry whose value has no text uses up a number and gives the value all the same. -/
theorem run_step_error (s : Composition) {e : Drive} {u : Unrenderable}
    (he : e.value.sourceText = .error u) :
    (m.step e).run.run s = (.error u, ⟨s.counter + 1, m.settle s.overrides e, s.scenarios,
      s.notes ++ m.notesOn e⟩) := by
  cases hr : m.route e.condition <;>
    simp [step, prepare, addScenario, settle, notesOn, hr, he] <;> rfl

/-- An action after one that succeeds runs from the state that this one leaves. -/
theorem run_bind {α β : Type} {x : Compose α} {f : α → Compose β} {s s' : Composition} {a : α}
    (h : x.run.run s = (.ok a, s')) : (x >>= f).run.run s = (f a).run.run s' := by
  simp only [ExceptT.run_bind, StateT.run_bind, h]
  rfl

theorem run_bind_error {α β : Type} {x : Compose α} {f : α → Compose β} {s s' : Composition}
    {u : Unrenderable} (h : x.run.run s = (.error u, s')) : (x >>= f).run.run s = (.error u, s') := by
  simp only [ExceptT.run_bind, StateT.run_bind, h]
  rfl

theorem run_steps (es : List Drive) (s : Composition) (hes : ∀ e ∈ es, e.Renders) :
    (es.forM m.step).run.run s = (.ok (), ⟨s.counter + es.length, m.after s.overrides es,
      s.scenarios ++ m.scenariosFrom s.counter s.overrides es,
      s.notes ++ es.flatMap m.notesOn⟩) := by
  induction es generalizing s with
  | nil => simp [scenariosFrom]; rfl
  | cons e es ih =>
    have he := m.run_step s (hes e (by simp))
    have hrest : ∀ x ∈ es, x.Renders := fun x hx => hes x (by simp [hx])
    simp only [List.forM_eq_forM, List.forM_cons] at ih ⊢
    rw [run_bind he, ih _ hrest]
    simp [scenariosFrom, Nat.add_assoc, Nat.add_comm 1]

@[simp] theorem scenariosFrom_length (n : Nat) (o : Overrides) (es : List Drive) :
    (m.scenariosFrom n o es).length = es.length := by
  induction es generalizing n o <;> simp_all [scenariosFrom]

theorem getElem?_scenariosFrom (n k : Nat) (o : Overrides) (es : List Drive) :
    (m.scenariosFrom n o es)[k]? =
      es[k]?.map (m.scenarioOf (n + k) (m.after o (es.take (k + 1)))) := by
  induction es generalizing n k o with
  | nil => simp [scenariosFrom]
  | cons e es ih =>
    cases k with
    | zero => simp [scenariosFrom]
    | succ k =>
      simp [scenariosFrom, ih, Nat.add_assoc, Nat.add_comm 1]

/-- The value of the latest entry that is given to a parameter. -/
def latest (name : String) (es : List Drive) : Option Value :=
  ((es.filter fun e => m.route e.condition = .parameter name).getLast?).map Drive.value

@[simp] theorem latest_nil (name : String) : m.latest name [] = none := rfl

theorem latest_append (name : String) (xs ys : List Drive) :
    m.latest name (xs ++ ys) = (m.latest name ys).or (m.latest name xs) := by
  simp only [latest, List.filter_append, List.getLast?_append, Option.map_or]

theorem latest_singleton (name : String) (e : Drive) :
    m.latest name [e] = if m.route e.condition = .parameter name then some e.value else none := by
  by_cases h : m.route e.condition = .parameter name <;> simp [latest, h]

/-- A parameter holds the latest value that was given to it, or else what it held before. -/
theorem find?_after (name : String) (o : Overrides) (es : List Drive) :
    (m.after o es).find? name = (m.latest name es).or (o.find? name) := by
  induction es generalizing o with
  | nil => simp
  | cons e es ih =>
    have hs : m.latest name (e :: es) = (m.latest name es).or (m.latest name [e]) :=
      m.latest_append name [e] es
    rw [after_cons, ih, hs, find?_settle, latest_singleton, Option.or_assoc]
    split <;> simp

/-- A composition from the start gives the scenarios of its trace. -/
theorem scenarios_eq {body : Block} (hbody : m.method.body = some body) (hne : body.branches ≠ [])
    (hr : ∀ e ∈ body.trace, e.Renders) :
    m.scenarios = (.ok (m.scenariosFrom 1 [] body.trace), body.trace.flatMap m.notesOn) := by
  cases body with
  | mk bs =>
    cases bs with
    | nil => exact absurd rfl hne
    | cons b bs =>
      have hrun := m.run_steps (Block.mk (b :: bs)).trace Composition.initial hr
      rw [← composeBlock_eq] at hrun
      simp only [scenarios, compose, hbody]
      rw [run_bind hrun]
      simp [Composition.initial]
      rfl

/-- A composition refines the trace of its method. There is one scenario for each entry, numbered
from one; its parameters hold the latest values that the entries up to its own give them. -/
theorem compose_refines_trace {m : Member} {body : Block} (hbody : m.method.body = some body)
    (hne : body.branches ≠ []) (hr : ∀ e ∈ body.trace, e.Renders) :
    ∃ ss, m.scenarios.1 = .ok ss ∧ ss.length = body.trace.length ∧
      ∀ k e, body.trace[k]? = some e → ∃ s t, ss[k]? = some s ∧ e.value.sourceText = .ok t ∧
        s.label = s!"{m.method.name} ({k + 1})" ∧
        s.comment = some s!"Test case: {e.condition.text}, with value {t}" ∧
        s.invocation.args = m.method.parameters.map (fun p =>
          ⟨p.name.getD "", (m.latest (p.name.getD "") (body.trace.take (k + 1))).getD (.make p),
            p.kwOnly⟩) ∧
        s.assignments = m.assignments e := by
  refine ⟨m.scenariosFrom 1 [] body.trace, by rw [scenarios_eq m hbody hne hr], by simp, ?_⟩
  intro k e hk
  have he : e.Renders := hr e (List.mem_of_getElem? hk)
  refine ⟨_, e.text, by rw [getElem?_scenariosFrom, hk, Option.map_some], he.eq_text,
    by simp [scenarioOf, scenarioLabel, Nat.add_comm], rfl, ?_, rfl⟩
  simp only [scenarioOf, invocation, baseArguments, find?_after]
  apply List.map_congr_left
  intro p hp
  simp [Overrides.find?]

theorem compose_refines_trace_gate :
    Sample.gate.method.body = some Sample.body ∧ Sample.body.branches ≠ [] ∧
      (∀ e ∈ Sample.body.trace, e.Renders) ∧
      ∃ ss, Sample.gate.scenarios.1 = .ok ss ∧ ss.length = 18 ∧
        ∃ s, ss[17]? = some s ∧ s.label = "open (18)" := by
  have hne : Sample.body.branches ≠ [] := by simp [Sample.body, Block.branches]
  have hr : ∀ e ∈ Sample.body.trace, e.Renders := by decide +kernel
  have hl : Sample.body.trace.length = 18 := by decide +kernel
  obtain ⟨e, he⟩ : ∃ e, Sample.body.trace[17]? = some e :=
    ⟨_, List.getElem?_eq_getElem (by rw [hl]; decide)⟩
  obtain ⟨ss, hss, hlen, hall⟩ := compose_refines_trace (m := Sample.gate) rfl hne hr
  obtain ⟨s, t, hs, -, hlabel, -⟩ := hall 17 e he
  have h18 : s!"{Sample.gate.method.name} ({17 + 1})" = "open (18)" := by decide +kernel
  exact ⟨rfl, hne, hr, ss, hss, hlen.trans hl, s, hs, hlabel.trans h18⟩

end Member
end BranchCover
