import BranchCover.Proofs.Replay
import BranchCover.Proofs.Visits

/-! Which conditions a composition covers. Blocks are composed for the values of the conditions of
the decision above them, so nothing below a decision without conditions is composed at all; a switch
whose only clause is the default is such a decision. -/
namespace BranchCover

/-- A value is what an invocation passes under a name. -/
def Scenario.Passes (s : Scenario) (name : String) (v : Value) : Prop :=
  (∃ a ∈ s.invocation.args, a.name = name) ∧ ∀ a ∈ s.invocation.args, a.name = name → a.value = v

theorem Branch.conditions_eq_nil {b : Branch} :
    b.conditions = [] ↔ ∃ default, b = .switch [] default := by
  cases b <;> simp [Branch.conditions]

namespace Member

variable {m : Member}

/-- A scenario is composed for an entry: it tells the condition and the value, and sets the value
where the condition is routed to. -/
structure ComposedFor (m : Member) (e : Drive) (s : Scenario) : Prop where
  comment : ∃ t, e.value.sourceText = .ok t ∧ s.comment = some (Member.comment e.condition t)
  assignments : s.assignments = m.assignments e
  arguments : ∀ name, m.route e.condition = .parameter name → s.Passes name e.value

theorem exists_parameter {name : String} (h : (Property.find? m.method.parameters name).isSome) :
    ∃ p ∈ m.method.parameters, p.name = some name := by
  obtain ⟨p, hp⟩ := Option.isSome_iff_exists.mp h
  exact ⟨p, List.mem_of_find?_eq_some hp, by simpa using List.find?_some hp⟩

/-- A condition is routed to a parameter only if one is declared under the name. -/
theorem find?_of_route {c : Condition} {name : String} (h : m.route c = .parameter name) :
    (Property.find? m.method.parameters name).isSome := by
  unfold route at h
  cases hd : c.drivingReference? with
  | none => simp [hd] at h
  | some n =>
    simp only [hd] at h
    split at h
    · rename_i hp
      obtain rfl := Route.parameter.inj h
      exact (Bool.and_eq_true_iff.mp hp).2
    · split at h
      · split at h <;> cases h
      · cases h

theorem passes_of_find? {name : String} {o : Overrides} {v : Value} (n : Nat) (e : Drive)
    (hp : (Property.find? m.method.parameters name).isSome) (ho : o.find? name = some v) :
    (m.scenarioOf n o e).Passes name v := by
  obtain ⟨p, hp, hname⟩ := exists_parameter hp
  constructor
  · exact ⟨_, List.mem_map_of_mem hp, by simp [hname]⟩
  · intro a ha hname
    obtain ⟨q, hq, rfl⟩ := List.mem_map.mp ha
    have hq : q.name.getD "" = name := hname
    simp [hq, ho]

theorem composedFor_scenarioOf (n : Nat) (o : Overrides) {e : Drive} (he : e.Renders) :
    m.ComposedFor e (m.scenarioOf n (m.settle o e) e) where
  comment := ⟨e.text, he.eq_text, rfl⟩
  assignments := rfl
  arguments := by
    intro name hr
    have ho : (m.settle o e).find? name = some e.value := by simp [find?_settle, hr]
    exact passes_of_find? n e (find?_of_route hr) ho

/-- The values in force after visits. -/
def leaves (m : Member) (o : Overrides) (xs : List Visit) : Overrides :=
  m.after o (xs.map Visit.toDrive)

theorem getElem?_scenarios {body : Block} {k : Nat} {x : Visit} (hx : body.visits[k]? = some x) :
    (m.scenariosFrom 1 [] body.trace)[k]? =
      some (m.scenarioOf (1 + k) (m.leaves [] (body.visits.take (k + 1))) x.toDrive) := by
  rw [getElem?_scenariosFrom, ← Block.map_toDrive_visits, List.getElem?_map, hx, ← List.map_take]
  rfl

theorem leaves_take_succ {xs : List Visit} {k : Nat} {x : Visit} (hx : xs[k]? = some x)
    (o : Overrides) : m.leaves o (xs.take (k + 1)) = m.settle (m.leaves o (xs.take k)) x.toDrive := by
  simp [leaves, List.take_add_one, hx]

theorem renders_of_mem {body : Block} (hr : ∀ e ∈ body.trace, e.Renders) {x : Visit}
    (hx : x ∈ body.visits) : x.Renders := by
  apply hr
  rw [← Block.map_toDrive_visits]
  exact List.mem_map_of_mem hx

theorem visits_eq_nil {body : Block} :
    body.visits = [] ↔ ∀ b ∈ body.branches, b.conditions = [] := by
  constructor
  · intro h b hb
    by_contra hc
    obtain ⟨i, hi⟩ := List.mem_iff_getElem?.mp hb
    obtain ⟨c, hc⟩ := List.exists_mem_of_ne_nil _ hc
    obtain ⟨j, hj⟩ := List.mem_iff_getElem?.mp hc
    obtain ⟨v, hv⟩ := List.exists_mem_of_ne_nil _ c.callValues_ne_nil
    have hx : (⟨⟨c, v⟩, .here i, j⟩ : Visit) ∈ body.visits :=
      Block.mem_visits_here.mpr ⟨b, hi, hj, hv⟩
    simp [h] at hx
  · intro h
    apply List.eq_nil_iff_forall_not_mem.mpr
    intro x hx
    obtain ⟨i, b, hb, hx⟩ := Block.mem_visits.mp hx
    simp [Branch.visits_eq, Visit.driven, h b (List.mem_of_getElem? hb)] at hx

/-- Coverage, exactly: a condition has a scenario for each of its values if and only if no switch
around it is one whose only clause is the default, and there is no scenario at all if and only if the
body itself has only such switches. -/
theorem covered_iff_conditions_around {body : Block} (hbody : m.method.body = some body)
    (hne : body.branches ≠ []) (hr : ∀ e ∈ body.trace, e.Renders) :
    ∃ ss, m.scenarios.1 = .ok ss ∧
      (ss = [] ↔ ∀ b ∈ body.branches, ∃ default, b = .switch [] default) ∧
      ∀ (q : Place) (b : Branch) (j : Nat) (c : Condition) (v : Value),
        body.at? q = some b → b.conditions[j]? = some c → v ∈ c.callValues →
        ((∃ (k : Nat) (s : Scenario), body.visits[k]? = some ⟨⟨c, v⟩, q, j⟩ ∧ ss[k]? = some s ∧
            m.ComposedFor ⟨c, v⟩ s) ↔
          ∀ x ∈ body.enclosing q, ¬∃ default, x.branch = .switch [] default) := by
  simp only [← Branch.conditions_eq_nil]
  refine ⟨m.scenariosFrom 1 [] body.trace, by rw [scenarios_eq m hbody hne hr], ?_, ?_⟩
  · rw [← visits_eq_nil, ← List.length_eq_zero_iff, scenariosFrom_length,
      ← Block.map_toDrive_visits, List.length_map, List.length_eq_zero_iff]
  · intro q b j c v hat hc hv
    constructor
    · rintro ⟨k, s, hk, -, -⟩
      exact (Block.mem_visits_iff.mp (List.mem_of_getElem? hk)).2.2
    · intro hopen
      have hx : (⟨⟨c, v⟩, q, j⟩ : Visit) ∈ body.visits :=
        Block.mem_visits_iff.mpr ⟨⟨b, hat, hc⟩, hv, hopen⟩
      obtain ⟨k, hk⟩ := List.mem_iff_getElem?.mp hx
      refine ⟨k, _, hk, getElem?_scenarios hk, ?_⟩
      rw [leaves_take_succ hk]
      exact composedFor_scenarioOf _ _ (renders_of_mem hr hx)

/-- The test of `force` below the test of `code` has scenarios; the one below the switch has none. -/
theorem covered_iff_conditions_around_gate :
    Sample.gate.method.body = some Sample.body ∧ Sample.body.branches ≠ [] ∧
      (∀ e ∈ Sample.body.trace, e.Renders) ∧
      ∃ ss, Sample.gate.scenarios.1 = .ok ss ∧ ss ≠ [] ∧
        (∃ (k : Nat) (s : Scenario), Sample.body.visits[k]? =
          some ⟨⟨Sample.onForce 10 15, .boolean true⟩, .into 0 .orelse (.here 0), 0⟩ ∧
          ss[k]? = some s) ∧
        ¬∃ (k : Nat) (s : Scenario), Sample.body.visits[k]? =
          some ⟨⟨Sample.onForce 14 19, .boolean true⟩, .into 1 .orelse (.here 0), 0⟩ ∧
          ss[k]? = some s ∧ Sample.gate.ComposedFor ⟨Sample.onForce 14 19, .boolean true⟩ s := by
  have hne : Sample.body.branches ≠ [] := by simp [Sample.body, Block.branches]
  have hr : ∀ e ∈ Sample.body.trace, e.Renders := by decide +kernel
  obtain ⟨ss, hss, hnil, hiff⟩ := covered_iff_conditions_around (m := Sample.gate) rfl hne hr
  have hif := hiff (.into 0 .orelse (.here 0)) _ 0 (Sample.onForce 10 15) (.boolean true) rfl rfl
    List.mem_cons_self
  have hswitch := hiff (.into 1 .orelse (.here 0)) _ 0 (Sample.onForce 14 19) (.boolean true) rfl rfl
    List.mem_cons_self
  refine ⟨rfl, hne, hr, ss, hss, ?_, ?_, ?_⟩
  · intro h
    obtain ⟨default, hb⟩ := hnil.mp h _ List.mem_cons_self
    cases hb
  · obtain ⟨k, s, hk, hs, -⟩ := hif.mpr (by
      rintro x hx ⟨default, hd⟩
      obtain rfl := List.mem_singleton.mp hx
      cases hd)
    exact ⟨k, s, hk, hs⟩
  · intro hcovered
    exact hswitch.mp hcovered _ List.mem_cons_self ⟨_, rfl⟩

end Member
end BranchCover
