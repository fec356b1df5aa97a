import BranchCover.Proofs.Outcome
import BranchCover.Proofs.Held

/-! Arms of conditions are entered. The second pass over the blocks below a condition starts with the
value of the first in force, and nothing below writes a parameter that the decision above owns, so
along a path of such decisions all the arms are open at once. -/
namespace BranchCover

/-- The second pass over a block below a condition comes after a visit with the first value, and
between the two there is nothing but what stands below. -/
theorem Block.visits_second_pass {blk below : Block} {b : Branch} {i a : Nat} {slot : Slot}
    {c : Condition} (hi : blk.branches[i]? = some b) (hbelow : b.block? slot = some below)
    (ha : b.conditions[a]? = some c) : ∃ v pre us post, c.callValues.head? = some v ∧
      blk.visits = pre ++ [⟨⟨c, v⟩, .here i, a⟩] ++ us ++ below.visits.map (Visit.under i slot) ++
        post ∧ us ++ below.visits.map (Visit.under i slot) ⊆ b.visitsBelow i := by
  obtain ⟨before, behind, hblk, -⟩ := Block.visits_split hi
  obtain ⟨v, w, first, last, hvw, hb⟩ := Branch.visits_split ha i
  obtain ⟨us, zs, hsplit, -⟩ := Branch.visitsBelow_split hbelow i
  refine ⟨v, before ++ first ++ b.visitsBelow i, us,
    zs ++ [⟨⟨c, w⟩, .here i, a⟩] ++ last ++ behind, by simp [hvw], ?_, ?_⟩
  · rw [hblk, hb]
    nth_rewrite 2 [hsplit]
    simp
  · rw [hsplit]
    exact List.subset_append_left _ _

namespace Member

variable {m : Member} {blk : Block}

/-- A way goes through the arm of a condition that is routed to a parameter of its own. -/
structure Steers (m : Member) (blk : Block) (x : Crossing) (name : String) (c : Condition) :
    Prop where
  arm : ∃ a, x.slot = .body a ∧ x.branch.conditions[a]? = some c
  routed : m.route c = .parameter name
  owned : m.Owned blk x.place name

/-- From any values in force on, a composition comes to a condition while each parameter along the
way holds the first of the values that drive the arm. -/
theorem exists_held_first {q : Place} {b : Branch} {j : Nat} {c : Condition} {v : Value}
    (hat : blk.at? q = some b) (hc : b.conditions[j]? = some c) (hv : v ∈ c.callValues)
    (hway : ∀ x ∈ blk.enclosing q, ∃ name d, m.Steers blk x name d) (o : Overrides) :
    ∃ o', (⟨⟨c, v⟩, q, j⟩, o') ∈ m.held o blk.visits ∧
      ∀ x ∈ blk.enclosing q, ∀ name d, m.Steers blk x name d →
        ∃ w, d.callValues.head? = some w ∧ o'.find? name = some w := by
  induction q generalizing blk o with
  | here i =>
    have hx : (⟨⟨c, v⟩, .here i, j⟩ : Visit) ∈ blk.visits :=
      Block.mem_visits_here.mpr ⟨b, hat, hc, hv⟩
    obtain ⟨o', ho'⟩ := exists_mem_held (m := m) hx o
    exact ⟨o', ho', by simp [Block.enclosing]⟩
  | into i slot rest ih =>
    obtain ⟨outer, below, hi, hbelow, hrest⟩ := Block.at?_into_eq_some.mp hat
    rw [Block.enclosing_into hi hbelow] at hway ⊢
    obtain ⟨-, d₀, ⟨a, rfl, ha⟩, -, -⟩ := hway _ List.mem_cons_self
    obtain ⟨w, pre, us, post, hw, hvisits, hus⟩ := Block.visits_second_pass hi hbelow ha
    have hdescend : ∀ y name d, m.Steers blk (y.under i (.body a)) name d →
        m.Steers below y name d :=
      fun y name d hs => ⟨hs.arm, hs.routed, hs.owned.descend hi hbelow⟩
    have hnested : ∀ y ∈ below.enclosing rest, ∃ name d, m.Steers below y name d := by
      intro y hy
      obtain ⟨name, d, hs⟩ := hway _ (List.mem_cons_of_mem _ (List.mem_map_of_mem hy))
      exact ⟨name, d, hdescend y name d hs⟩
    obtain ⟨o', ho', hin⟩ := ih hrest hnested (m.leaves o (pre ++ [⟨⟨d₀, w⟩, .here i, a⟩] ++ us))
    refine ⟨o', ?_, ?_⟩
    · rw [hvisits, held_append, held_append, held_map_under]
      exact List.mem_append_left _ (List.mem_append_right _ (List.mem_map_of_mem ho'))
    · intro x hx name d hs
      rcases List.mem_cons.mp hx with rfl | hx
      · -- The parameter of the outermost decision keeps the value of the first pass.
        obtain ⟨a', hslot, ha'⟩ := hs.arm
        obtain rfl : a = a' := Slot.body.inj hslot
        obtain rfl : d₀ = d := Option.some.inj (ha.symm.trans ha')
        have hne : outer.conditions ≠ [] := by
          rintro hnil
          simp [hnil] at ha
        have hquiet := (hs.owned.quiet_below hi hne).mono hus
        have hus : m.Quiet name us := hquiet.mono (List.subset_append_left _ _)
        have hnest : m.Quiet name below.visits :=
          (hquiet.mono (List.subset_append_right _ _)).of_map_under
        refine ⟨w, hw, ?_⟩
        rw [hnest.find?_held ho', leaves_append, hus.find?_leaves, leaves_append,
          find?_leaves_singleton hs.routed]
      · obtain ⟨y, hy, rfl⟩ := List.mem_map.mp hx
        exact hin y hy name d (hdescend y name d hs)

/-- A composition comes to a condition with each of its values while every arm around is open, if
each of these arms has a parameter of its own: the invocation passes the first of the values that
drive the arm, under which a test of the parameter holds. -/
theorem then_arms_entered {body : Block} (hbody : m.method.body = some body)
    (hr : ∀ e ∈ body.trace, e.Renders) {q : Place} {b : Branch} {j : Nat} {c : Condition}
    {v : Value} (hat : body.at? q = some b) (hc : b.conditions[j]? = some c)
    (hv : v ∈ c.callValues)
    (hway : ∀ x ∈ body.enclosing q, ∃ name d, m.Steers body x name d) :
    ∃ (ss : List Scenario) (k : Nat) (s : Scenario), m.scenarios.1 = .ok ss ∧
      body.visits[k]? = some ⟨⟨c, v⟩, q, j⟩ ∧ ss[k]? = some s ∧
      m.ComposedFor ⟨c, v⟩ s ∧
      ∀ x ∈ body.enclosing q, ∀ name d, m.Steers body x name d →
        ∃ w, d.callValues.head? = some w ∧ s.Passes name w ∧
          (d.Tests name → w.equals? w = some true → d.outcome? name w = some true) := by
  obtain ⟨o, ho, hin⟩ := exists_held_first hat hc hv hway []
  obtain ⟨k, s, hk, hs, hfor, -, hpass⟩ := exists_scenario_of_held hr ho
  have hne : body.branches ≠ [] := Block.branches_ne_nil hat
  refine ⟨_, k, s, by rw [scenarios_eq m hbody hne hr], hk, hs, hfor, ?_⟩
  intro x hx name d hsteers
  obtain ⟨w, hw, hheld⟩ := hin x hx name d hsteers
  refine ⟨w, hw, hpass name w (find?_of_route hsteers.routed) hheld, ?_⟩
  intro htests hself
  exact Condition.outcome?_head htests hw hself

theorem then_arms_entered_gate :
    (∀ e ∈ Sample.body.trace, e.Renders) ∧
      (∀ x ∈ Sample.body.enclosing (.into 0 (.body 0) (.here 0)),
        Sample.gate.Steers Sample.body x "code" Sample.onCode) ∧
      ∃ (ss : List Scenario) (k : Nat) (s : Scenario), Sample.gate.scenarios.1 = .ok ss ∧
        Sample.body.visits[k]? =
          some ⟨⟨Sample.onKey, .int 2⟩, .into 0 (.body 0) (.here 0), 0⟩ ∧ ss[k]? = some s ∧
        s.Passes "key" (.int 2) ∧ s.Passes "code" (.int 2) ∧
        Sample.onCode.outcome? "code" (.int 2) = some true := by
  have hr : ∀ e ∈ Sample.body.trace, e.Renders := by decide +kernel
  have htests : Sample.onCode.Tests "code" := .equals _ _ _ rfl
  have hsteers : ∀ x ∈ Sample.body.enclosing (.into 0 (.body 0) (.here 0)),
      Sample.gate.Steers Sample.body x "code" Sample.onCode := by
    intro x hx
    obtain rfl := List.mem_singleton.mp hx
    exact ⟨⟨0, rfl, rfl⟩, route_of_tests htests rfl, by decide +kernel⟩
  have hv : Value.int 2 ∈ Sample.onKey.callValues := List.mem_cons_of_mem _ List.mem_cons_self
  obtain ⟨ss, k, s, hss, hk, hs, hfor, hall⟩ :=
    then_arms_entered (m := Sample.gate) (q := .into 0 (.body 0) (.here 0)) (j := 0) rfl hr rfl rfl
      hv (fun x hx => ⟨"code", Sample.onCode, hsteers x hx⟩)
  obtain ⟨w, hw, hpass, hout⟩ :=
    hall _ List.mem_cons_self "code" Sample.onCode (hsteers _ List.mem_cons_self)
  obtain rfl : Value.int 2 = w := Option.some.inj hw
  exact ⟨hr, hsteers, ss, k, s, hss, hk, hs, hfor.arguments "key" rfl, hpass,
    hout htests (by decide +kernel)⟩

end Member
end BranchCover
