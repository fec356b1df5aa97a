import BranchCover.Proofs.Replay

/-! Sessions: compositions of one method that are driven by hand. Blocks and decisions are composed in
any order and any number of times, conditions are prepared and the values in force are changed in
between, and a step that fails keeps what was done before it. Scenarios are only ever added, and each
has a number that was not used before. -/
namespace BranchCover

inductive Operation where
  | compose
  | block (b : Block)
  | branch (b : Branch)
  | prepare (c : Condition) (v : Value)
  /-- Any change of the values in force. -/
  | override (change : Overrides → Overrides)

namespace Member

def perform (m : Member) : Operation → Compose Unit
  | .compose => discard m.compose
  | .block b => m.composeBlock b
  | .branch b => m.composeBranch b
  | .prepare c v => discard (m.prepare c v)
  | .override change => modify fun s => { s with overrides := change s.overrides }

/-- A session from a state on: how each operation ends, and the last state. An operation after one
that failed runs from the state that this one left. -/
def play (m : Member) : Composition → List Operation → List (Except Unrenderable Unit) × Composition
  | s, [] => ([], s)
  | s, op :: ops =>
    let r := (m.perform op).run.run s
    let rest := m.play r.2 ops
    (r.1 :: rest.1, rest.2)

/-- One state comes after another: scenarios were added under the given numbers, which increase from
the counter of the one to the counter of the other. -/
structure Extends (m : Member) (s s' : Composition) (ns : List Nat) : Prop where
  scenarios : ∃ added, s'.scenarios = s.scenarios ++ added ∧
    added.map Scenario.label = ns.map m.scenarioLabel
  increasing : ns.Pairwise (· < ·)
  between : ∀ n ∈ ns, s.counter ≤ n ∧ n < s'.counter
  counter : s.counter ≤ s'.counter

namespace Extends

variable {m : Member} {s s' s'' : Composition} {ns ks : List Nat}

theorem of_unchanged (hs : s'.scenarios = s.scenarios) (hc : s.counter ≤ s'.counter) :
    m.Extends s s' [] where
  scenarios := ⟨[], by simp [hs], rfl⟩
  increasing := .nil
  between := by simp
  counter := hc

theorem trans (h : m.Extends s s' ns) (h' : m.Extends s' s'' ks) : m.Extends s s'' (ns ++ ks) where
  scenarios := by
    obtain ⟨xs, hxs, hns⟩ := h.scenarios
    obtain ⟨ys, hys, hks⟩ := h'.scenarios
    exact ⟨xs ++ ys, by rw [hys, hxs, List.append_assoc], by simp [hns, hks]⟩
  increasing := by
    refine List.pairwise_append.mpr ⟨h.increasing, h'.increasing, ?_⟩
    intro n hn k hk
    have := h.between n hn
    have := h'.between k hk
    omega
  between := by
    intro n hn
    have := h.counter
    have := h'.counter
    rcases List.mem_append.mp hn with hn | hn
    · have := h.between n hn
      omega
    · have := h'.between n hn
      omega
  counter := Nat.le_trans h.counter h'.counter

theorem isPrefix (h : m.Extends s s' ns) : s.scenarios <+: s'.scenarios := by
  obtain ⟨added, hadded, -⟩ := h.scenarios
  exact ⟨added, hadded.symm⟩

end Extends

/-- From any state on, an action only adds scenarios under fresh numbers, and if it succeeds it uses up
no other numbers. -/
def Numbers {α : Type} (m : Member) (x : Compose α) : Prop :=
  ∀ s, ∃ ns, m.Extends s (x.run.run s).2 ns ∧
    ∀ a, (x.run.run s).1 = .ok a → (x.run.run s).2.counter = s.counter + ns.length

namespace Numbers

variable {m : Member} {α β : Type}

theorem of_quiet {x : Compose α} (h : ∀ s, (x.run.run s).2.scenarios = s.scenarios ∧
    (x.run.run s).2.counter = s.counter) : m.Numbers x :=
  fun s => ⟨[], .of_unchanged (h s).1 (Nat.le_of_eq (h s).2.symm), fun _ _ => (h s).2⟩

theorem pure (a : α) : m.Numbers (Pure.pure a : Compose α) :=
  of_quiet fun _ => ⟨rfl, rfl⟩

theorem bind {x : Compose α} {f : α → Compose β} (hx : m.Numbers x)
    (hf : ∀ a, m.Numbers (f a)) : m.Numbers (x >>= f) := by
  intro s
  obtain ⟨ns, hns, hok⟩ := hx s
  rcases hrun : x.run.run s with ⟨_ | a, s'⟩
  · rw [run_bind_error hrun]
    rw [hrun] at hns
    exact ⟨ns, hns, fun _ h => nomatch h⟩
  · rw [run_bind hrun]
    rw [hrun] at hns hok
    obtain ⟨ks, hks, hok'⟩ := hf a s'
    refine ⟨ns ++ ks, hns.trans hks, ?_⟩
    intro b hb
    rw [hok' b hb, hok a rfl, List.length_append, Nat.add_assoc]

theorem discarded {x : Compose α} (hx : m.Numbers x) : m.Numbers (discard x) :=
  hx.bind fun _ => pure _

theorem prepare (c : Condition) (v : Value) : m.Numbers (m.prepare c v) := by
  refine of_quiet fun s => ?_
  cases hr : m.route c <;> simp [Member.prepare, hr] <;> exact ⟨rfl, rfl⟩

/-- The step of an entry uses up one number, for which there is a scenario if the value has a text. -/
theorem step (e : Drive) : m.Numbers (m.step e) := by
  intro s
  cases ht : e.value.sourceText with
  | error u =>
    rw [run_step_error m s ht]
    exact ⟨[], .of_unchanged rfl (Nat.le_succ _), fun _ h => nomatch h⟩
  | ok t =>
    rw [run_step m s ⟨t, ht⟩]
    refine ⟨[s.counter], ⟨⟨_, rfl, rfl⟩, List.pairwise_singleton .., ?_, Nat.le_succ _⟩,
      fun _ _ => rfl⟩
    simp

theorem steps (es : List Drive) : m.Numbers (es.forM m.step) := by
  induction es with
  | nil => exact pure _
  | cons e es ih => exact (step e).bind fun _ => ih

theorem compose : m.Numbers m.compose := by
  unfold Member.compose
  split
  · refine bind ?_ fun _ => of_quiet fun _ => ⟨rfl, rfl⟩
    rw [composeBlock_eq]
    exact steps _
  · exact of_quiet fun _ => ⟨rfl, rfl⟩

theorem perform (op : Operation) : m.Numbers (m.perform op) := by
  cases op with
  | compose => exact compose.discarded
  | block b =>
    rw [Member.perform, composeBlock_eq]
    exact steps _
  | branch b =>
    rw [Member.perform, composeBranch_eq]
    exact steps _
  | prepare c v => exact (prepare c v).discarded
  | override change => exact of_quiet fun _ => ⟨rfl, rfl⟩

end Numbers

theorem extends_play (m : Member) (ops : List Operation) (s : Composition) :
    ∃ ns, m.Extends s (m.play s ops).2 ns ∧
      ((∀ r ∈ (m.play s ops).1, r = .ok ()) → (m.play s ops).2.counter = s.counter + ns.length) := by
  induction ops generalizing s with
  | nil => exact ⟨[], .of_unchanged rfl (Nat.le_refl _), fun _ => rfl⟩
  | cons op ops ih =>
    obtain ⟨ns, hns, hok⟩ := Numbers.perform (m := m) op s
    obtain ⟨ks, hks, hok'⟩ := ih ((m.perform op).run.run s).2
    refine ⟨ns ++ ks, hns.trans hks, ?_⟩
    intro hall
    have hfirst : ((m.perform op).run.run s).1 = .ok () := hall _ List.mem_cons_self
    have hrest := hok' fun r hr => hall r (List.mem_cons_of_mem _ hr)
    rw [List.length_append, ← Nat.add_assoc, ← hok () hfirst]
    exact hrest

/-- Equal labels bear equal numbers, since the digits of a number can be read back. -/
theorem scenarioLabel_inj (m : Member) {n k : Nat} (h : m.scenarioLabel n = m.scenarioLabel k) :
    n = k := by
  have htext : n.repr = k.repr := by
    simpa [scenarioLabel, String.append_assoc, toString] using h
  rw [Nat.repr_eq_ofList_toDigits, Nat.repr_eq_ofList_toDigits, String.ofList_inj] at htext
  simpa using congrArg (Nat.ofDigitChars 10 · 0) htext

/-- In every state that a session reaches, whatever failed on the way, the scenarios bear increasing
numbers below the counter, so that no label occurs twice. Whatever comes later leaves them as they
are. If nothing failed, the counter is one more than the number of scenarios. -/
theorem session_labels_distinct (m : Member) (ops later : List Operation) :
    (∃ ns : List Nat, (m.play .initial ops).2.scenarios.map Scenario.label =
          ns.map (fun n => s!"{m.method.name} ({n})") ∧
        (ns ++ [(m.play .initial ops).2.counter]).Pairwise (· < ·)) ∧
      ((m.play .initial ops).2.scenarios.map Scenario.label).Nodup ∧
      (m.play .initial ops).2.scenarios <+:
        (m.play (m.play .initial ops).2 later).2.scenarios ∧
      ((∀ r ∈ (m.play .initial ops).1, r = .ok ()) →
        (m.play .initial ops).2.counter = (m.play .initial ops).2.scenarios.length + 1) := by
  obtain ⟨ns, hns, hok⟩ := m.extends_play ops .initial
  obtain ⟨added, hadded, hlabels⟩ := hns.scenarios
  have hstart : Composition.initial.scenarios = [] := rfl
  rw [hstart, List.nil_append] at hadded
  rw [← hadded] at hlabels
  refine ⟨⟨ns, hlabels, ?_⟩, ?_, ?_, ?_⟩
  · refine List.pairwise_append.mpr ⟨hns.increasing, List.pairwise_singleton .., ?_⟩
    intro n hn k hk
    rw [List.mem_singleton.mp hk]
    exact (hns.between n hn).2
  · rw [hlabels]
    refine List.pairwise_map.mpr (hns.increasing.imp ?_)
    intro n k hlt heq
    exact Nat.ne_of_lt hlt (m.scenarioLabel_inj heq)
  · obtain ⟨ks, hks, -⟩ := m.extends_play later (m.play .initial ops).2
    exact hks.isPrefix
  · intro hall
    have hlength := congrArg List.length hlabels
    simp only [List.length_map] at hlength
    rw [hok hall, hlength, Nat.add_comm]
    rfl

theorem session_labels_distinct_gate :
    let s := (Sample.gate.play .initial [.compose, .override fun _ => [], .block Sample.body]).2
    s.scenarios.length = 36 ∧ s.counter = 37 ∧ (s.scenarios.map Scenario.label).Nodup := by
  intro s
  obtain ⟨-, hnodup, -, hcounter⟩ := Sample.gate.session_labels_distinct
    [.compose, .override fun _ => [], .block Sample.body] []
  have hlength : s.scenarios.length = 36 := by decide +kernel
  have hok : ∀ r ∈ (Sample.gate.play .initial
      [.compose, .override fun _ => [], .block Sample.body]).1, r.isOk := by decide +kernel
  refine ⟨hlength, ?_, hnodup⟩
  rw [hcounter fun r hr => ?_, hlength]
  cases r with
  | ok u => rfl
  | error u => exact absurd (hok _ hr) (by simp [Except.isOk, Except.toBool])

end Member
end BranchCover
