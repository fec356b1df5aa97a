import BranchCover.Proofs.CallValues
import BranchCover.Proofs.Replay
import Mathlib.Algebra.Ring.Nat

/-! How many scenarios a block gives. Each value of each condition of a decision gives one scenario
and has the blocks below composed anew, and each condition has two values, so the number depends on
the shape of the block alone. -/
namespace BranchCover

mutual

/-- The number of scenarios of a block. -/
def Block.scenarioCount : Block → Nat
  | .mk bs => Branch.scenarioCounts bs

def Branch.scenarioCounts : List Branch → Nat
  | [] => 0
  | b :: bs => b.scenarioCount + Branch.scenarioCounts bs

def Branch.scenarioCount : Branch → Nat
  | .ifElse _ body orelse => 2 * (1 + body.scenarioCount + Block.scenarioCountOf orelse)
  | .switch arms default =>
    2 * arms.length * (1 + Arm.scenarioCounts arms + Block.scenarioCountOf default)
  | .ternary _ => 2

def Arm.scenarioCounts : List Arm → Nat
  | [] => 0
  | .mk _ body :: arms => body.scenarioCount + Arm.scenarioCounts arms

def Block.scenarioCountOf : Option Block → Nat
  | none => 0
  | some b => b.scenarioCount

end

theorem Branch.scenarioCounts_eq (bs : List Branch) :
    Branch.scenarioCounts bs = (bs.map Branch.scenarioCount).sum := by
  induction bs with
  | nil => rfl
  | cons b bs ih => simp [Branch.scenarioCounts, ih]

theorem Arm.scenarioCounts_eq (arms : List Arm) :
    Arm.scenarioCounts arms = ((arms.map Arm.body).map Block.scenarioCount).sum := by
  induction arms with
  | nil => rfl
  | cons a arms ih =>
    cases a with
    | mk c body => simp [Arm.scenarioCounts, Arm.body, ih]

theorem Block.scenarioCountOf_eq (o : Option Block) :
    Block.scenarioCountOf o = (o.map Block.scenarioCount).getD 0 := by
  cases o <;> rfl

theorem Block.scenarioCount_eq (blk : Block) :
    blk.scenarioCount = (blk.branches.map Branch.scenarioCount).sum := by
  cases blk with
  | mk bs => rw [Block.scenarioCount, Branch.scenarioCounts_eq, Block.branches]

/-- A decision of any shape: two passes for each condition, each with one scenario of its own and
those of all the blocks below. -/
theorem Branch.scenarioCount_eq (b : Branch) :
    b.scenarioCount = 2 * b.conditions.length *
      (1 + (b.bodies.map Block.scenarioCount).sum + (b.orelse.map Block.scenarioCount).getD 0) := by
  cases b with
  | ifElse c body orelse =>
    simp [Branch.scenarioCount, conditions, bodies, Branch.orelse, Block.scenarioCountOf_eq]
  | switch arms default =>
    simp [Branch.scenarioCount, conditions, bodies, Branch.orelse, Block.scenarioCountOf_eq,
      Arm.scenarioCounts_eq]
  | ternary c => simp [Branch.scenarioCount, conditions, bodies, Branch.orelse]

theorem Drive.length_driven (below : List Drive) (cs : List Condition) :
    (Drive.driven below cs).length = 2 * cs.length * (1 + below.length) := by
  induction cs with
  | nil => simp [Drive.driven]
  | cons c cs ih =>
    obtain ⟨v, w, hvw⟩ := c.exists_callValues
    have hc : (c.callValues.flatMap fun v => below ++ [⟨c, v⟩]).length = 2 * (1 + below.length) := by
      simp [hvw]
      omega
    have hcons : Drive.driven below (c :: cs) =
        (c.callValues.flatMap fun v => below ++ [⟨c, v⟩]) ++ Drive.driven below cs := by
      simp [Drive.driven]
    rw [hcons, List.length_append, hc, ih, List.length_cons, Nat.mul_succ, Nat.add_mul, Nat.add_comm]

mutual

theorem Block.length_trace : ∀ blk : Block, blk.trace.length = blk.scenarioCount
  | .mk bs => by rw [Block.trace, Block.scenarioCount, Branch.length_traces bs]

theorem Branch.length_traces : ∀ bs : List Branch,
    (Branch.traces bs).length = Branch.scenarioCounts bs
  | [] => rfl
  | b :: bs => by
    rw [Branch.traces, Branch.scenarioCounts, List.length_append, Branch.length_trace b,
      Branch.length_traces bs]

theorem Branch.length_trace : ∀ b : Branch, b.trace.length = b.scenarioCount
  | .ifElse c body orelse => by
    rw [Branch.trace, Branch.scenarioCount, Drive.length_driven, List.length_append,
      Block.length_trace body, Block.length_traceOf orelse]
    simp [Nat.add_assoc]
  | .switch arms default => by
    rw [Branch.trace, Branch.scenarioCount, Drive.length_driven, List.length_append,
      Arm.length_traces arms, Block.length_traceOf default, List.length_map, Nat.add_assoc]
  | .ternary c => by rw [Branch.trace, Branch.scenarioCount, Drive.length_driven]; rfl

theorem Arm.length_traces : ∀ arms : List Arm,
    (Arm.traces arms).length = Arm.scenarioCounts arms
  | [] => rfl
  | .mk c body :: arms => by
    rw [Arm.traces, Arm.scenarioCounts, List.length_append, Block.length_trace body,
      Arm.length_traces arms]

theorem Block.length_traceOf : ∀ o : Option Block,
    (Block.traceOf o).length = Block.scenarioCountOf o
  | none => rfl
  | some b => by rw [Block.traceOf, Block.scenarioCountOf, Block.length_trace b]

end

namespace Member

/-- Every condition is driven by two values of one sort. So from any state on, a block whose values
all have texts adds two scenarios for each condition and each way to come to it, and uses up as many
numbers. -/
theorem composeBlock_adds_scenarioCount :
    (∀ c : Condition, ∃ v w, c.callValues = [v, w] ∧ v.Alike w) ∧
      (∀ blk : Block, blk.scenarioCount = (blk.branches.map Branch.scenarioCount).sum) ∧
      (∀ b : Branch, b.scenarioCount = 2 * b.conditions.length *
        (1 + (b.bodies.map Block.scenarioCount).sum +
          (b.orelse.map Block.scenarioCount).getD 0)) ∧
      ∀ (m : Member) (blk : Block) (s : Composition), (∀ e ∈ blk.trace, e.Renders) →
        ∃ s' added, (m.composeBlock blk).run.run s = (.ok (), s') ∧
          s'.scenarios = s.scenarios ++ added ∧ added.length = blk.scenarioCount ∧
          s'.counter = s.counter + blk.scenarioCount := by
  refine ⟨Condition.exists_alike_callValues, Block.scenarioCount_eq, Branch.scenarioCount_eq, ?_⟩
  intro m blk s hr
  have hrun := m.run_steps blk.trace s hr
  rw [← composeBlock_eq] at hrun
  refine ⟨_, m.scenariosFrom s.counter s.overrides blk.trace, hrun, rfl, ?_, ?_⟩
  · rw [scenariosFrom_length, blk.length_trace]
  · rw [← blk.length_trace]

theorem composeBlock_adds_scenarioCount_gate :
    (∀ e ∈ Sample.body.trace, e.Renders) ∧
      ∃ s' added, (Sample.gate.composeBlock Sample.body).run.run ⟨5, [], [], []⟩ = (.ok (), s') ∧
        s'.scenarios = added ∧ added.length = 18 ∧ s'.counter = 23 := by
  have hr : ∀ e ∈ Sample.body.trace, e.Renders := by decide +kernel
  have hcount : Sample.body.scenarioCount = 18 := by decide +kernel
  obtain ⟨s', added, hrun, hss, hlength, hcounter⟩ :=
    composeBlock_adds_scenarioCount.2.2.2 Sample.gate Sample.body ⟨5, [], [], []⟩ hr
  rw [hcount] at hlength hcounter
  exact ⟨hr, s', added, hrun, hss, hlength, hcounter⟩

end Member
end BranchCover
