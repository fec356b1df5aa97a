import BranchCover.Scenario.Compose

/-! The trace of a block: conditions with their values in the order in which a composition comes to
them, told without any state. A composition is one step for each entry of the trace, run one after
the other, whether or not a step fails. -/
namespace BranchCover

/-- An entry of a trace: a condition with a value that drives it. -/
structure Drive where
  condition : Condition
  value : Value

namespace Drive

/-- The value of an entry has a text. -/
def Renders (e : Drive) : Prop := ∃ t, e.value.sourceText = .ok t

instance (e : Drive) : Decidable e.Renders :=
  match h : e.value.sourceText with
  | .ok t => .isTrue ⟨t, h⟩
  | .error _ => .isFalse (by simp [Renders, h])

/-- Every value of every condition in order, each after the entries below. -/
def driven (below : List Drive) (cs : List Condition) : List Drive :=
  cs.flatMap fun c => c.callValues.flatMap fun v => below ++ [⟨c, v⟩]

end Drive

mutual

def Block.trace : Block → List Drive
  | .mk bs => Branch.traces bs

def Branch.traces : List Branch → List Drive
  | [] => []
  | b :: bs => b.trace ++ Branch.traces bs

def Branch.trace : Branch → List Drive
  | .ifElse c body orelse => Drive.driven (body.trace ++ Block.traceOf orelse) [c]
  | .switch arms default =>
    Drive.driven (Arm.traces arms ++ Block.traceOf default) (arms.map Arm.condition)
  | .ternary c => Drive.driven [] [c]

def Arm.traces : List Arm → List Drive
  | [] => []
  | .mk _ body :: arms => body.trace ++ Arm.traces arms

def Block.traceOf : Option Block → List Drive
  | none => []
  | some b => b.trace

end

theorem Branch.traces_eq (bs : List Branch) : Branch.traces bs = bs.flatMap Branch.trace := by
  induction bs with
  | nil => rfl
  | cons b bs ih => simp [Branch.traces, ih]

theorem Arm.traces_eq (arms : List Arm) :
    Arm.traces arms = (arms.map Arm.body).flatMap Block.trace := by
  induction arms with
  | nil => rfl
  | cons a arms ih =>
    cases a with
    | mk c body => simp [Arm.traces, Arm.body, ih]

theorem Block.traceOf_eq (o : Option Block) :
    Block.traceOf o = o.toList.flatMap Block.trace := by
  cases o <;> simp [Block.traceOf]

@[simp] theorem Block.trace_mk (bs : List Branch) :
    (Block.mk bs).trace = bs.flatMap Branch.trace := by
  rw [Block.trace, Branch.traces_eq]

/-- A decision of any shape: the blocks below it are traced anew for each value of each of its
conditions. -/
theorem Branch.trace_eq (b : Branch) :
    b.trace = b.conditions.flatMap fun c => c.callValues.flatMap fun v =>
      b.bodies.flatMap Block.trace ++ b.orelse.toList.flatMap Block.trace ++ [⟨c, v⟩] := by
  cases b <;>
    simp [Branch.trace, Drive.driven, Branch.conditions, Branch.bodies, Branch.orelse,
      Arm.traces_eq, Block.traceOf_eq]

namespace Member

/-- The step of a composition for one entry. -/
def step (m : Member) (e : Drive) : Compose Unit := do
  let fields ← m.prepare e.condition e.value
  m.addScenario e.condition e.value fields

variable (m : Member)

theorem forM_flatMap {α β : Type} (xs : List α) (f : α → List β) (g : β → Compose Unit) :
    (xs.flatMap f).forM g = xs.forM fun x => (f x).forM g := by
  induction xs with
  | nil => rfl
  | cons x xs ih =>
    simp only [List.forM_eq_forM] at ih ⊢
    simp [List.flatMap_cons, List.forM_append, ih]

theorem driveAll_eq (below : List Drive) (cs : List Condition) :
    m.driveAll (below.forM m.step) cs = (Drive.driven below cs).forM m.step := by
  simp only [driveAll, Drive.driven, forM_flatMap]
  congr 1
  funext c
  congr 1
  funext v
  simp only [List.forM_eq_forM, List.forM_append]
  simp [step]

mutual

/-- A composition does what its trace says, entry by entry. -/
theorem composeBlock_eq : ∀ b : Block, m.composeBlock b = b.trace.forM m.step
  | .mk bs => by rw [composeBlock, Block.trace, composeBranches_eq bs]

theorem composeBranches_eq : ∀ bs : List Branch,
    m.composeBranches bs = (Branch.traces bs).forM m.step
  | [] => rfl
  | b :: bs => by
    rw [composeBranches, Branch.traces, composeBranch_eq b, composeBranches_eq bs]
    simp only [List.forM_eq_forM, List.forM_append]

theorem composeBranch_eq : ∀ b : Branch, m.composeBranch b = b.trace.forM m.step
  | .ifElse c body orelse => by
    rw [composeBranch, Branch.trace, composeBlock_eq body, composeOrelse_eq orelse, ← driveAll_eq]
    simp only [List.forM_eq_forM, List.forM_append]
  | .switch arms default => by
    rw [composeBranch, Branch.trace, composeArms_eq arms, composeOrelse_eq default, ← driveAll_eq]
    simp only [List.forM_eq_forM, List.forM_append]
  | .ternary c => by
    rw [composeBranch, Branch.trace, ← driveAll_eq]
    rfl

theorem composeArms_eq : ∀ arms : List Arm, m.composeArms arms = (Arm.traces arms).forM m.step
  | [] => rfl
  | .mk c body :: arms => by
    rw [composeArms, Arm.traces, composeBlock_eq body, composeArms_eq arms]
    simp only [List.forM_eq_forM, List.forM_append]

theorem composeOrelse_eq : ∀ o : Option Block,
    m.composeOrelse o = (Block.traceOf o).forM m.step
  | none => rfl
  | some b => by rw [composeOrelse, Block.traceOf, composeBlock_eq b]

end

end Member
end BranchCover
