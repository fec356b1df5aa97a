import BranchCover.Proofs.Writing

/-! Writing several suites in turn on one page. A suite that cannot be written to its end leaves lines on the
page and leaves it at an inner level; what is written after it is what a new page would hold, since the page is
cleared and its unit is never changed. -/
namespace BranchCover

namespace Emission

/-- Wherever the step ends, the page keeps its unit. -/
def KeepsUnit {α : Type} (e : Emission α) : Prop :=
  ∀ p, (e.run.run p).2.unit = p.unit

namespace KeepsUnit

variable {α β γ : Type}

theorem pure (a : α) : KeepsUnit (Pure.pure a : Emission α) :=
  fun _ => rfl

theorem line (t : String) : KeepsUnit (Emission.line t) :=
  fun _ => rfl

theorem blank : KeepsUnit Emission.blank :=
  line ""

theorem shift (d : Int) : KeepsUnit (modify (·.shift d) : Emission Unit) :=
  fun _ => rfl

/-- A text that does not exist stops the writing and leaves the page as it is. -/
theorem lift (x : Except Unrenderable α) : KeepsUnit (liftM x : Emission α) := by
  intro p
  cases x <;> rfl

theorem bind {e : Emission α} {f : α → Emission β} (he : KeepsUnit e) (hf : ∀ a, KeepsUnit (f a)) :
    KeepsUnit (e >>= f) := by
  intro p
  have hunit := he p
  simp only [ExceptT.run_bind, StateT.run_bind]
  rcases hrun : e.run.run p with ⟨r, q⟩
  rw [hrun] at hunit
  cases r with
  | error u => exact hunit
  | ok a => exact (hf a q).trans hunit

theorem inner {e : Emission Unit} (he : KeepsUnit e) : KeepsUnit (Emission.inner e) :=
  .bind (shift 1) fun _ => .bind he fun _ => shift (-1)

theorem forM {g : γ → Emission Unit} (h : ∀ x, KeepsUnit (g x)) (xs : List γ) : KeepsUnit (xs.forM g) := by
  induction xs with
  | nil => exact pure ()
  | cons x xs ih => exact (h x).bind fun _ => ih

theorem lines (ts : List String) : KeepsUnit (Emission.lines ts) :=
  forM line ts

/-- A step that is taken only under a condition, and what follows in both cases. -/
theorem guarded {c : Prop} [Decidable c] {e : Emission Unit} {f : Emission α} (he : KeepsUnit e)
    (hf : KeepsUnit f) : KeepsUnit (if c then e >>= fun _ => f else f) := by
  by_cases hc : c
  · simp only [hc, if_true]
    exact he.bind fun _ => hf
  · simp only [hc, if_false]
    exact hf

end KeepsUnit
end Emission

namespace Suite

open Emission

theorem emitImports_keepsUnit (i : Imports) : KeepsUnit (emitImports i) := by
  unfold emitImports
  refine .bind (.lines _) fun _ => .guarded .blank ?_
  split
  · exact .bind (.line _) fun _ => .bind .blank fun _ => .lines _
  · exact .lines _

theorem emitStub_keepsUnit (s : Stub) : KeepsUnit (emitStub s) := by
  have hmethod : ∀ m, KeepsUnit (emitStubMethod m) := fun m =>
    .bind .blank fun _ => .bind (.line _) fun _ => .inner (.line _)
  refine .bind (.line _) fun _ => .inner (.bind (.line _) fun _ => .guarded .blank ?_)
  exact .bind (.lines _) fun _ => .forM hmethod _

theorem emitFixture_keepsUnit (o : Options) (s : Suite) : KeepsUnit (emitFixture o s) := by
  refine .bind (.line _) fun _ => .bind (.line _) fun _ => .inner (.bind (.lift _) fun _ => ?_)
  exact .bind (.line _) fun _ => .bind (.lines _) fun _ => .line _

theorem emitScenario_keepsUnit (o : Options) (s : Scenario) : KeepsUnit (emitScenario o s) := by
  have hassign : ∀ a, KeepsUnit (emitAssign o a) := fun _ => .bind (.lift _) fun _ => .line _
  have hcall : KeepsUnit (do
      s.assignments.forM (emitAssign o)
      let call ← liftM s.invocation.source
      line (if s.invocation.awaited then s!"asyncio.run({call})" else call)) :=
    .bind (.forM hassign _) fun _ => .bind (.lift _) fun _ => .line _
  refine .bind (.line _) fun _ => .bind (.inner ?_) fun _ =>
    .bind (.line _) fun _ => .inner (.line _)
  cases s.comment with
  | none => exact hcall
  | some c => exact .guarded (.line _) hcall

theorem emitMethod_keepsUnit (o : Options) (name : String) (t : MethodTests) :
    KeepsUnit (emitMethod o name t) := by
  have hscenarios : KeepsUnit (do
      t.scenarios.forM (emitScenario o)
      line s!"assert {o.targetName}") :=
    .bind (.forM (emitScenario_keepsUnit o) _) fun _ => .line _
  refine .bind (.line _) fun _ => .inner ?_
  cases t.error with
  | none => exact hscenarios
  | some e => exact .bind (.line _) fun _ => hscenarios

theorem emitMethods_keepsUnit (o : Options) (ts : List MethodTests) (taken : List String) :
    KeepsUnit (emitMethods o taken ts) := by
  induction ts generalizing taken with
  | nil => exact .pure ()
  | cons t ts ih =>
    exact .bind .blank fun _ => .bind (emitMethod_keepsUnit o _ t) fun _ => ih _

theorem emitModule_keepsUnit (o : Options) (s : Suite) : KeepsUnit (emitModule o s) := by
  have hclass : KeepsUnit (do
      emitFixture o s
      blank
      line s!"def test_should_create(self, {o.targetName}):"
      inner (line s!"assert {o.targetName}")
      emitMethods o ["test_should_create"] s.methods) :=
    .bind (emitFixture_keepsUnit o s) fun _ => .bind .blank fun _ => .bind (.line _) fun _ =>
      .bind (.inner (.line _)) fun _ => emitMethods_keepsUnit o s.methods _
  have hstub : ∀ t, KeepsUnit (do blank; blank; emitStub t) := fun t =>
    .bind .blank fun _ => .bind .blank fun _ => emitStub_keepsUnit t
  refine .bind (.line _) fun _ => .bind .blank fun _ => .bind (emitImports_keepsUnit _) fun _ => ?_
  refine .bind (.forM hstub _) fun _ => .bind .blank fun _ => .bind .blank fun _ => ?_
  exact .bind (.line _) fun _ => .inner hclass

theorem unit_emitOn (o : Options) (p : Page) (s : Suite) : (emitOn o p s).2.unit = p.unit :=
  emitModule_keepsUnit o s p.cleared

/-- Only the unit of the page that is used again is of account. -/
theorem emitOn_eq_of_unit (o : Options) {p : Page} (h : p.unit = o.indent) (s : Suite) :
    emitOn o p s = emitOn o (Page.blank o.indent) s := by
  have hcleared : p.cleared = (Page.blank o.indent).cleared := by
    simp only [Page.cleared, Page.blank, h]
  simp only [emitOn, hcleared]

/-- Writes suites in turn, each on the page as the one before has left it. -/
def emitAll (o : Options) : Page → List Suite → List (Except Unrenderable String)
  | _, [] => []
  | p, s :: ss =>
    let (outcome, q) := emitOn o p s
    outcome :: emitAll o q ss

theorem emitAll_of_unit (o : Options) (ss : List Suite) {p : Page} (h : p.unit = o.indent) :
    emitAll o p ss = ss.map (emit o) := by
  induction ss generalizing p with
  | nil => rfl
  | cons s ss ih =>
    have hhead : (emitOn o p s).1 = emit o s := congrArg Prod.fst (emitOn_eq_of_unit o h s)
    have htail : emitAll o (emitOn o p s).2 ss = ss.map (emit o) := ih ((unit_emitOn o p s).trans h)
    calc emitAll o p (s :: ss)
        = (emitOn o p s).1 :: emitAll o (emitOn o p s).2 ss := rfl
      _ = (s :: ss).map (emit o) := by rw [hhead, htail, List.map_cons]

/-- A page that is used again for any suites, the ones that fail included, holds for each what a new page
would. -/
theorem emitAll_eq_map_emit (o : Options) (ss : List Suite) :
    emitAll o (Page.blank o.indent) ss = ss.map (emit o) :=
  emitAll_of_unit o ss rfl

end Suite
end BranchCover
