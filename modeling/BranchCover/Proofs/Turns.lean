import BranchCover.Proofs.Deeds
import BranchCover.Proofs.Locating

/-! Runs on the files of a tree. Files have their turns one after the other: the deeds of the first files
come first, and the tree that they leave is what the next file finds. -/
namespace BranchCover

theorem run_then {σ α β : Type} {x : StateM σ α} {f : α → StateM σ β} {s s' : σ} {r : α}
    (h : x.run s = (r, s')) : (x >>= f).run s = (f r).run s' := by
  rw [StateT.run_bind, h]
  rfl

namespace FileTree

def content? (t : FileTree) (cur : Location) (p : Path) : Option ByteArray :=
  match t.entry? cur p with
  | some (.file content) => some content
  | _ => none

theorem disk_read (cur : Location) (p : Path) (t : FileTree) :
    ((disk cur).read p).run t = (t.content? cur p, t) := by
  simp only [disk, content?, StateT.run_bind, StateT.run_get, pure_bind]
  cases t.entry? cur p with
  | none => rfl
  | some e => cases e <;> rfl

theorem disk_write_of_some {cur : Location} {p : Path} {content : ByteArray} {t t' : FileTree}
    (h : t.write cur p content = some t') : ((disk cur).write p content).run t = (true, t') := by
  simp only [disk, StateT.run_bind, StateT.run_get]
  simp [h]
  rfl

theorem disk_write_of_none {cur : Location} {p : Path} {content : ByteArray} {t : FileTree}
    (h : t.write cur p content = none) :
    ((disk cur).write p content).run t = (false, t.paved cur p) := by
  simp only [disk, StateT.run_bind, StateT.run_get]
  simp [h]
  rfl

/-- The action leaves every tree as it is. -/
def Looks {α : Type} (x : StateM FileTree α) : Prop :=
  ∀ t, (x.run t).2 = t

namespace Looks

variable {α β : Type}

theorem pure (a : α) : Looks (Pure.pure a : StateM FileTree α) :=
  fun _ => rfl

theorem run_eq {x : StateM FileTree α} (hx : Looks x) (t : FileTree) :
    x.run t = ((x.run t).1, t) :=
  Prod.ext rfl (hx t)

theorem bind {x : StateM FileTree α} {f : α → StateM FileTree β} (hx : Looks x)
    (hf : ∀ a, Looks (f a)) : Looks (x >>= f) := by
  intro t
  rw [run_then (hx.run_eq t)]
  exact hf _ t

end Looks
end FileTree

namespace Cli

open FileTree

theorem looks_packages (cur : Location) (root : String) (reversed : List String) :
    Looks (packages (disk cur) root reversed) := by
  have hpresent : ∀ p, Looks ((disk cur).isPresent p) := fun _ _ => rfl
  induction reversed with
  | nil =>
    refine (hpresent _).bind fun present => ?_
    cases present <;> exact .pure _
  | cons name outer ih =>
    refine (hpresent _).bind fun present => ?_
    cases present with
    | true => exact ih.bind fun _ => .pure _
    | false => exact .pure _

theorem looks_moduleName (cur : Location) (p : Path) : Looks (moduleName (disk cur) p) := by
  have habsolute : Looks ((disk cur).absolute p) := fun _ => rfl
  exact habsolute.bind fun _ => (looks_packages cur _ _).bind fun _ => .pure _

variable [Interpreter] {σ : Type} (d : Disk (StateM σ)) (a : Arguments)

/-- The state that a run on files ends in, whatever it ends with, is the one that their deeds leave. -/
theorem runFiles_run (b : Batch) (ps : List Path) (s : σ) :
    (runFiles d a b ps).run s =
      (b.ending ((deeds d a b.written ps).run s).1, ((deeds d a b.written ps).run s).2) := by
  rw [runFiles_eq]
  rfl

variable {d a} {taken : List (Path × Path)} {s s' s'' : σ} {ds rest : List Deed}

/-- After a file that stops the run there are no turns. -/
theorem deeds_cons_of_stop {p : Path} {e : Generate.Failure}
    (h : (fileDeeds d a taken p).run s = ((ds, some e), s')) (ps : List Path) :
    (deeds d a taken (p :: ps)).run s = ((ds, some e), s') := by
  rw [deeds, run_then h]
  rfl

theorem deeds_cons {p : Path} (h : (fileDeeds d a taken p).run s = ((ds, none), s'))
    {ps : List Path} {stop : Option Generate.Failure}
    (hrest : (deeds d a (taken ++ ds.filterMap Deed.claim?) ps).run s' = ((rest, stop), s'')) :
    (deeds d a taken (p :: ps)).run s = ((ds ++ rest, stop), s'') := by
  rw [deeds, run_then h]
  simp only [run_then hrest]
  rfl

theorem deeds_append {pre post : List Path} {stop : Option Generate.Failure}
    (h : (deeds d a taken pre).run s = ((ds, none), s'))
    (hrest : (deeds d a (taken ++ ds.filterMap Deed.claim?) post).run s' = ((rest, stop), s'')) :
    (deeds d a taken (pre ++ post)).run s = ((ds ++ rest, stop), s'') := by
  induction pre generalizing taken s ds with
  | nil =>
    cases h
    simpa using hrest
  | cons p pre ih =>
    rcases hp : (fileDeeds d a taken p).run s with ⟨⟨xs, stop' | e⟩, s₁⟩
    · rcases hpre : (deeds d a (taken ++ xs.filterMap Deed.claim?) pre).run s₁ with ⟨⟨ys, stop'⟩, s₂⟩
      rw [deeds_cons hp hpre] at h
      cases h
      rw [List.filterMap_append, ← List.append_assoc] at hrest
      rw [List.append_assoc]
      exact deeds_cons hp (ih hpre hrest)
    · rw [deeds_cons_of_stop hp] at h
      cases h

theorem deeds_append_of_stop {pre : List Path} {e : Generate.Failure}
    (h : (deeds d a taken pre).run s = ((ds, some e), s')) (post : List Path) :
    (deeds d a taken (pre ++ post)).run s = ((ds, some e), s') := by
  induction pre generalizing taken s ds with
  | nil =>
    cases h
  | cons p pre ih =>
    rcases hp : (fileDeeds d a taken p).run s with ⟨⟨xs, stop | e'⟩, s₁⟩
    · rcases hpre : (deeds d a (taken ++ xs.filterMap Deed.claim?) pre).run s₁ with ⟨⟨ys, stop⟩, s₂⟩
      rw [deeds_cons hp hpre] at h
      cases h
      exact deeds_cons hp (ih hpre)
    · rw [deeds_cons_of_stop hp] at h
      exact (deeds_cons_of_stop hp _).trans h

end Cli
end BranchCover
