import BranchCover.Proofs.Needs
import BranchCover.Proofs.Turns

/-! Files of a batch do not disturb each other. A file that cannot be read, decoded or parsed is told and
passed over, and all else is as it would be without that file. Only one kind of file ends a run: one with
a source that is neither outlined nor told to have a fault. -/
namespace BranchCover
namespace Cli

open FileTree
open Generate (Failure)

namespace Deed

/-- The file is told to be of no use. -/
def isUnusable : Deed → Bool
  | unopened _ | undecoded _ | refused .. => true
  | _ => false

/-- A test module is not written: its path is taken, or the writing fails. -/
def isMissed : Deed → Bool
  | repeated .. | unwritten .. => true
  | _ => false

theorem isSome_complaint? (d : Deed) : d.complaint?.isSome = (d.isUnusable || d.isMissed) := by
  cases d <;> rfl

theorem effects_of_isUnusable {d : Deed} (h : d.isUnusable = true) :
    ∃ text, d.complaint? = some text ∧ d.remarks = [.error text] ∧ d.output? = none ∧
      d.claim? = none ∧ ∀ dumps, addDump dumps d = dumps := by
  cases d with
  | unopened p => exact ⟨_, rfl, rfl, rfl, rfl, fun _ => rfl⟩
  | undecoded p => exact ⟨_, rfl, rfl, rfl, rfl, fun _ => rfl⟩
  | refused p f => exact ⟨_, rfl, rfl, rfl, rfl, fun _ => rfl⟩
  | _ => cases h

end Deed

section Effects

variable (b : Batch) (xs ys : List Deed)

theorem Batch.code_afterAll_initial :
    (initial.afterAll xs).code ≤ 1 ∧
      ((initial.afterAll xs).code = 0 ↔ ∀ d ∈ xs, d.isUnusable = false ∧ d.isMissed = false) := by
  by_cases h : xs.any (·.complaint?.isSome) = true
  · have hcode : (initial.afterAll xs).code = 1 := by simp [afterAll, h]
    refine ⟨Nat.le_of_eq hcode, ?_⟩
    rw [hcode]
    obtain ⟨d, hd, hcomplaint⟩ := List.any_eq_true.mp h
    rw [Deed.isSome_complaint?] at hcomplaint
    constructor
    · intro hzero
      cases hzero
    · intro hall
      simp [hall d hd] at hcomplaint
  · have hcode : (initial.afterAll xs).code = 0 := by simp [afterAll, h, initial]
    refine ⟨by rw [hcode]; exact Nat.zero_le 1, ?_⟩
    rw [hcode]
    refine ⟨fun _ d hd => ?_, fun _ => rfl⟩
    have hnone : d.complaint?.isSome = false :=
      eq_false_of_ne_true fun hsome => h (List.any_eq_true.mpr ⟨d, hd, hsome⟩)
    simpa [Deed.isSome_complaint?] using hnone

theorem Batch.afterAll_insert_unusable {d : Deed} (h : d.isUnusable = true) :
    ∃ text, (b.afterAll (xs ++ d :: ys)).code = 1 ∧
      (b.afterAll (xs ++ d :: ys)).dumps = (b.afterAll (xs ++ ys)).dumps ∧
      (b.afterAll (xs ++ d :: ys)).outputs = (b.afterAll (xs ++ ys)).outputs ∧
      (b.afterAll (xs ++ d :: ys)).written = (b.afterAll (xs ++ ys)).written ∧
      (b.afterAll (xs ++ d :: ys)).remarks =
        b.remarks ++ xs.flatMap Deed.remarks ++ .error text :: ys.flatMap Deed.remarks ∧
      (b.afterAll (xs ++ ys)).remarks =
        b.remarks ++ xs.flatMap Deed.remarks ++ ys.flatMap Deed.remarks := by
  obtain ⟨text, hcomplaint, hremarks, houtput, hclaim, hdump⟩ := Deed.effects_of_isUnusable h
  refine ⟨text, ?_, ?_, ?_, ?_, ?_, ?_⟩
  · simp [afterAll, hcomplaint]
  · simp [afterAll, hdump]
  · simp [afterAll, houtput]
  · simp [afterAll, hclaim]
  · simp [afterAll, hremarks]
  · simp [afterAll]

end Effects

/-- A file holds a source that is to be processed. -/
def Holds (cur : Location) (t : FileTree) (p : Path) (source : String) : Prop :=
  ∃ bytes, t.content? cur p = some bytes ∧ String.fromUTF8? bytes = some source ∧
    Generate.isSkipped source = false

section Files

variable [Interpreter]

inductive Unusable (cur : Location) (t : FileTree) (p : Path) : Prop where
  | unopened (h : t.content? cur p = none)
  | undecoded (bytes : ByteArray) (h : t.content? cur p = some bytes)
      (hnone : String.fromUTF8? bytes = none)
  | refused (source : String) (fault : Source.Fault) (h : Holds cur t p source)
      (hfault : Outline.ofSource source = .error (.refused (.fault fault)))

/-- The source of a file has no outline, and no fault is the reason: there is no room for it, or something in it is
refused as a whole or has no written form. -/
def Stops (cur : Location) (t : FileTree) (p : Path) (e : Failure) : Prop :=
  ∃ source reason, Holds cur t p source ∧ Outline.ofSource source = .error reason ∧
    e = .outline reason ∧ e.fault? = none

/-- Without an outline of its source, a file is of no use or stops the run. -/
theorem Holds.unusable_or_stops {cur : Location} {t : FileTree} {p : Path} {source : String}
    {reason : Outline.Failure} (h : Holds cur t p source)
    (hreason : Outline.ofSource source = .error reason) :
    Unusable cur t p ∨ Stops cur t p (.outline reason) := by
  cases hfault : (Failure.outline reason).fault? with
  | none => exact .inr ⟨source, reason, h, hreason, rfl, hfault⟩
  | some fault =>
    refine .inl (.refused source fault h ?_)
    cases reason with
    | refused r =>
      cases r with
      | fault f => rw [hreason, Option.some.inj hfault]
      | _ => cases hfault
    | _ => cases hfault

end Files

section Turn

theorem moduleDeeds_kinds (cur : Location) (a : Arguments) (source : Path)
    (taken : List (Path × Path)) (ts : List Generate.TestModule) (t : FileTree) :
    ∀ d ∈ ((moduleDeeds (disk cur) a source taken ts).run t).1,
      d.file? = none ∧ d.isUnusable = false := by
  induction ts generalizing taken t with
  | nil =>
    intro d hd
    cases hd
  | cons m ts ih =>
    intro d hd
    by_cases hout : a.stdout = true
    · simp only [moduleDeeds, hout, if_true] at hd
      rcases List.mem_cons.mp hd with rfl | hd
      · exact ⟨rfl, rfl⟩
      · exact ih _ _ d hd
    · cases hl : taken.lookup (targetOf a source m.fileName) with
      | some first =>
        simp only [moduleDeeds, hout, Bool.false_eq_true, if_false, hl] at hd
        rcases List.mem_cons.mp hd with rfl | hd
        · exact ⟨rfl, rfl⟩
        · exact ih _ _ d hd
      | none =>
        rcases hw : ((disk cur).write (targetOf a source m.fileName) m.text.toUTF8).run t with
          ⟨worked, t₁⟩
        simp only [moduleDeeds, hout, Bool.false_eq_true, if_false, hl, run_then hw] at hd
        rcases List.mem_cons.mp hd with rfl | hd
        · cases worked <;> exact ⟨rfl, rfl⟩
        · exact ih _ _ d hd

variable [Interpreter] {cur : Location} {a : Arguments} {t t' : FileTree} {p : Path}
  (taken : List (Path × Path))

theorem fileDeeds_of_holds {source : String} (h : Holds cur t p source) :
    ∃ module, (fileDeeds (disk cur) a taken p).run t =
      (sourceDeeds (disk cur) a taken p source module).run t := by
  obtain ⟨bytes, hbytes, hsource, hskip⟩ := h
  have hread := disk_read cur p t
  rw [hbytes] at hread
  rw [fileDeeds, run_then hread]
  simp only [hsource, hskip, Bool.false_eq_true, if_false]
  cases hmod : nonEmpty? a.module with
  | some module => exact ⟨module, rfl⟩
  | none => exact ⟨_, run_then ((looks_moduleName cur p).run_eq t)⟩

theorem fileDeeds_of_unusable (ha : a.stopAt = none) (h : Unusable cur t p) :
    ∃ d, d.isUnusable = true ∧ d.file? = some p ∧
      (fileDeeds (disk cur) a taken p).run t = (([d], none), t) := by
  have hread := disk_read cur p t
  cases h with
  | unopened h =>
    rw [h] at hread
    refine ⟨.unopened p, rfl, rfl, ?_⟩
    rw [fileDeeds, run_then hread]
    rfl
  | undecoded bytes h hnone =>
    rw [h] at hread
    refine ⟨.undecoded p, rfl, rfl, ?_⟩
    rw [fileDeeds, run_then hread]
    simp only [hnone]
    rfl
  | refused source fault h hfault =>
    obtain ⟨module, hrun⟩ := fileDeeds_of_holds (a := a) taken h
    refine ⟨.refused p fault, rfl, rfl, ?_⟩
    rw [hrun]
    simp only [sourceDeeds, ha, Generate.testModules_error hfault]
    rfl

theorem fileDeeds_of_stops (ha : a.stopAt = none) {e : Failure} (h : Stops cur t p e) :
    (fileDeeds (disk cur) a taken p).run t = (([], some e), t) := by
  obtain ⟨source, reason, h, hreason, rfl, hnone⟩ := h
  obtain ⟨module, hrun⟩ := fileDeeds_of_holds (a := a) taken h
  rw [hrun]
  simp only [sourceDeeds, ha, Generate.testModules_error hreason, failureDeeds, hnone]
  rfl

theorem sourceDeeds_of_ok (ha : a.stopAt = none) {source : String} {n : Node}
    (h : Outline.ofSource source = .ok n) (module : String) :
    ∃ ds t', (sourceDeeds (disk cur) a taken p source module).run t = ((ds, none), t') ∧
      ds.filterMap Deed.file? = [p] ∧ ∀ d ∈ ds, d.isUnusable = false := by
  obtain ⟨ts, ns, hts⟩ := Generate.testModules_ok h module (optionsOf a) p.name
  have hkinds := moduleDeeds_kinds cur a p taken ts t
  rcases hmodules : (moduleDeeds (disk cur) a p taken ts).run t with ⟨ds, t'⟩
  rw [hmodules] at hkinds
  refine ⟨.planned p ns :: ds, t', ?_, ?_, ?_⟩
  · simp only [sourceDeeds, ha, hts]
    exact run_then hmodules
  · have hnil : ds.filterMap Deed.file? = [] :=
      List.filterMap_eq_nil_iff.mpr fun d hd => (hkinds d hd).1
    have hfile : (Deed.planned p ns).file? = some p := rfl
    rw [List.filterMap_cons_some hfile, hnil]
  · intro d hd
    rcases List.mem_cons.mp hd with rfl | hd
    · rfl
    · exact (hkinds d hd).2

theorem fileDeeds_of_usable (ha : a.stopAt = none) (h : ¬ Unusable cur t p)
    (hs : ∀ e, ¬ Stops cur t p e) :
    ∃ ds t', (fileDeeds (disk cur) a taken p).run t = ((ds, none), t') ∧
      ds.filterMap Deed.file? = [p] ∧ ∀ d ∈ ds, d.isUnusable = false := by
  have hread := disk_read cur p t
  cases hbytes : t.content? cur p with
  | none => exact absurd (.unopened hbytes) h
  | some bytes =>
    cases hsource : String.fromUTF8? bytes with
    | none => exact absurd (.undecoded bytes hbytes hsource) h
    | some source =>
      by_cases hskip : Generate.isSkipped source = true
      · refine ⟨[.skipped p], t, ?_, rfl, by simp [Deed.isUnusable]⟩
        rw [hbytes] at hread
        rw [fileDeeds, run_then hread]
        simp only [hsource, hskip, if_true]
        rfl
      · have hholds : Holds cur t p source := ⟨bytes, hbytes, hsource, eq_false_of_ne_true hskip⟩
        cases houtline : Outline.ofSource source with
        | error reason =>
          rcases hholds.unusable_or_stops houtline with hu | hstop
          · exact absurd hu h
          · exact absurd hstop (hs _)
        | ok n =>
          obtain ⟨module, hrun⟩ := fileDeeds_of_holds (a := a) taken hholds
          rw [hrun]
          exact sourceDeeds_of_ok taken ha houtline module

/-- A file that does not stop the run has its deeds, which tell whether it is of use. -/
theorem fileDeeds_of_not_stops (ha : a.stopAt = none) (hs : ∀ e, ¬ Stops cur t p e) :
    ∃ ds t', (fileDeeds (disk cur) a taken p).run t = ((ds, none), t') ∧
      ds.filterMap Deed.file? = [p] ∧ ((∃ d ∈ ds, d.isUnusable = true) ↔ Unusable cur t p) := by
  by_cases h : Unusable cur t p
  · obtain ⟨d, hd, hfile, hrun⟩ := fileDeeds_of_unusable taken ha h
    have hfiles : [d].filterMap Deed.file? = [p] := by simp [hfile]
    exact ⟨[d], t, hrun, hfiles, fun _ => h, fun _ => ⟨d, List.mem_singleton_self d, hd⟩⟩
  · obtain ⟨ds, t', hrun, hfiles, hnone⟩ := fileDeeds_of_usable taken ha h hs
    refine ⟨ds, t', hrun, hfiles, ?_, fun hu => absurd hu h⟩
    rintro ⟨d, hd, hu⟩
    rw [hnone d hd] at hu
    cases hu

end Turn

/-- Whether some file of a list has a property that depends on the files before it. -/
theorem exists_split_cons {α : Type} {P : List α → α → Prop} {x : α} {xs : List α} :
    (∃ pre y post, x :: xs = pre ++ y :: post ∧ P pre y) ↔
      P [] x ∨ ∃ pre y post, xs = pre ++ y :: post ∧ P (x :: pre) y := by
  constructor
  · rintro ⟨pre, y, post, hsplit, hy⟩
    cases pre with
    | nil =>
      obtain ⟨rfl, -⟩ := List.cons.inj hsplit
      exact .inl hy
    | cons z pre =>
      obtain ⟨rfl, hrest⟩ := List.cons.inj hsplit
      exact .inr ⟨pre, y, post, hrest, hy⟩
  · rintro (hx | ⟨pre, y, post, rfl, hy⟩)
    · exact ⟨[], x, xs, rfl, hx⟩
    · exact ⟨x :: pre, y, post, rfl, hy⟩

section Run

variable [Interpreter] {cur : Location} {a : Arguments}

/-- A run goes through all files, or stops at one of them. -/
theorem deeds_end (cur : Location) (ha : a.stopAt = none) (taken : List (Path × Path)) (t : FileTree)
    (files : List Path) :
    (∃ ds t', (deeds (disk cur) a taken files).run t = ((ds, none), t')) ∨
      ∃ pre p post ds t' e, files = pre ++ p :: post ∧
        (deeds (disk cur) a taken pre).run t = ((ds, none), t') ∧ Stops cur t' p e ∧
        (deeds (disk cur) a taken files).run t = ((ds, some e), t') := by
  induction files generalizing taken t with
  | nil => exact .inl ⟨[], t, rfl⟩
  | cons p ps ih =>
    by_cases hs : ∃ e, Stops cur t p e
    · obtain ⟨e, he⟩ := hs
      exact .inr ⟨[], p, ps, [], t, e, rfl, rfl, he,
        deeds_cons_of_stop (fileDeeds_of_stops _ ha he) ps⟩
    · have hnever : ∀ e, ¬ Stops cur t p e := fun e he => hs ⟨e, he⟩
      obtain ⟨ds, t₁, hp, -, -⟩ := fileDeeds_of_not_stops taken ha hnever
      rcases ih (taken ++ ds.filterMap Deed.claim?) t₁ with
        ⟨rest, t', hrest⟩ | ⟨pre, q, post, rest, t', e, rfl, hpre, he, hrest⟩
      · exact .inl ⟨ds ++ rest, t', deeds_cons hp hrest⟩
      · exact .inr ⟨p :: pre, q, post, ds ++ rest, t', e, rfl, deeds_cons hp hpre, he,
          deeds_cons hp hrest⟩

/-- The deeds of a run that goes through all files tell of each of them, and of those that are of no
use at their turn. -/
theorem deeds_files (ha : a.stopAt = none) {taken : List (Path × Path)} {t t' : FileTree}
    {files : List Path} {ds : List Deed}
    (h : (deeds (disk cur) a taken files).run t = ((ds, none), t')) :
    ds.filterMap Deed.file? = files ∧
      ((∃ d ∈ ds, d.isUnusable = true) ↔ ∃ pre p post, files = pre ++ p :: post ∧
        Unusable cur ((deeds (disk cur) a taken pre).run t).2 p) := by
  -- Over all trees, since a file is judged in the tree that those before it left.
  induction files generalizing taken t ds with
  | nil =>
    cases h
    simp
  | cons p ps ih =>
    have hnever : ∀ e, ¬ Stops cur t p e := by
      intro e he
      rw [deeds_cons_of_stop (fileDeeds_of_stops _ ha he)] at h
      cases h
    obtain ⟨xs, t₁, hp, hfile, hunusable⟩ := fileDeeds_of_not_stops taken ha hnever
    rcases hps : (deeds (disk cur) a (taken ++ xs.filterMap Deed.claim?) ps).run t₁ with
      ⟨⟨ys, stop⟩, t₂⟩
    rw [deeds_cons hp hps] at h
    cases h
    obtain ⟨hfiles, hrest⟩ := ih hps
    refine ⟨by rw [List.filterMap_append, hfile, hfiles]; rfl, ?_⟩
    have hturn : ∀ pre, ((deeds (disk cur) a taken (p :: pre)).run t).2 =
        ((deeds (disk cur) a (taken ++ xs.filterMap Deed.claim?) pre).run t₁).2 := by
      intro pre
      rcases hpre : (deeds (disk cur) a (taken ++ xs.filterMap Deed.claim?) pre).run t₁ with
        ⟨⟨zs, stop⟩, t₂⟩
      rw [deeds_cons hp hpre]
    rw [exists_split_cons (P := fun pre q =>
      Unusable cur ((deeds (disk cur) a taken pre).run t).2 q)]
    simp only [hturn, ← hrest, List.mem_append, or_and_right, exists_or]
    exact or_congr hunusable Iff.rfl

/-- A run goes through all files exactly if none of them stops it at its turn. -/
theorem deeds_end_iff (ha : a.stopAt = none) (t : FileTree) (files : List Path) :
    (∃ ds t', (deeds (disk cur) a [] files).run t = ((ds, none), t')) ↔
      ∀ pre p post, files = pre ++ p :: post →
        ∀ e, ¬ Stops cur ((deeds (disk cur) a [] pre).run t).2 p e := by
  constructor
  · rintro ⟨ds, t', hrun⟩ pre p post rfl e he
    rcases hpre : (deeds (disk cur) a [] pre).run t with ⟨⟨xs, _ | e'⟩, t₁⟩
    · rw [hpre] at he
      rw [deeds_append hpre (deeds_cons_of_stop (fileDeeds_of_stops _ ha he) post)] at hrun
      cases hrun
    · rw [deeds_append_of_stop hpre] at hrun
      cases hrun
  · intro hnever
    rcases deeds_end cur ha [] t files with
      hrun | ⟨pre, p, post, ds, t', e, hfiles, hpre, he, -⟩
    · exact hrun
    · refine absurd ?_ (hnever pre p post hfiles e)
      rw [hpre]
      exact he

/-- The code of a run that goes through all files is zero exactly if all of them are of use and all of
their test modules are written. -/
theorem code_eq_zero_iff (ha : a.stopAt = none) {t t' : FileTree} {files : List Path} {ds : List Deed}
    (h : (deeds (disk cur) a [] files).run t = ((ds, none), t')) :
    (Batch.initial.afterAll ds).code = 0 ↔
      (∀ pre p post, files = pre ++ p :: post →
        ¬ Unusable cur ((deeds (disk cur) a [] pre).run t).2 p) ∧
      ∀ d ∈ ds, d.isMissed = false := by
  have hunusable := (deeds_files ha h).2
  rw [(Batch.code_afterAll_initial ds).2]
  constructor
  · intro hall
    refine ⟨fun pre p post hsplit hu => ?_, fun d hd => (hall d hd).2⟩
    obtain ⟨d, hd, hdu⟩ := hunusable.mpr ⟨pre, p, post, hsplit, hu⟩
    rw [(hall d hd).1] at hdu
    cases hdu
  · rintro ⟨hnone, hmissed⟩ d hd
    refine ⟨?_, hmissed d hd⟩
    by_contra hdu
    obtain ⟨pre, p, post, hsplit, hu⟩ := hunusable.mp ⟨d, hd, by simpa using hdu⟩
    exact hnone pre p post hsplit hu

/-- The files before one that is of no use leave the run to it, and it leaves the run to the files
behind it. -/
theorem deeds_around_unusable (ha : a.stopAt = none) {t t₁ t' : FileTree} {pre post : List Path}
    {p : Path} {xs ys : List Deed} {stop : Option Failure}
    (hpre : (deeds (disk cur) a [] pre).run t = ((xs, none), t₁)) (h : Unusable cur t₁ p)
    (hpost : (deeds (disk cur) a (xs.filterMap Deed.claim?) post).run t₁ = ((ys, stop), t')) :
    ∃ d, d.isUnusable = true ∧
      (deeds (disk cur) a [] (pre ++ p :: post)).run t = ((xs ++ d :: ys, stop), t') := by
  obtain ⟨d, hd, -, hp⟩ := fileDeeds_of_unusable (xs.filterMap Deed.claim?) ha h
  obtain ⟨-, -, -, -, hclaim, -⟩ := Deed.effects_of_isUnusable hd
  have hnone : [d].filterMap Deed.claim? = [] := by simp [hclaim]
  have hrest : (deeds (disk cur) a (xs.filterMap Deed.claim?) (p :: post)).run t₁ =
      (([d] ++ ys, stop), t') := by
    refine deeds_cons hp ?_
    rw [hnone, List.append_nil]
    exact hpost
  exact ⟨d, hd, deeds_append hpre hrest⟩

/-- The tree that is there when a run has come through some files. -/
def treeAfter (cur : Location) (a : Arguments) (t : FileTree) (files : List Path) : FileTree :=
  ((runFiles (disk cur) a .initial files).run t).2

theorem treeAfter_eq (t : FileTree) (files : List Path) :
    treeAfter cur a t files = ((deeds (disk cur) a [] files).run t).2 := by
  rw [treeAfter, runFiles_run]
  rfl

/-- A run without a phase to stop at returns exactly if no file stops it at its turn, as one does that is
refused as a whole or that there is no room for. When it returns, it has attempted every file; its code is
at most one, and is zero exactly if every file can be read, decoded and parsed at its turn and every test
module is written. A file that cannot be read, decoded or parsed adds an error and sets the code to one:
without that file, the run leaves the same tree, prints the same modules and takes the same paths. -/
theorem files_isolated (cur : Location) (ha : a.stopAt = none) (t : FileTree) (files : List Path) :
    let r := (runFiles (disk cur) a .initial files).run t
    ((∃ b, r.1 = .ok b) ↔ ∀ pre p post, files = pre ++ p :: post →
      ∀ e, ¬ Stops cur (treeAfter cur a t pre) p e) ∧
    (∀ b, r.1 = .ok b → ∃ ds, (deeds (disk cur) a [] files).run t = ((ds, none), r.2) ∧
      b = Batch.initial.afterAll ds ∧ ds.filterMap Deed.file? = files ∧ b.code ≤ 1 ∧
      (b.code = 0 ↔
        (∀ pre p post, files = pre ++ p :: post → ¬ Unusable cur (treeAfter cur a t pre) p) ∧
        ∀ d ∈ ds, d.isMissed = false)) ∧
    (∀ pre p post, files = pre ++ p :: post → Unusable cur (treeAfter cur a t pre) p →
      let r' := (runFiles (disk cur) a .initial (pre ++ post)).run t
      r'.2 = r.2 ∧ (∀ e, r.1 = .error e → r'.1 = .error e) ∧
      ∀ b, r.1 = .ok b → b.code = 1 ∧ ∃ b' text xs ys, r'.1 = .ok b' ∧ b'.outputs = b.outputs ∧
        b'.written = b.written ∧ b.remarks = xs ++ .error text :: ys ∧ b'.remarks = xs ++ ys) := by
  have hwritten : Batch.initial.written = [] := rfl
  simp only [runFiles_run, hwritten, treeAfter_eq]
  refine ⟨?_, ?_, ?_⟩
  · rw [← deeds_end_iff ha]
    rcases hrun : (deeds (disk cur) a [] files).run t with ⟨⟨ds, _ | e⟩, t'⟩
    · exact ⟨fun _ => ⟨ds, t', rfl⟩, fun _ => ⟨_, rfl⟩⟩
    · constructor
      · rintro ⟨b, hb⟩
        cases hb
      · rintro ⟨ds', t'', h⟩
        cases h
  · intro b hb
    rcases hrun : (deeds (disk cur) a [] files).run t with ⟨⟨ds, _ | e⟩, t'⟩
    · rw [hrun] at hb
      obtain rfl : Batch.initial.afterAll ds = b := Except.ok.inj hb
      exact ⟨ds, rfl, rfl, (deeds_files ha hrun).1, (Batch.code_afterAll_initial ds).1,
        code_eq_zero_iff ha hrun⟩
    · rw [hrun] at hb
      cases hb
  · intro pre p post hfiles hu
    subst hfiles
    rcases hpre : (deeds (disk cur) a [] pre).run t with ⟨⟨xs, _ | e⟩, t₁⟩
    · rw [hpre] at hu
      rcases hpost : (deeds (disk cur) a (xs.filterMap Deed.claim?) post).run t₁ with
        ⟨⟨ys, stop⟩, t'⟩
      obtain ⟨d, hd, hwith⟩ := deeds_around_unusable ha hpre hu hpost
      rw [hwith, deeds_append hpre hpost]
      cases stop with
      | none =>
        refine ⟨rfl, fun e he => (nomatch he), fun b hb => ?_⟩
        obtain rfl : Batch.initial.afterAll (xs ++ d :: ys) = b := Except.ok.inj hb
        obtain ⟨text, hcode, -, houtputs, htaken, hremarks, hothers⟩ :=
          Batch.initial.afterAll_insert_unusable xs ys hd
        exact ⟨hcode, _, text, _, _, rfl, houtputs.symm, htaken.symm, hremarks, hothers⟩
      | some e => exact ⟨rfl, fun e' he => he, fun b hb => (nomatch hb)⟩
    · rw [deeds_append_of_stop hpre, deeds_append_of_stop hpre]
      exact ⟨rfl, fun e' he => he, fun b hb => (nomatch hb)⟩

end Run

/-! A file with an annotation that is a surrogate, and one behind it. -/

def spoiled : Path := ⟨"", ["a.py"]⟩

def good : Path := ⟨"", ["b.py"]⟩

def shelf : FileTree :=
  [(["a.py"], .file Outline.surrogateSource.toUTF8), (["b.py"], .file "class Good:\n    pass\n".toUTF8)]

theorem holds_spoiled : Holds [] shelf spoiled Outline.surrogateSource :=
  ⟨_, rfl, by decide +kernel, by decide +kernel⟩

section

open scoped Interpreter

theorem stops_spoiled : Stops [] shelf spoiled (.outline (.refused (.unencodable 0 0 0xD800))) :=
  ⟨_, _, holds_spoiled, Outline.ofSource_surrogateSource, rfl, rfl⟩

theorem files_isolated_spoiled :
    Arguments.initial.stopAt = none ∧
      ¬ ∃ b, ((runFiles (disk []) .initial .initial [spoiled, good]).run shelf).1 = .ok b := by
  refine ⟨rfl, ?_⟩
  rw [(files_isolated (a := .initial) [] rfl shelf [spoiled, good]).1]
  intro hnever
  exact hnever [] spoiled [good] rfl _ stops_spoiled

/-- A file can end a run before the next one has its turn. -/
theorem run_ended_by_file :
    ¬ ∀ (t : FileTree) (files : List Path),
      ∃ b, ((runFiles (disk []) .initial .initial files).run t).1 = .ok b := by
  intro h
  obtain ⟨b, hb⟩ := h shelf [spoiled, good]
  have hstop := fileDeeds_of_stops (a := .initial) Batch.initial.written rfl stops_spoiled
  rw [runFiles_run, deeds_cons_of_stop hstop] at hb
  cases hb

end

end Cli
end BranchCover
