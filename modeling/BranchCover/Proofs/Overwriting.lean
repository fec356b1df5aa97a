import BranchCover.Proofs.Turns

/-! Which files a run writes. Paths that are taken are never written again, and this is told; but a path
is taken as it is spelled. A file is written once if the paths that are written lead to different places,
as they do when all modules go to one directory or no path goes back up. -/
namespace BranchCover
namespace Cli

open FileTree

namespace Deed

/-- The path at which a test module is to be written. -/
def target? : Deed → Option Path
  | repeated _ _ target _ | unwritten _ _ target | wrote _ _ target => some target
  | _ => none

/-- The source of the module that took the path before. -/
def first? : Deed → Option Path
  | repeated _ _ _ first => some first
  | _ => none

/-- The path that is written, with the text. -/
def wrote? : Deed → Option (Path × String)
  | wrote _ m target => some (target, m.text)
  | _ => none

end Deed

/-- The test module of a file goes where the arguments say, under the name that its class gives it. -/
structure Directed (a : Arguments) (files : List Path) (p : Path) (m : Generate.TestModule)
    (target : Path) : Prop where
  source : p ∈ files
  path : target = targetOf a p (Name.outputFile m.className)

/-- Deeds that lead from one tree to another, when some paths are taken: a module is written, or is not
because its path is taken or because that fails. -/
inductive Logged (cur : Location) (a : Arguments) (files : List Path) :
    List (Path × Path) → FileTree → List Deed → FileTree → Prop where
  | nil (taken : List (Path × Path)) (t : FileTree) : Logged cur a files taken t [] t
  | other {taken : List (Path × Path)} {t t' : FileTree} {ds : List Deed} {d : Deed}
      (hd : d.target? = none) (h : Logged cur a files taken t ds t') :
      Logged cur a files taken t (d :: ds) t'
  | repeated {taken : List (Path × Path)} {t t' : FileTree} {ds : List Deed} {p target first : Path}
      {m : Generate.TestModule} (hdir : Directed a files p m target)
      (htaken : taken.lookup target = some first)
      (h : Logged cur a files taken t ds t') :
      Logged cur a files taken t (.repeated p m target first :: ds) t'
  | unwritten {taken : List (Path × Path)} {t t' : FileTree} {ds : List Deed} {p target : Path}
      {m : Generate.TestModule} (hdir : Directed a files p m target)
      (hfree : taken.lookup target = none)
      (hwrite : t.write cur target m.text.toUTF8 = none)
      (h : Logged cur a files (taken ++ [(target, p)]) (t.paved cur target) ds t') :
      Logged cur a files taken t (.unwritten p m target :: ds) t'
  | wrote {taken : List (Path × Path)} {t t₁ t' : FileTree} {ds : List Deed} {p target : Path}
      {m : Generate.TestModule} (hdir : Directed a files p m target)
      (hfree : taken.lookup target = none)
      (hwrite : t.write cur target m.text.toUTF8 = some t₁)
      (h : Logged cur a files (taken ++ [(target, p)]) t₁ ds t') :
      Logged cur a files taken t (.wrote p m target :: ds) t'

namespace Logged

variable {cur : Location} {a : Arguments} {files : List Path} {taken : List (Path × Path)}
  {t t₁ t' : FileTree} {xs ys ds : List Deed}

theorem claim?_eq_none {d : Deed} (h : d.target? = none) : d.claim? = none := by
  cases d <;> first | rfl | cases h

theorem wrote?_eq_none {d : Deed} (h : d.target? = none) : d.wrote? = none := by
  cases d <;> first | rfl | cases h

theorem append (hx : Logged cur a files taken t xs t₁)
    (hy : Logged cur a files (taken ++ xs.filterMap Deed.claim?) t₁ ys t') :
    Logged cur a files taken t (xs ++ ys) t' := by
  induction hx with
  | nil taken t => simpa using hy
  | other hd h ih =>
    rw [List.filterMap_cons_none (claim?_eq_none hd)] at hy
    exact .other hd (ih hy)
  | repeated hdir htaken h ih => exact .repeated hdir htaken (ih hy)
  | unwritten hdir hfree hwrite h ih =>
    refine .unwritten hdir hfree hwrite (ih ?_)
    rw [List.append_assoc]
    exact hy
  | wrote hdir hfree hwrite h ih =>
    refine .wrote hdir hfree hwrite (ih ?_)
    rw [List.append_assoc]
    exact hy

theorem split (h : Logged cur a files taken t (xs ++ ys) t') :
    ∃ t₁, Logged cur a files taken t xs t₁ ∧
      Logged cur a files (taken ++ xs.filterMap Deed.claim?) t₁ ys t' := by
  induction xs generalizing taken t with
  | nil => exact ⟨t, .nil taken t, by simpa using h⟩
  | cons d xs ih =>
    cases h with
    | other hd h =>
      obtain ⟨t₁, hx, hy⟩ := ih h
      refine ⟨t₁, .other hd hx, ?_⟩
      rw [List.filterMap_cons_none (claim?_eq_none hd)]
      exact hy
    | repeated hdir htaken h =>
      obtain ⟨t₁, hx, hy⟩ := ih h
      exact ⟨t₁, .repeated hdir htaken hx, hy⟩
    | unwritten hdir hfree hwrite h =>
      obtain ⟨t₁, hx, hy⟩ := ih h
      rw [List.append_assoc] at hy
      exact ⟨t₁, .unwritten hdir hfree hwrite hx, hy⟩
    | wrote hdir hfree hwrite h =>
      obtain ⟨t₁, hx, hy⟩ := ih h
      rw [List.append_assoc] at hy
      exact ⟨t₁, .wrote hdir hfree hwrite hx, hy⟩

/-- A module is not written because of its path exactly if that path was taken before, and it is told
for which source. -/
theorem lookup_eq_first? (h : Logged cur a files taken t ds t') {d : Deed} {target : Path}
    (hds : ds = xs ++ d :: ys) (hd : d.target? = some target) :
    (taken ++ xs.filterMap Deed.claim?).lookup target = d.first? := by
  subst hds
  obtain ⟨t₁, -, hy⟩ := h.split
  cases hy with
  | other hnone h =>
    rw [hnone] at hd
    cases hd
  | repeated hdir htaken h =>
    cases hd
    exact htaken
  | unwritten hdir hfree hwrite h =>
    cases hd
    exact hfree
  | wrote hdir hfree hwrite h =>
    cases hd
    exact hfree

theorem nodup_take {target : Path} (hn : (taken.map Prod.fst).Nodup)
    (hfree : taken.lookup target = none) (p : Path) :
    ((taken ++ [(target, p)]).map Prod.fst).Nodup := by
  have hnew : target ∉ taken.map Prod.fst := by
    intro hmem
    obtain ⟨x, hx, hname⟩ := List.mem_map.mp hmem
    have hne := List.lookup_eq_none_iff.mp hfree x hx
    simp [hname] at hne
  rw [List.map_append, List.nodup_append]
  refine ⟨hn, by simp, ?_⟩
  intro x hx y hy
  rw [List.mem_singleton.mp hy]
  exact ne_of_mem_of_not_mem hx hnew

/-- No path is taken twice. -/
theorem nodup_claims (h : Logged cur a files taken t ds t') (hn : (taken.map Prod.fst).Nodup) :
    ((taken ++ ds.filterMap Deed.claim?).map Prod.fst).Nodup := by
  induction h with
  | nil taken t => simpa using hn
  | other hd h ih =>
    rw [List.filterMap_cons_none (claim?_eq_none hd)]
    exact ih hn
  | repeated hdir htaken h ih => exact ih hn
  | @unwritten taken _ _ _ p target _ hdir hfree hwrite h ih =>
    have hall := ih (nodup_take hn hfree p)
    rw [List.append_assoc] at hall
    exact hall
  | @wrote taken _ _ _ _ p target _ hdir hfree hwrite h ih =>
    have hall := ih (nodup_take hn hfree p)
    rw [List.append_assoc] at hall
    exact hall

theorem grows (h : Logged cur a files taken t ds t') : Grows t t' := by
  induction h with
  | nil taken t => exact .refl t
  | other hd h ih => exact ih
  | repeated hdir htaken h ih => exact ih
  | unwritten hdir hfree hwrite h ih => exact (grows_paved _ cur _).trans ih
  | wrote hdir hfree hwrite h ih => exact (grows_write hwrite).trans ih

/-- What is at a place stays there if no later module is written at that place. -/
theorem keeps (h : Logged cur a files taken t ds t') {l : Location} {e : Entry} (he : t.at? l = some e)
    (hother : ∀ w ∈ ds.filterMap Deed.wrote?, t'.locate cur w.1 ≠ some l) : t'.at? l = some e := by
  induction h with
  | nil taken t => exact he
  | other hd h ih =>
    rw [List.filterMap_cons_none (wrote?_eq_none hd)] at hother
    exact ih he hother
  | repeated hdir htaken h ih => exact ih he hother
  | unwritten hdir hfree hwrite h ih => exact ih (at?_pave he) hother
  | wrote hdir hfree hwrite h ih =>
    obtain ⟨k, hk, -, hkeep⟩ := at?_write hwrite
    -- The path still leads to `k` in the last tree, of which `hother` speaks.
    have hne : l ≠ k := by
      rintro rfl
      exact hother _ List.mem_cons_self (h.grows.locate hk)
    exact ih (hkeep l e hne he) fun w hw => hother w (List.mem_cons_of_mem _ hw)

/-- A module that is written stands where its path leads, if no later one is written there. -/
theorem at_place (h : Logged cur a files taken t ds t') {p target : Path} {m : Generate.TestModule}
    (hds : ds = xs ++ .wrote p m target :: ys) :
    ∃ l, t'.locate cur target = some l ∧
      ((∀ w ∈ ys.filterMap Deed.wrote?, t'.locate cur w.1 ≠ some l) →
        t'.at? l = some (.file m.text.toUTF8)) := by
  subst hds
  obtain ⟨t₁, -, hy⟩ := h.split
  cases hy with
  | other hd h => cases hd
  | wrote hdir hfree hwrite h =>
    obtain ⟨l, hl, hat, -⟩ := at?_write hwrite
    exact ⟨l, h.grows.locate hl, fun hother => h.keeps hat hother⟩

theorem nodup_wrote (h : Logged cur a files [] t ds t') :
    ((ds.filterMap Deed.wrote?).map Prod.fst).Nodup := by
  have hsub : List.Sublist ((ds.filterMap Deed.wrote?).map Prod.fst)
      ((ds.filterMap Deed.claim?).map Prod.fst) := by
    clear h
    induction ds with
    | nil => exact List.Sublist.slnil
    | cons d ds ih =>
      cases d with
      | wrote p m target => exact ih.cons_cons target
      | unwritten p m target => exact ih.cons target
      | _ => exact ih
  exact hsub.nodup (h.nodup_claims List.nodup_nil)

end Logged

section Run

variable {cur : Location} {a : Arguments} {files : List Path} {p : Path}

theorem moduleDeeds_logged (hp : p ∈ files) {ts : List Generate.TestModule}
    (hts : ∀ m ∈ ts, m.fileName = Name.outputFile m.className) (taken : List (Path × Path))
    (t : FileTree) :
    Logged cur a files taken t ((moduleDeeds (disk cur) a p taken ts).run t).1
      ((moduleDeeds (disk cur) a p taken ts).run t).2 := by
  induction ts generalizing taken t with
  | nil => exact .nil taken t
  | cons m ts ih =>
    have hdir : Directed a files p m (targetOf a p m.fileName) :=
      ⟨hp, by rw [hts m List.mem_cons_self]⟩
    have hrest := ih fun x hx => hts x (List.mem_cons_of_mem _ hx)
    by_cases hout : a.stdout = true
    · simp only [moduleDeeds, hout, if_true]
      exact .other rfl (hrest taken t)
    · cases hl : taken.lookup (targetOf a p m.fileName) with
      | some first =>
        simp only [moduleDeeds, hout, Bool.false_eq_true, if_false, hl]
        exact .repeated hdir hl (hrest taken t)
      | none =>
        cases hwrite : t.write cur (targetOf a p m.fileName) m.text.toUTF8 with
        | some t₁ =>
          simp only [moduleDeeds, hout, Bool.false_eq_true, if_false, hl,
            run_then (disk_write_of_some hwrite)]
          exact .wrote hdir hl hwrite (hrest _ t₁)
        | none =>
          simp only [moduleDeeds, hout, Bool.false_eq_true, if_false, hl,
            run_then (disk_write_of_none hwrite)]
          exact .unwritten hdir hl hwrite (hrest _ _)

variable [Interpreter]

theorem sourceDeeds_logged (hp : p ∈ files) (taken : List (Path × Path)) (t : FileTree)
    (source module : String) :
    Logged cur a files taken t ((sourceDeeds (disk cur) a taken p source module).run t).1.1
      ((sourceDeeds (disk cur) a taken p source module).run t).2 := by
  have hfailure : ∀ e, Logged cur a files taken t (failureDeeds p e).1 t := by
    intro e
    cases hf : e.fault? with
    | some f =>
      simp only [failureDeeds, hf]
      exact .other rfl (.nil taken t)
    | none =>
      simp only [failureDeeds, hf]
      exact .nil taken t
  cases hstop : a.stopAt with
  | some phase =>
    rcases hr : Generate.dump source phase module (optionsOf a) with ⟨r, ns⟩
    simp only [sourceDeeds, hstop, hr]
    cases r with
    | ok j => exact .other rfl (.nil taken t)
    | error e => exact hfailure e
  | none =>
    rcases hr : Generate.testModules source module (optionsOf a) p.name with ⟨r, ns⟩
    simp only [sourceDeeds, hstop, hr]
    cases r with
    | ok ts => exact .other rfl (moduleDeeds_logged hp (Generate.fileName_of_mem hr) taken t)
    | error e => exact hfailure e

theorem fileDeeds_logged (cur : Location) (a : Arguments) (hp : p ∈ files)
    (taken : List (Path × Path)) (t : FileTree) :
    Logged cur a files taken t ((fileDeeds (disk cur) a taken p).run t).1.1
      ((fileDeeds (disk cur) a taken p).run t).2 := by
  rw [fileDeeds, run_then (disk_read cur p t)]
  cases hbytes : t.content? cur p with
  | none => exact .other rfl (.nil taken t)
  | some bytes =>
    cases hsource : String.fromUTF8? bytes with
    | none =>
      simp only [hsource]
      exact .other rfl (.nil taken t)
    | some source =>
      simp only [hsource]
      by_cases hskip : Generate.isSkipped source = true
      · simp only [hskip, if_true]
        exact .other rfl (.nil taken t)
      · simp only [hskip, if_false, Bool.false_eq_true]
        cases hmod : nonEmpty? a.module with
        | some module => exact sourceDeeds_logged hp taken t source module
        | none =>
          simp only [run_then ((looks_moduleName cur p).run_eq t)]
          exact sourceDeeds_logged hp taken t source _

theorem deeds_logged {ps : List Path} (hps : ps ⊆ files) (taken : List (Path × Path)) (t : FileTree) :
    Logged cur a files taken t ((deeds (disk cur) a taken ps).run t).1.1
      ((deeds (disk cur) a taken ps).run t).2 := by
  induction ps generalizing taken t with
  | nil => exact .nil taken t
  | cons p ps ih =>
    obtain ⟨hmem, hsub⟩ := List.cons_subset.mp hps
    have hx := fileDeeds_logged cur a hmem taken t
    rcases hp : (fileDeeds (disk cur) a taken p).run t with ⟨⟨xs, _ | e⟩, t₁⟩
    · have hrest := ih hsub (taken ++ xs.filterMap Deed.claim?) t₁
      rcases hall : (deeds (disk cur) a (taken ++ xs.filterMap Deed.claim?) ps).run t₁ with
        ⟨⟨ys, stop⟩, t'⟩
      rw [hp] at hx
      rw [hall] at hrest
      rw [deeds_cons hp hall]
      exact hx.append hrest
    · rw [hp] at hx
      rw [deeds_cons_of_stop hp]
      exact hx

end Run

section Places

variable {cur : Location} {a : Arguments} {files : List Path} {taken : List (Path × Path)}
  {t t' : FileTree} {ds : List Deed}

theorem exists_of_mem_wrote {w : Path × String} (hw : w ∈ ds.filterMap Deed.wrote?) :
    ∃ xs p m ys, ds = xs ++ .wrote p m w.1 :: ys ∧ w.2 = m.text := by
  obtain ⟨d, hd, hwrote⟩ := List.mem_filterMap.mp hw
  obtain ⟨xs, ys, hds⟩ := List.append_of_mem hd
  cases d with
  | wrote p m target =>
    cases hwrote
    exact ⟨xs, p, m, ys, hds, rfl⟩
  | _ => cases hwrote

theorem Logged.directed (h : Logged cur a files taken t ds t') {w : Path × String}
    (hw : w ∈ ds.filterMap Deed.wrote?) :
    ∃ p ∈ files, ∃ cls, w.1 = targetOf a p (Name.outputFile cls) := by
  obtain ⟨xs, p, m, ys, rfl, -⟩ := exists_of_mem_wrote hw
  obtain ⟨t₁, -, hy⟩ := h.split
  cases hy with
  | other hd h => cases hd
  | wrote hdir hfree hwrite h => exact ⟨p, hdir.source, m.className, hdir.path⟩

/-- The written paths lead to different places. -/
def Apart (cur : Location) (t : FileTree) (ws : List (Path × String)) : Prop :=
  ∀ w ∈ ws, ∀ x ∈ ws, t.locate cur w.1 = t.locate cur x.1 → w.1 = x.1

theorem nodup_places_iff {ws : List (Path × String)} (hn : (ws.map Prod.fst).Nodup) :
    (ws.map fun w => t.locate cur w.1).Nodup ↔ Apart cur t ws := by
  have hmap : (ws.map fun w => t.locate cur w.1) = (ws.map Prod.fst).map (t.locate cur) := by
    rw [List.map_map]
    rfl
  rw [hmap, List.nodup_map_iff_inj_on hn]
  simp only [List.forall_mem_map]
  rfl

theorem Logged.located (h : Logged cur a files taken t ds t') {w : Path × String}
    (hw : w ∈ ds.filterMap Deed.wrote?) : ∃ l, t'.locate cur w.1 = some l := by
  obtain ⟨xs, p, m, ys, hds, -⟩ := exists_of_mem_wrote hw
  obtain ⟨l, hl, -⟩ := h.at_place hds
  exact ⟨l, hl⟩

/-- If the written paths lead to different places, every module stands in its place. -/
theorem Logged.kept (h : Logged cur a files [] t ds t')
    (happart : Apart cur t' (ds.filterMap Deed.wrote?)) {w : Path × String}
    (hw : w ∈ ds.filterMap Deed.wrote?) :
    ∃ l, t'.locate cur w.1 = some l ∧ t'.at? l = some (.file w.2.toUTF8) := by
  have hn := h.nodup_wrote
  obtain ⟨xs, p, m, ys, hds, htext⟩ := exists_of_mem_wrote hw
  obtain ⟨l, hl, hat⟩ := h.at_place hds
  refine ⟨l, hl, ?_⟩
  rw [htext]
  refine hat fun x hx hxl => ?_
  have hmem : x ∈ ds.filterMap Deed.wrote? := by
    rw [hds, List.filterMap_append]
    exact List.mem_append_right _ (List.mem_cons_of_mem _ hx)
  have hsame : x.1 = w.1 := happart x hmem w hw (hxl.trans hl.symm)
  have hrest : (Deed.wrote p m w.1 :: ys).filterMap Deed.wrote? =
      (w.1, m.text) :: ys.filterMap Deed.wrote? := rfl
  rw [hds, List.filterMap_append, hrest, List.map_append, List.map_cons] at hn
  have hnew := (List.nodup_cons.mp (List.nodup_append.mp hn).2.1).1
  exact hnew (hsame ▸ List.mem_map_of_mem hx)

theorem Logged.apart_of_output (h : Logged cur a files taken t ds t') {dir : String}
    (ha : nonEmpty? a.output = some dir) : Apart cur t' (ds.filterMap Deed.wrote?) := by
  have hplace : ∀ {w : Path × String} {l : Location}, w ∈ ds.filterMap Deed.wrote? →
      t'.locate cur w.1 = some l → ∃ name k, w.1 = (Path.ofString dir).child [name] ∧
        t'.locate cur (.ofString dir) = some k ∧ l = k ++ [name] := by
    intro w l hw hl
    obtain ⟨p, -, cls, hpath⟩ := h.directed hw
    simp only [targetOf, ha] at hpath
    rw [hpath] at hl
    have hup : ((Path.ofString dir).child [Name.outputFile cls]).name ≠ ".." := by
      rw [Path.child_name]
      exact Name.outputFile_ne_up cls
    obtain ⟨k, hk, -, hlast⟩ := locate_in_parent (Path.child_parts_ne_nil _ _) hup hl
    rw [Path.child_parent] at hk
    rw [Path.child_name] at hlast
    exact ⟨_, k, hpath, hk, hlast⟩
  intro w hw x hx hsame
  obtain ⟨l, hl⟩ := h.located hw
  obtain ⟨name, k, hwpath, hk, hwplace⟩ := hplace hw hl
  obtain ⟨name', k', hxpath, hk', hxplace⟩ := hplace hx (hsame ▸ hl)
  have hdir : k = k' := Option.some.inj (hk.symm.trans hk')
  have hname : name = name' := by
    rw [hwplace, hdir] at hxplace
    simpa using hxplace
  rw [hwpath, hxpath, hname]

/-- Modules beside their sources have different places if no path to a source goes back up and all paths
start from one place. -/
theorem Logged.apart_of_plain (h : Logged cur a files taken t ds t') (ha : nonEmpty? a.output = none)
    (hroot : ∀ p ∈ files, ∀ q ∈ files, p.root = q.root) (hup : ∀ p ∈ files, ".." ∉ p.parts) :
    Apart cur t' (ds.filterMap Deed.wrote?) := by
  have hplace : ∀ {w : Path × String} {l : Location}, w ∈ ds.filterMap Deed.wrote? →
      t'.locate cur w.1 = some l → l = base cur w.1 ++ w.1.parts := by
    intro w l hw hl
    obtain ⟨p, hp, cls, hpath⟩ := h.directed hw
    refine locate_of_plain ?_ hl
    rw [hpath]
    simp only [targetOf, ha, Path.child, Path.parent, List.mem_append, List.mem_singleton]
    rintro (hmem | hmem)
    · exact hup p hp ((List.dropLast_sublist _).subset hmem)
    · exact Name.outputFile_ne_up cls hmem.symm
  intro w hw x hx hsame
  obtain ⟨l, hl⟩ := h.located hw
  have hl' : t'.locate cur x.1 = some l := hsame ▸ hl
  obtain ⟨p, hp, cls, hwpath⟩ := h.directed hw
  obtain ⟨q, hq, cls', hxpath⟩ := h.directed hx
  have hroots : w.1.root = x.1.root := by
    rw [hwpath, hxpath]
    simp only [targetOf, ha, Path.child, Path.parent]
    exact hroot p hp q hq
  have hbase : base cur w.1 = base cur x.1 := by simp only [base, hroots]
  have hparts : w.1.parts = x.1.parts := by
    have hall := (hplace hw hl).symm.trans (hplace hx hl')
    rw [hbase] at hall
    exact List.append_cancel_left hall
  exact Path.eq_of_parts hroots hparts

/-- A run takes each path once, and tells of a module whose path is taken for which source it was taken;
its code is one then. A place is written once exactly if the written paths lead to different places, and
then every module stands in its place; in general the last module written at a place stands there. Paths
lead to different places if all modules go to one directory, or if the paths to the sources start from
one place and do not go back up. -/
theorem places_written_once_iff [Interpreter] (cur : Location) (a : Arguments) (files : List Path)
    (t : FileTree) :
    let r := (deeds (disk cur) a [] files).run t
    let writes := r.1.1.filterMap Deed.wrote?
    (runFiles (disk cur) a .initial files).run t = (Batch.initial.ending r.1, r.2) ∧
    (∀ xs d ys target, r.1.1 = xs ++ d :: ys → d.target? = some target →
      (xs.filterMap Deed.claim?).lookup target = d.first?) ∧
    (∀ p m target first, .repeated p m target first ∈ r.1.1 →
      (Batch.initial.afterAll r.1.1).code = 1 ∧
      .error (s!"error: '{target.text}' for {m.className} in {p.text} already written from " ++
        first.text) ∈ (Batch.initial.afterAll r.1.1).remarks) ∧
    (writes.map Prod.fst).Nodup ∧
    ((writes.map fun w => r.2.locate cur w.1).Nodup ↔ Apart cur r.2 writes) ∧
    (Apart cur r.2 writes → ∀ w ∈ writes, ∃ l, r.2.locate cur w.1 = some l ∧
      r.2.at? l = some (.file w.2.toUTF8)) ∧
    (∀ xs p m target ys, r.1.1 = xs ++ .wrote p m target :: ys →
      ∃ l, r.2.locate cur target = some l ∧
        ((∀ w ∈ ys.filterMap Deed.wrote?, r.2.locate cur w.1 ≠ some l) →
          r.2.at? l = some (.file m.text.toUTF8))) ∧
    ((nonEmpty? a.output).isSome ∨
      (∀ p ∈ files, ∀ q ∈ files, p.root = q.root) ∧ (∀ p ∈ files, ".." ∉ p.parts) →
      Apart cur r.2 writes) := by
  intro r writes
  have h : Logged cur a files [] t r.1.1 r.2 := deeds_logged (List.Subset.refl files) [] t
  refine ⟨runFiles_run _ a .initial files t, fun xs d ys target hds hd => h.lookup_eq_first? hds hd,
    ?_, h.nodup_wrote, nodup_places_iff h.nodup_wrote, fun happart w hw => h.kept happart hw,
    fun xs p m target ys hds => h.at_place hds, ?_⟩
  · intro p m target first hmem
    have hsome : r.1.1.any (·.complaint?.isSome) = true := List.any_eq_true.mpr ⟨_, hmem, rfl⟩
    refine ⟨by simp [Batch.afterAll, hsome], ?_⟩
    exact List.mem_append_right _ (List.mem_flatMap.mpr ⟨_, hmem, List.mem_singleton_self _⟩)
  · intro hcases
    cases ha : nonEmpty? a.output with
    | some dir => exact h.apart_of_output ha
    | none =>
      rcases hcases with hsome | ⟨hroot, hup⟩
      · rw [ha] at hsome
        cases hsome
      · exact h.apart_of_plain ha hroot hup

/-- Two spellings of one directory: the second module takes the place of the first. -/
example :
    let modules := do
      let b ← writeAll (disk []) .initial ⟨"", ["pkg", "a.py"]⟩ .initial [⟨"Item", "test_item.py", "a"⟩]
      writeAll (disk []) .initial ⟨"", ["pkg", "..", "pkg", "b.py"]⟩ b [⟨"Item", "test_item.py", "b"⟩]
    let r := modules.run [(["pkg"], .directory)]
    r.1.code = 0 ∧ r.2.content? [] ⟨"", ["pkg", "test_item.py"]⟩ = some "b".toUTF8 := by
  decide +kernel

end Places
end Cli
end BranchCover
