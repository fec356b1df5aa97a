import BranchCover.Proofs.Turns
import Mathlib.Data.List.Induction

/-! Running twice on directories. A run looks only at what test files have no part in: directories, files
of other names, and sources below a directory. So a second run does what the first one did, to a tree in
which it is done already. -/
namespace BranchCover
namespace FileTree

variable {t t' t'' : FileTree} {l k : Location} {e d : Entry}

/-! Entries that are put one after the other. -/

theorem keys_put (t : FileTree) (l : Location) (e : Entry) :
    (t.put l e).map Prod.fst =
      if l ∈ t.map Prod.fst then t.map Prod.fst else t.map Prod.fst ++ [l] := by
  induction t with
  | nil => simp [put]
  | cons q t ih =>
    obtain ⟨n, d⟩ := q
    by_cases hn : n = l
    · simp [put, hn]
    · have hl : l ≠ n := Ne.symm hn
      simp only [put, hn, if_false, List.map_cons, ih, List.mem_cons, hl, false_or]
      split <;> rfl

theorem put_put (t : FileTree) (l : Location) (e d : Entry) : (t.put l e).put l d = t.put l d := by
  induction t with
  | nil => simp [put]
  | cons q t ih =>
    obtain ⟨n, c⟩ := q
    by_cases hn : n = l
    · simp [put, hn]
    · simp [put, hn, ih]

/-- Entries at different places do not wait for each other, if one place has an entry already. -/
theorem put_comm (hk : k ∈ t.map Prod.fst) (hne : k ≠ l) (e d : Entry) :
    (t.put l e).put k d = (t.put k d).put l e := by
  induction t with
  | nil => simp at hk
  | cons q t ih =>
    obtain ⟨n, c⟩ := q
    by_cases hn : n = l
    · subst hn
      simp [put, hne.symm]
    · by_cases hnk : n = k
      · subst hnk
        simp [put, hn]
      · have hmem : k ∈ t.map Prod.fst := by
          simpa [Ne.symm hnk] using hk
        simp [put, hn, hnk, ih hmem]

def putAll (t : FileTree) (ws : List (Location × ByteArray)) : FileTree :=
  ws.foldl (fun t w => t.put w.1 (.file w.2)) t

theorem putAll_append (t : FileTree) (ws us : List (Location × ByteArray)) :
    t.putAll (ws ++ us) = (t.putAll ws).putAll us :=
  List.foldl_append

theorem mem_keys_put (h : k ∈ t.map Prod.fst) : k ∈ (t.put l e).map Prod.fst := by
  rw [keys_put]
  split
  · exact h
  · exact List.mem_append_left _ h

theorem mem_keys_put_self : l ∈ (t.put l e).map Prod.fst := by
  rw [keys_put]
  split
  · assumption
  · exact List.mem_append_right _ (List.mem_singleton_self l)

theorem mem_keys_putAll {ws : List (Location × ByteArray)} (h : k ∈ t.map Prod.fst) :
    k ∈ (t.putAll ws).map Prod.fst := by
  induction ws generalizing t with
  | nil => exact h
  | cons w ws ih => exact ih (mem_keys_put h)

theorem mem_keys_putAll_of_mem {ws : List (Location × ByteArray)} {w : Location × ByteArray}
    (hw : w ∈ ws) : w.1 ∈ (t.putAll ws).map Prod.fst := by
  induction ws generalizing t with
  | nil => simp at hw
  | cons x ws ih =>
    rcases List.mem_cons.mp hw with rfl | hw
    · change w.1 ∈ ((t.put w.1 (.file w.2)).putAll ws).map Prod.fst
      exact mem_keys_putAll mem_keys_put_self
    · exact ih hw

/-- An entry is lost if another comes to its place later, whatever comes between. -/
theorem put_putAll_put {ws : List (Location × ByteArray)}
    (hws : ∀ w ∈ ws, w.1 ∈ t.map Prod.fst) (e : Entry) :
    ((t.put l e).putAll ws).put l e = (t.putAll ws).put l e := by
  induction ws generalizing t with
  | nil => exact put_put t l e e
  | cons w ws ih =>
    have hw : w.1 ∈ t.map Prod.fst := hws w List.mem_cons_self
    have hrest : ∀ x ∈ ws, x.1 ∈ (t.put w.1 (.file w.2)).map Prod.fst := fun x hx =>
      mem_keys_put (hws x (List.mem_cons_of_mem _ hx))
    have hstep := ih hrest
    by_cases hl : w.1 = l
    · subst hl
      change (((t.put w.1 e).put w.1 (.file w.2)).putAll ws).put w.1 e = _
      rw [put_put]
      rfl
    · rw [← put_comm hw hl] at hstep
      exact hstep

theorem putAll_putAll (t : FileTree) (ws : List (Location × ByteArray)) :
    (t.putAll ws).putAll ws = t.putAll ws := by
  -- The last file stays; in the second round the files before it come to their places again.
  induction ws using List.reverseRecOn with
  | nil => rfl
  | append_singleton ws w ih =>
    have hlast : ∀ s : FileTree, s.putAll (ws ++ [w]) = (s.putAll ws).put w.1 (.file w.2) := fun s =>
      putAll_append s ws [w]
    rw [hlast, hlast, put_putAll_put (fun x hx => mem_keys_putAll_of_mem hx), ih]

/-! Trees that differ in test files alone. -/

/-- Both trees have the same directories, the same entries but for test files, and the same sources below
each place. -/
structure Alike (t t' : FileTree) : Prop where
  directories : ∀ l, t.isDirectory l = t'.isDirectory l
  entries : ∀ l, (Path.mk "" l).isTest = false → t.at? l = t'.at? l
  sources : ∀ l, (t.below l).filter Cli.isSource = (t'.below l).filter Cli.isSource

/-- Test files that can be written. -/
def Fits (t : FileTree) (ws : List (Location × ByteArray)) : Prop :=
  ∀ w ∈ ws, (Path.mk "" w.1).isTest = true ∧ t.isDirectory w.1 = false

namespace Alike

theorem refl (t : FileTree) : Alike t t :=
  ⟨fun _ => rfl, fun _ _ => rfl, fun _ => rfl⟩

theorem trans (h : Alike t t') (h' : Alike t' t'') : Alike t t'' where
  directories l := (h.directories l).trans (h'.directories l)
  entries l hl := (h.entries l hl).trans (h'.entries l hl)
  sources l := (h.sources l).trans (h'.sources l)

theorem fits (h : Alike t t') {ws : List (Location × ByteArray)} (hws : Fits t ws) : Fits t' ws :=
  fun w hw => ⟨(hws w hw).1, (h.directories w.1) ▸ (hws w hw).2⟩

end Alike

theorem below_eq (t : FileTree) (l : Location) : t.below l = (t.map Prod.fst).filterMap fun k =>
    if l.isPrefixOf k && k != l then some (k.drop l.length) else none := by
  rw [List.filterMap_map]
  rfl

theorem isSource_drop (htest : (Path.mk "" l).isTest = true) (n : Nat) :
    Cli.isSource (l.drop n) = false := by
  by_cases hn : n < l.length
  · have hlast : (l.drop n).getLastD "" = l.getLastD "" := by
      rw [List.getLastD_eq_getLast?, List.getLastD_eq_getLast?, List.getLast?_drop, if_neg (by omega)]
    have hsame : (Path.mk "" (l.drop n)).isTest = true := by
      simpa only [Path.isTest, Path.name, hlast] using htest
    simp [Cli.isSource, hsame]
  · have hnil : l.drop n = [] := List.drop_eq_nil_of_le (by omega)
    rw [hnil]
    decide

theorem alike_put (htest : (Path.mk "" l).isTest = true) (hd : t.isDirectory l = false)
    (content : ByteArray) : Alike t (t.put l (.file content)) where
  directories k := (isDirectory_put_file hd content k).symm
  entries k hk := by
    have hne : k ≠ l := by
      rintro rfl
      rw [htest] at hk
      cases hk
    rw [at?_put (ne_nil_of_not_isDirectory hd), if_neg hne]
  sources k := by
    rw [below_eq, below_eq, keys_put]
    by_cases hmem : l ∈ t.map Prod.fst
    · rw [if_pos hmem]
    · rw [if_neg hmem, List.filterMap_append, List.filter_append]
      simp [isSource_drop htest]

theorem alike_putAll {ws : List (Location × ByteArray)} (h : Fits t ws) : Alike t (t.putAll ws) := by
  induction ws generalizing t with
  | nil => exact .refl t
  | cons w ws ih =>
    obtain ⟨htest, hd⟩ := h w List.mem_cons_self
    have hput := alike_put htest hd w.2
    exact hput.trans (ih (hput.fits fun x hx => h x (List.mem_cons_of_mem _ hx)))

/-- A path by a name that is neither one of a test file nor the way back up. -/
structure Ordinary (p : Path) : Prop where
  parts : p.parts ≠ []
  name : p.name ≠ ".."
  isTest : p.isTest = false

theorem Alike.locate (h : Alike t t') (cur : Location) (p : Path) :
    t.locate cur p = t'.locate cur p :=
  locate_congr h.directories cur p

theorem Alike.entry? (h : Alike t t') (cur : Location) {p : Path} (hp : Ordinary p) :
    t.entry? cur p = t'.entry? cur p := by
  rw [FileTree.entry?, FileTree.entry?, ← h.locate]
  cases hl : t.locate cur p with
  | none => rfl
  | some l =>
    obtain ⟨k, -, -, hplace⟩ := locate_in_parent hp.parts hp.name hl
    have hname : (Path.mk "" l).name = p.name := by simp [hplace, Path.name]
    have htest : (Path.mk "" l).isTest = false := by
      have hp' := hp.isTest
      simp only [Path.isTest] at hp' ⊢
      rw [hname]
      exact hp'
    exact h.entries l htest

theorem Alike.content? (h : Alike t t') (cur : Location) {p : Path} (hp : Ordinary p) :
    t.content? cur p = t'.content? cur p := by
  rw [FileTree.content?, FileTree.content?, h.entry? cur hp]

end FileTree

namespace Cli

open FileTree

/-- Whatever test files there are besides those of a tree, the action returns the same and writes the
same test files. -/
def Steady {α : Type} (t : FileTree) (x : StateM FileTree α) : Prop :=
  ∃ ws, Fits t ws ∧ ∀ t', Alike t t' → x.run t' = ((x.run t).1, t'.putAll ws)

namespace Steady

variable {t : FileTree} {α β : Type}

theorem of_run {x : StateM FileTree α} {r : α} {ws : List (Location × ByteArray)} (hws : Fits t ws)
    (h : ∀ t', Alike t t' → x.run t' = (r, t'.putAll ws)) : Steady t x := by
  refine ⟨ws, hws, fun t' ht => ?_⟩
  rw [h t' ht, h t (.refl t)]

theorem of_looks {x : StateM FileTree α} (hx : Looks x)
    (h : ∀ t', Alike t t' → (x.run t').1 = (x.run t).1) : Steady t x := by
  refine of_run (r := (x.run t).1) (List.forall_mem_nil _) fun t' ht => ?_
  rw [hx.run_eq t', h t' ht]
  rfl

theorem pure (a : α) : Steady t (Pure.pure a : StateM FileTree α) :=
  of_looks (.pure a) fun _ _ => rfl

theorem bind {x : StateM FileTree α} {f : α → StateM FileTree β} (hx : Steady t x)
    (hf : Steady t (f (x.run t).1)) : Steady t (x >>= f) := by
  obtain ⟨ws, hws, hrun⟩ := hx
  obtain ⟨us, hus, hrest⟩ := hf
  have hall : Fits t (ws ++ us) := by
    intro w hw
    rcases List.mem_append.mp hw with hw | hw
    · exact hws w hw
    · exact hus w hw
  -- What `f` starts from has the test files of `x` in it, so it is alike only to `t`.
  refine of_run (r := ((f (x.run t).1).run t).1) hall fun t' ht => ?_
  have hafter : Alike t (t'.putAll ws) := ht.trans (alike_putAll (ht.fits hws))
  rw [run_then (hrun t' ht), hrest _ hafter, putAll_append]

/-- A second run does what the first one did, and leaves the tree as it is. -/
theorem run_again {x : StateM FileTree α} (h : Steady t x) :
    x.run (x.run t).2 = x.run t ∧ Alike t (x.run t).2 := by
  obtain ⟨ws, hws, hrun⟩ := h
  have hfirst := hrun t (.refl t)
  have halike : Alike t (x.run t).2 := by
    rw [hfirst]
    exact alike_putAll hws
  refine ⟨?_, halike⟩
  have hsecond := hrun _ halike
  rw [hsecond, hfirst]
  simp only [putAll_putAll]

end Steady

section Program

variable {t : FileTree} {cur : Location} {a : Arguments} {p : Path}

theorem steady_isPresent (hp : Ordinary p) : Steady t ((disk cur).isPresent p) := by
  refine .of_looks (fun _ => rfl) fun t' ht => ?_
  change (t'.entry? cur p).isSome = (t.entry? cur p).isSome
  rw [ht.entry? cur hp]

theorem steady_read (hp : Ordinary p) : Steady t ((disk cur).read p) := by
  have hlooks : Looks ((disk cur).read p) := fun s => by rw [disk_read]
  refine .of_looks hlooks fun t' ht => ?_
  rw [disk_read, disk_read, ht.content? cur hp]

theorem ordinary_init (dir : Path) : Ordinary (dir.child ["__init__.py"]) where
  parts := dir.child_parts_ne_nil _
  name := by simp
  isTest := by
    rw [Path.isTest, Path.child_name]
    decide

theorem steady_packages (root : String) (reversed : List String) :
    Steady t (packages (disk cur) root reversed) := by
  induction reversed with
  | nil =>
    refine (steady_isPresent (ordinary_init ⟨root, []⟩)).bind ?_
    split <;> exact .pure _
  | cons name outer ih =>
    refine (steady_isPresent (ordinary_init _)).bind ?_
    split
    · exact ih.bind (.pure _)
    · exact .pure _

theorem steady_moduleName (p : Path) : Steady t (moduleName (disk cur) p) := by
  have habsolute : Steady t ((disk cur).absolute p) := .of_looks (fun _ => rfl) fun _ _ => rfl
  exact habsolute.bind ((steady_packages _ _).bind (.pure _))

theorem write_of_alike {file : String} {k : Location} (hk : t.locate cur p = some k)
    (hd : t.isDirectory k = true) (hfile : (Path.mk "" [file]).isTest = true) (content : ByteArray)
    {t' : FileTree} (ht : Alike t t') :
    t'.paved cur (p.child [file]) = t' ∧ t'.write cur (p.child [file]) content =
      if t.isDirectory (k ++ [file]) || file.utf8ByteSize > nameLimit then none
      else some (t'.put (k ++ [file]) (.file content)) := by
  have hup : (p.child [file]).name ≠ ".." := by
    rw [Path.child_name]
    rintro rfl
    exact absurd hfile (by decide)
  have hk' : t'.locate cur (p.child [file]).parent = some k := by
    rw [Path.child_parent, ← ht.locate, hk]
  have hd' : t'.isDirectory k = true := by rw [← ht.directories, hd]
  have hall := write_of_parent (p.child_parts_ne_nil file) hup hk' hd' content
  rw [Path.child_name, ← ht.directories] at hall
  exact hall

theorem steady_write {file : String} {k : Location} (hk : t.locate cur p = some k)
    (hd : t.isDirectory k = true) (hfile : (Path.mk "" [file]).isTest = true) (content : ByteArray) :
    Steady t ((disk cur).write (p.child [file]) content) := by
  by_cases hfail : (t.isDirectory (k ++ [file]) || decide (file.utf8ByteSize > nameLimit)) = true
  · refine .of_run (r := false) (List.forall_mem_nil _) fun t' ht => ?_
    obtain ⟨hpaved, hnone⟩ := write_of_alike hk hd hfile content ht
    rw [if_pos hfail] at hnone
    rw [disk_write_of_none hnone, hpaved]
    rfl
  · have hfits : Fits t [(k ++ [file], content)] := by
      intro w hw
      rw [List.mem_singleton.mp hw]
      constructor
      · simpa [Path.isTest, Path.name] using hfile
      · by_contra hdir
        exact hfail (by simp [hdir])
    refine .of_run (r := true) hfits fun t' ht => ?_
    obtain ⟨-, hsome⟩ := write_of_alike hk hd hfile content ht
    rw [if_neg hfail] at hsome
    exact disk_write_of_some hsome

theorem steady_writeAll (ha : nonEmpty? a.output = none) {k : Location}
    (hk : t.locate cur p.parent = some k) (hd : t.isDirectory k = true)
    {ts : List Generate.TestModule} (hts : ∀ m ∈ ts, m.fileName = Name.outputFile m.className)
    (b : Batch) : Steady t (writeAll (disk cur) a p b ts) := by
  induction ts generalizing b with
  | nil => exact .pure b
  | cons m ts ih =>
    have hrest := ih fun x hx => hts x (List.mem_cons_of_mem _ hx)
    have hfile : (Path.mk "" [m.fileName]).isTest = true := by
      rw [hts m List.mem_cons_self]
      exact Name.isTest_outputFile _
    have htarget : targetOf a p m.fileName = p.parent.child [m.fileName] := by
      simp only [targetOf, ha]
    by_cases hout : a.stdout = true
    · simp only [writeAll, hout, if_true]
      exact hrest _
    · cases hl : b.written.lookup (p.parent.child [m.fileName]) with
      | some first =>
        simp only [writeAll, hout, Bool.false_eq_true, if_false, htarget, hl]
        exact hrest _
      | none =>
        simp only [writeAll, hout, Bool.false_eq_true, if_false, htarget, hl]
        refine (steady_write hk hd hfile _).bind ?_
        split
        · exact hrest _
        · exact hrest _

theorem steady_runSource [Interpreter] (ha : nonEmpty? a.output = none) {k : Location}
    (hk : t.locate cur p.parent = some k) (hd : t.isDirectory k = true) (b : Batch)
    (source module : String) : Steady t (runSource (disk cur) a b p source module) := by
  cases hstop : a.stopAt with
  | some phase =>
    rcases hr : Generate.dump source phase module (optionsOf a) with ⟨r, ns⟩
    simp only [runSource, hstop, hr]
    cases r with
    | ok j => exact .pure _
    | error e => cases hf : e.fault? <;> simp only [hf] <;> exact .pure _
  | none =>
    rcases hr : Generate.testModules source module (optionsOf a) p.name with ⟨r, ns⟩
    simp only [runSource, hstop, hr]
    cases r with
    | ok ts => exact (steady_writeAll ha hk hd (Generate.fileName_of_mem hr) _).bind (.pure _)
    | error e => cases hf : e.fault? <;> simp only [hf] <;> exact .pure _

theorem parent_of_content (hp : Ordinary p) {bytes : ByteArray} (h : t.content? cur p = some bytes) :
    ∃ k, t.locate cur p.parent = some k ∧ t.isDirectory k = true := by
  cases hl : t.locate cur p with
  | none => simp [FileTree.content?, FileTree.entry?, hl] at h
  | some l =>
    obtain ⟨k, hk, hd, -⟩ := locate_in_parent hp.parts hp.name hl
    exact ⟨k, hk, hd⟩

theorem steady_runFile [Interpreter] (ha : nonEmpty? a.output = none) (hp : Ordinary p) (b : Batch) :
    Steady t (runFile (disk cur) a b p) := by
  refine (steady_read hp).bind ?_
  rw [disk_read]
  cases hcontent : t.content? cur p with
  | none => exact .pure _
  | some bytes =>
    cases hsource : sourceOf p (some bytes) with
    | error e => exact .pure _
    | ok source =>
      obtain ⟨k, hk, hd⟩ := parent_of_content hp hcontent
      by_cases hskip : Generate.isSkipped source = true
      · simp only [hskip, if_true]
        exact .pure _
      · simp only [hskip, Bool.false_eq_true, if_false]
        cases hmod : nonEmpty? a.module with
        | some module => exact steady_runSource ha hk hd b source module
        | none => exact (steady_moduleName p).bind (steady_runSource ha hk hd b source _)

theorem steady_runFiles [Interpreter] (ha : nonEmpty? a.output = none) {files : List Path}
    (hfiles : ∀ p ∈ files, Ordinary p) (b : Batch) :
    Steady t (runFiles (disk cur) a b files) := by
  induction files generalizing b with
  | nil => exact .pure _
  | cons p ps ih =>
    refine (steady_runFile ha (hfiles p List.mem_cons_self) b).bind ?_
    split
    · exact ih (fun q hq => hfiles q (List.mem_cons_of_mem _ hq)) _
    · exact .pure _

theorem ordinary_child (p : Path) {way : List String} (h : isSource way = true) :
    Ordinary (p.child way) := by
  have hway : way ≠ [] := by
    rintro rfl
    exact absurd h (by decide)
  have hname : (p.child way).name = way.getLastD "" := by
    simp [Path.child, Path.name, List.getLastD_eq_getLast?, List.getLast?_append_of_ne_nil _ hway]
  have hsource := h
  simp only [isSource, Bool.and_eq_true, Bool.not_eq_true'] at hsource
  refine ⟨by simp [Path.child, hway], ?_, ?_⟩
  · intro hup
    rw [hname] at hup
    have hsuffix := hsource.1.1
    rw [hup] at hsuffix
    exact absurd hsuffix (by decide)
  · have htest := hsource.1.2
    simp only [Path.isTest, hname] at htest ⊢
    exact htest

theorem disk_isDirectory (cur : Location) (p : Path) (t : FileTree) :
    ((disk cur).isDirectory p).run t = ((t.locate cur p).any t.isDirectory, t) := by
  simp only [disk, StateT.run_bind, StateT.run_get, pure_bind, FileTree.entry?]
  cases t.locate cur p <;> rfl

theorem disk_below (cur : Location) (p : Path) (t : FileTree) :
    ((disk cur).below p).run t = (((t.locate cur p).map t.below).getD [], t) := by
  simp only [disk, StateT.run_bind, StateT.run_get, pure_bind]
  cases t.locate cur p <;> rfl

/-- The sources below the directory to which a text leads. -/
def sourcesAt (t : FileTree) (cur : Location) (raw : String) : List Path :=
  sourcesBelow (.ofString raw) (((t.locate cur (.ofString raw)).map t.below).getD [])

theorem discover_run {raws : List String}
    (hdirs : ∀ w ∈ raws, (t.locate cur (.ofString w)).any t.isDirectory = true) :
    (discover (disk cur) raws).run t = (raws.flatMap (sourcesAt t cur), t) := by
  induction raws with
  | nil => rfl
  | cons raw raws ih =>
    have hrest := ih fun w hw => hdirs w (List.mem_cons_of_mem _ hw)
    rw [discover, run_then (disk_isDirectory cur _ t)]
    simp only [hdirs raw List.mem_cons_self, if_true, pure_bind]
    rw [run_then (disk_below cur _ t), run_then hrest]
    rfl

theorem sourcesAt_eq {t' : FileTree} (ht : Alike t t') (raw : String) :
    sourcesAt t' cur raw = sourcesAt t cur raw := by
  rw [sourcesAt, sourcesAt, ht.locate]
  cases t'.locate cur (.ofString raw) with
  | none => rfl
  | some l => simp only [sourcesBelow, Option.map_some, Option.getD_some, ht.sources]

theorem ordinary_of_mem_sourcesAt {raw : String} (hp : p ∈ sourcesAt t cur raw) : Ordinary p := by
  obtain ⟨way, hway, rfl⟩ := List.mem_map.mp (List.mem_mergeSort.mp hp)
  exact ordinary_child _ (List.mem_filter.mp hway).2

theorem any_isDirectory_of_entry? (h : t.entry? cur p = some .directory) :
    (t.locate cur p).any t.isDirectory = true := by
  obtain ⟨l, hl, hat⟩ := Option.bind_eq_some_iff.mp h
  rw [hl]
  exact isDirectory_iff.mpr hat

theorem steady_discover {raws : List String}
    (hdirs : ∀ w ∈ raws, t.entry? cur (.ofString w) = some .directory) :
    Steady t (discover (disk cur) raws) ∧
      ∀ p ∈ ((discover (disk cur) raws).run t).1, Ordinary p := by
  have hrun : ∀ t', Alike t t' →
      (discover (disk cur) raws).run t' = (raws.flatMap (sourcesAt t cur), t') := by
    intro t' ht
    have hsame : sourcesAt t' cur = sourcesAt t cur := funext fun raw => sourcesAt_eq ht raw
    have hdirectories : t'.isDirectory = t.isDirectory := (funext ht.directories).symm
    rw [discover_run, hsame]
    intro w hw
    rw [← ht.locate, hdirectories]
    exact any_isDirectory_of_entry? (hdirs w hw)
  refine ⟨.of_run (List.forall_mem_nil _) hrun, fun p hp => ?_⟩
  · rw [hrun t (.refl t)] at hp
    obtain ⟨raw, -, hp⟩ := List.mem_flatMap.mp hp
    exact ordinary_of_mem_sourcesAt hp

theorem steady_run [Interpreter] {words : List String} (hread : Arguments.read words = .ok a)
    (hdirs : ∀ w ∈ a.paths, t.entry? cur (.ofString w) = some .directory)
    (ha : nonEmpty? a.output = none) (input : ByteArray) :
    Steady t (run (disk cur) (pure input) words) := by
  obtain ⟨hdiscover, hordinary⟩ := steady_discover hdirs
  rw [run, hread]
  by_cases hpaths : a.paths.isEmpty = true
  · simp only [hpaths, if_true]
    exact .pure _
  · simp only [hpaths, Bool.false_eq_true, if_false]
    refine hdiscover.bind ?_
    split
    · exact .pure _
    · split
      · exact .pure _
      · refine (steady_runFiles ha hordinary _).bind ?_
        split
        · exact .pure _
        · split <;> exact .pure _

/-- A run on directories that writes beside the sources can be repeated: the second run finds the same
sources, ends in the same way with the same reports, and leaves the tree as the first one left it. What
the first run changes are test files, which are never among the sources. -/
theorem run_repeatable [Interpreter] {words : List String} (hread : Arguments.read words = .ok a)
    (hdirs : ∀ w ∈ a.paths, t.entry? cur (.ofString w) = some .directory)
    (ha : nonEmpty? a.output = none) (input : ByteArray) :
    let first := (run (disk cur) (pure input) words).run t
    let files := ((discover (disk cur) a.paths).run t).1
    ((discover (disk cur) a.paths).run first.2).1 = files ∧
      (∀ p ∈ files, p.isTest = false ∧ FileTree.entry? first.2 cur p = t.entry? cur p) ∧
      (∀ l, first.2.at? l ≠ t.at? l → (Path.mk "" l).isTest = true) ∧
      (run (disk cur) (pure input) words).run first.2 = first := by
  intro first files
  obtain ⟨hagain, halike⟩ := (steady_run hread hdirs ha input).run_again
  obtain ⟨hdiscover, hordinary⟩ := steady_discover hdirs
  obtain ⟨ws, -, hsame⟩ := hdiscover
  refine ⟨?_, fun p hp => ⟨(hordinary p hp).isTest, (halike.entry? cur (hordinary p hp)).symm⟩, ?_,
    hagain⟩
  · rw [hsame first.2 halike]
  · intro l hl
    by_contra htest
    exact hl (halike.entries l (eq_false_of_ne_true htest)).symm

end Program

def project : FileTree :=
  [(["d"], .directory), (["d", "a.py"], .file "class Good:\n    pass\n".toUTF8)]

open scoped Interpreter in
theorem run_repeatable_project :
    let first := (run (disk []) (pure .empty) ["d"]).run project
    ((discover (disk []) ["d"]).run first.2).1 = [⟨"", ["d", "a.py"]⟩] ∧
      (run (disk []) (pure .empty) ["d"]).run first.2 = first := by
  intro first
  have hread : Arguments.read ["d"] = .ok { Arguments.initial with paths := ["d"] } := rfl
  have hdirs : ∀ w ∈ ["d"], project.entry? [] (.ofString w) = some .directory := by
    intro w hw
    rw [List.mem_singleton.mp hw]
    rfl
  have hfiles : ((discover (disk []) ["d"]).run project).1 = [⟨"", ["d", "a.py"]⟩] := by
    decide +kernel
  obtain ⟨hsame, -, -, hagain⟩ := run_repeatable hread hdirs rfl .empty
  exact ⟨hsame.trans hfiles, hagain⟩

end Cli
end BranchCover
