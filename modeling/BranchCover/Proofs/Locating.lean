import BranchCover.Files.Tree

/-! Where paths lead in a tree of files, and how writing changes that. Directories stay directories, so
that a path which leads somewhere keeps leading there, and a file that is written changes its own place
alone. -/
namespace BranchCover

theorem Path.eq_of_parts {p q : Path} (hroot : p.root = q.root) (hparts : p.parts = q.parts) :
    p = q := by
  cases p
  cases q
  simp_all

@[simp] theorem Path.child_parent (p : Path) (name : String) : (p.child [name]).parent = p := by
  simp [child, parent]

@[simp] theorem Path.child_name (p : Path) (name : String) : (p.child [name]).name = name := by
  simp [child, Path.name]

theorem Path.child_parts_ne_nil (p : Path) (name : String) : (p.child [name]).parts ≠ [] := by
  simp [child]

theorem Path.parent_child {p : Path} (hp : p.parts ≠ []) : p.parent.child [p.name] = p := by
  have hlast : p.parts.getLastD "" = p.parts.getLast hp := by
    rw [List.getLastD_eq_getLast?, List.getLast?_eq_some_getLast hp, Option.getD_some]
  have hparts : p.parts.dropLast ++ [p.parts.getLastD ""] = p.parts := by
    rw [hlast, List.dropLast_concat_getLast]
  simp only [child, parent, name, hparts]

namespace FileTree

variable {t t' : FileTree} {l k : Location} {e : Entry} {cur : Location} {p : Path}
  {content : ByteArray}

theorem lookup_put (t : FileTree) (l : Location) (e : Entry) (k : Location) :
    (t.put l e).lookup k = if k = l then some e else t.lookup k := by
  induction t with
  | nil =>
    by_cases h : k = l
    · simp [put, h]
    · have hb : (k == l) = false := by simpa using h
      simp [put, List.lookup_cons, h, hb]
  | cons q t ih =>
    obtain ⟨n, d⟩ := q
    by_cases hn : n = l
    · subst hn
      by_cases h : k = n
      · simp [put, h]
      · have hb : (k == n) = false := by simpa using h
        simp [put, List.lookup_cons, h, hb]
    · by_cases h : k = n
      · have hl : n ≠ l := hn
        simp [put, hn, h]
      · have hb : (k == n) = false := by simpa using h
        simpa [put, List.lookup_cons, hn, hb] using ih

theorem at?_put (hl : l ≠ []) (e : Entry) (k : Location) :
    (t.put l e).at? k = if k = l then some e else t.at? k := by
  by_cases hk : k = []
  · have hne : ([] : Location) ≠ l := hl.symm
    simp [at?, hk, hne]
  · simp [at?, hk, lookup_put]

theorem isDirectory_iff : t.isDirectory l = true ↔ t.at? l = some .directory := by
  unfold isDirectory
  cases h : t.at? l with
  | none => simp
  | some e => cases e <;> simp

theorem ne_nil_of_not_isDirectory (h : t.isDirectory l = false) : l ≠ [] := by
  rintro rfl
  cases h

theorem step_eq_some {name : String} : t.step l name = some k ↔
    t.isDirectory l = true ∧ k = if name = ".." then l.dropLast else l ++ [name] := by
  by_cases hl : t.isDirectory l = true
  · by_cases hn : name = ".."
    · simp only [step, hl, hn]
      exact ⟨fun h => ⟨trivial, (Option.some.inj h).symm⟩, fun h => congrArg some h.2.symm⟩
    · simp only [step, hl, hn, if_false]
      simpa [hn] using eq_comm
  · simp [step, hl]

/-! A path is followed name by name. -/

/-- Where a path starts from. -/
def base (cur : Location) (p : Path) : Location :=
  if p.root == "" then cur else []

theorem locate_child (t : FileTree) (cur : Location) (p : Path) (names : List String) :
    t.locate cur (p.child names) = (t.locate cur p).bind fun l => names.foldlM t.step l := by
  simp only [locate, Path.child, List.foldlM_append]
  rfl

theorem locate_parent (hp : p.parts ≠ []) (h : t.locate cur p = some l) :
    ∃ k, t.locate cur p.parent = some k ∧ t.step k p.name = some l := by
  rw [← Path.parent_child hp, locate_child] at h
  obtain ⟨k, hk, hl⟩ := Option.bind_eq_some_iff.mp h
  have hstep : [p.name].foldlM t.step k = t.step k p.name := by simp
  exact ⟨k, hk, hstep ▸ hl⟩

/-- A path that does not end by going back up leads into the directory before it. -/
theorem locate_in_parent (hp : p.parts ≠ []) (hname : p.name ≠ "..") (h : t.locate cur p = some l) :
    ∃ k, t.locate cur p.parent = some k ∧ t.isDirectory k = true ∧ l = k ++ [p.name] := by
  obtain ⟨k, hk, hstep⟩ := locate_parent hp h
  obtain ⟨hd, hl⟩ := step_eq_some.mp hstep
  rw [if_neg hname] at hl
  exact ⟨k, hk, hd, hl⟩

theorem foldlM_of_plain {names : List String} (hup : ".." ∉ names)
    (h : names.foldlM t.step l = some k) : k = l ++ names := by
  induction names generalizing l with
  | nil => simpa using h.symm
  | cons name names ih =>
    simp only [List.foldlM_cons] at h
    obtain ⟨l', hstep, hrest⟩ := Option.bind_eq_some_iff.mp h
    have hname : name ≠ ".." := fun hn => hup (hn ▸ List.mem_cons_self)
    have hl' : l' = l ++ [name] := by simpa [hname] using (step_eq_some.mp hstep).2
    rw [ih (fun hmem => hup (List.mem_cons_of_mem _ hmem)) hrest, hl', List.append_assoc]
    rfl

theorem locate_of_plain (hup : ".." ∉ p.parts) (h : t.locate cur p = some l) :
    l = base cur p ++ p.parts :=
  foldlM_of_plain hup h

theorem isDirectory_of_foldlM {names : List String} (h : names.foldlM t.step l = some k)
    (hk : t.isDirectory k = true) : t.isDirectory l = true := by
  cases names with
  | nil =>
    have hlk : l = k := by simpa using h
    exact hlk ▸ hk
  | cons name names =>
    simp only [List.foldlM_cons] at h
    obtain ⟨l', hstep, -⟩ := Option.bind_eq_some_iff.mp h
    exact (step_eq_some.mp hstep).1

theorem locate_congr (h : ∀ l, t.isDirectory l = t'.isDirectory l) (cur : Location) (p : Path) :
    t.locate cur p = t'.locate cur p := by
  have hstep : t.step = t'.step := by
    funext l name
    simp only [step, h]
  rw [locate, locate, hstep]

/-! Directories stay. -/

/-- Every directory of the first tree is one of the second. -/
def Grows (t t' : FileTree) : Prop :=
  ∀ l, t.isDirectory l = true → t'.isDirectory l = true

namespace Grows

theorem refl (t : FileTree) : Grows t t := fun _ h => h

theorem trans {t'' : FileTree} (h : Grows t t') (h' : Grows t' t'') : Grows t t'' :=
  fun l hl => h' l (h l hl)

theorem foldlM (h : Grows t t') {names : List String} (hl : names.foldlM t.step l = some k) :
    names.foldlM t'.step l = some k := by
  induction names generalizing l with
  | nil => simpa using hl
  | cons name names ih =>
    simp only [List.foldlM_cons] at hl ⊢
    obtain ⟨l', hstep, hrest⟩ := Option.bind_eq_some_iff.mp hl
    have hstep' : t'.step l name = some l' :=
      step_eq_some.mpr ⟨h l (step_eq_some.mp hstep).1, (step_eq_some.mp hstep).2⟩
    exact Option.bind_eq_some_iff.mpr ⟨l', hstep', ih hrest⟩

theorem locate (h : Grows t t') (hl : t.locate cur p = some l) : t'.locate cur p = some l :=
  h.foldlM hl

end Grows

theorem isDirectory_put_file (h : t.isDirectory l = false) (content : ByteArray) (k : Location) :
    (t.put l (.file content)).isDirectory k = t.isDirectory k := by
  have hat := at?_put (t := t) (ne_nil_of_not_isDirectory h) (.file content) k
  by_cases hk : k = l
  · rw [hk, h]
    simp [isDirectory, hk ▸ hat]
  · simp [isDirectory, hat, hk]

theorem Grows.put_file (h : t.isDirectory l = false) (content : ByteArray) :
    Grows t (t.put l (.file content)) :=
  fun k hk => (isDirectory_put_file h content k).trans hk

/-! Making directories. -/

theorem at?_pave {names : List String} (h : t.at? k = some e) : (t.pave l names).1.at? k = some e := by
  induction names generalizing t l with
  | nil => exact h
  | cons name names ih =>
    rw [pave]
    split
    · exact h
    · rename_i l' hstep
      split
      · exact ih h
      · exact h
      · rename_i hnone
        split
        · exact h
        · refine ih ?_
          have hl' : l' ≠ [] := by
            rintro rfl
            simp [at?] at hnone
          rw [at?_put hl', if_neg]
          · exact h
          · rintro rfl
            rw [hnone] at h
            cases h

theorem grows_pave (t : FileTree) (l : Location) (names : List String) :
    Grows t (t.pave l names).1 :=
  fun _ h => isDirectory_iff.mpr (at?_pave (isDirectory_iff.mp h))

theorem grows_paved (t : FileTree) (cur : Location) (p : Path) : Grows t (t.paved cur p) :=
  grows_pave t _ _

theorem pave_of_isDirectory {names : List String} (h : names.foldlM t.step l = some k)
    (hk : t.isDirectory k = true) : t.pave l names = (t, true) := by
  induction names generalizing l with
  | nil => rfl
  | cons name names ih =>
    simp only [List.foldlM_cons] at h
    obtain ⟨l', hstep, hrest⟩ := Option.bind_eq_some_iff.mp h
    have hl' : t.at? l' = some .directory := isDirectory_iff.mp (isDirectory_of_foldlM hrest hk)
    simp only [pave, hstep, hl']
    exact ih hrest

/-! Writing. -/

/-- A file is written at the place to which its path leads once the directories are made. -/
theorem write_eq_some (h : t.write cur p content = some t') :
    ∃ l, (t.paved cur p).locate cur p = some l ∧ (t.paved cur p).isDirectory l = false ∧
      t' = (t.paved cur p).put l (.file content) := by
  unfold write at h
  obtain ⟨t₁, hmade, h⟩ := Option.bind_eq_some_iff.mp h
  obtain ⟨l, hl, h⟩ := Option.bind_eq_some_iff.mp h
  obtain ⟨-, hmade⟩ := Option.ite_none_right_eq_some.mp hmade
  obtain rfl : t.paved cur p = t₁ := Option.some.inj hmade
  refine ⟨l, hl, ?_⟩
  by_cases hd : (t.paved cur p).isDirectory l = true
  · simp [hd] at h
  · have hd' : (t.paved cur p).isDirectory l = false := by simpa using hd
    by_cases hlong : p.name.utf8ByteSize > nameLimit
    · simp [hlong] at h
    · simp only [hd', hlong, Bool.false_or, decide_false, Bool.false_eq_true, if_false,
        Option.some.injEq] at h
      exact ⟨hd', h.symm⟩

theorem at?_write (h : t.write cur p content = some t') :
    ∃ l, t'.locate cur p = some l ∧ t'.at? l = some (.file content) ∧
      ∀ k e, k ≠ l → t.at? k = some e → t'.at? k = some e := by
  obtain ⟨l, hl, hd, rfl⟩ := write_eq_some h
  have hne : l ≠ [] := ne_nil_of_not_isDirectory hd
  refine ⟨l, (Grows.put_file hd content).locate hl, by simp [at?_put hne], ?_⟩
  intro k e hk he
  have hpaved : (t.paved cur p).at? k = some e := at?_pave he
  rw [at?_put hne, if_neg hk, hpaved]

theorem grows_write (h : t.write cur p content = some t') : Grows t t' := by
  obtain ⟨l, -, hd, rfl⟩ := write_eq_some h
  exact (grows_paved t cur p).trans (.put_file hd content)

theorem write_of_parent (hp : p.parts ≠ []) (hname : p.name ≠ "..")
    (hl : t.locate cur p.parent = some l) (hd : t.isDirectory l = true) (content : ByteArray) :
    t.paved cur p = t ∧ t.write cur p content =
      if t.isDirectory (l ++ [p.name]) || p.name.utf8ByteSize > nameLimit then none
      else some (t.put (l ++ [p.name]) (.file content)) := by
  have hpave : t.pave (base cur p) p.parent.parts = (t, true) := pave_of_isDirectory hl hd
  have hmade : t.makeDirectories (base cur p) p.parent.parts = some t := by
    simp [makeDirectories, hpave]
  have hlocate : t.locate cur p = some (l ++ [p.name]) := by
    rw [← Path.parent_child hp, locate_child, hl]
    simp only [Option.bind_some, List.foldlM_cons, List.foldlM_nil]
    rw [Path.parent_child hp, step_eq_some.mpr ⟨hd, (if_neg hname).symm⟩]
    rfl
  refine ⟨congrArg Prod.fst hpave, ?_⟩
  change (t.makeDirectories (base cur p) p.parent.parts).bind _ = _
  rw [hmade]
  simp only [Option.bind_some]
  change (t.locate cur p).bind _ = _
  rw [hlocate]
  rfl

end FileTree
end BranchCover
