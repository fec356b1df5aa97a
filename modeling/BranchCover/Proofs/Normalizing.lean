import BranchCover.Proofs.LineEnds
import BranchCover.Text.NormalForm

/-! The normal form of a name has no line ends. Its code points are those of the name, parts of them by the
table of decompositions, and composites of these; neither of the tables holds an end of a line. -/
namespace BranchCover

open Line (Free isEnd)

namespace Decomposition

/-- What the entries of a table stand for has a property that is checked on the characters that spell
them. -/
theorem all_entries {α : Type} {p : List Nat → Bool} {q : α → Prop} {f : List Nat → Option α}
    {texts : List String} {spellings : List (List Char)} (h : Ranges.Spelled texts spellings)
    (hall : ((Ranges.pieces (· == ' ') spellings.flatten).map entry).all p = true)
    (hf : ∀ e a, p e = true → f e = some a → q a) :
    ∀ a ∈ (entries (String.join texts)).filterMap f, q a := by
  intro a ha
  obtain ⟨e, he, hea⟩ := List.mem_filterMap.mp ha
  rw [entries, h.toList_join] at he
  exact hf e a (List.all_eq_true.mp hall e he) hea

/-- No code point from the first to the last is an end of a line. -/
def isClear (lo hi : Nat) : Bool :=
  30 < lo && (hi < 0x85 || 0x85 < lo) && (hi < 0x2028 || 0x2029 < lo)

theorem isEnd_of_isClear {lo hi n : Nat} (h : isClear lo hi = true) (hlo : lo ≤ n) (hhi : n ≤ hi) :
    isEnd n = false := by
  simp only [isClear, Bool.and_eq_true, Bool.or_eq_true, decide_eq_true_eq] at h
  simp only [isEnd, Bool.or_eq_false_iff, Bool.and_eq_false_imp, decide_eq_true_eq,
    decide_eq_false_iff_not, beq_eq_false_iff_ne]
  omega

/-- The images of a run are clear of line ends. -/
def isClearRun : List Nat → Bool
  | [lo, hi, image] => isClear image (image + (hi - lo))
  | [_, image] => isClear image image
  | _ => true

/-- Each code point behind the first is clear of line ends. -/
def isClearEntry (e : List Nat) : Bool :=
  (e.drop 1).all fun n => isClear n n

theorem isClear_of_mem_singles : ∀ e ∈ singles, isClear e.2.2 (e.2.2 + (e.2.1 - e.1)) = true := by
  intro e he
  unfold singles at he
  rw [List.mem_toArray] at he
  revert e
  apply all_entries (p := isClearRun) (q := fun r : Nat × Nat × Nat => isClear r.2.2 (r.2.2 + (r.2.1 - r.1)) = true)
  · dsimp only
    repeat' first | exact .nil | apply Ranges.Spelled.cons
  · decide +kernel
  · intro e a he hea
    split at hea
    · obtain rfl := Option.some.inj hea
      exact he
    · obtain rfl := Option.some.inj hea
      simpa [isClearRun] using he
    · cases hea

theorem isEnd_of_mem_longer : ∀ e ∈ longer, ∀ n ∈ e.2, isEnd n = false := by
  intro e he
  unfold longer at he
  rw [List.mem_toArray] at he
  revert e
  apply all_entries (p := isClearEntry) (q := fun r : Nat × List Nat => ∀ n ∈ r.2, isEnd n = false)
  · dsimp only
    repeat' first | exact .nil | apply Ranges.Spelled.cons
  · decide +kernel
  · intro e a he hea n hn
    split at hea
    · obtain rfl := Option.some.inj hea
      exact isEnd_of_isClear (List.all_eq_true.mp he n hn) (Nat.le_refl n) (Nat.le_refl n)
    · cases hea

theorem isEnd_of_mem_composites : ∀ e ∈ composites, isEnd e.2.2 = false := by
  unfold composites
  apply all_entries (p := isClearEntry) (q := fun r : Nat × Nat × Nat => isEnd r.2.2 = false)
  · dsimp only
    repeat' first | exact .nil | apply Ranges.Spelled.cons
  · decide +kernel
  · intro e a he hea
    split at hea
    · obtain rfl := Option.some.inj hea
      exact isEnd_of_isClear (List.all_eq_true.mp he _ (by simp)) (Nat.le_refl _) (Nat.le_refl _)
    · cases hea

end Decomposition

namespace NormalForm

variable {n : Nat}

theorem free_syllableParts (hn : n ≤ 0xD7A3) : Free isEnd (syllableParts n) := by
  have hparts : ∀ k, 0x1100 ≤ k → k < 0x2000 → isEnd k = false := by
    intro k hlo hhi
    have hclear : Decomposition.isClear 0x1100 0x1FFF = true := by decide
    exact Decomposition.isEnd_of_isClear hclear hlo (by omega)
  have hfirst := hparts (0x1100 + (n - 0xAC00) / 588) (by omega) (by omega)
  have hsecond := hparts (0x1161 + (n - 0xAC00) % 588 / 28) (by omega) (by omega)
  have hthird := hparts (0x11A7 + (n - 0xAC00) % 28) (by omega) (by omega)
  unfold syllableParts
  dsimp only
  split <;> simp [hfirst, hsecond, hthird]

theorem mem_insertMark {k : Nat} {marks : List (Nat × Nat)} {x : Nat × Nat}
    (h : x ∈ insertMark n k marks) : x = (n, k) ∨ x ∈ marks := by
  fun_induction insertMark n k marks with
  | case1 => exact .inl (List.mem_singleton.mp h)
  | case2 m j marks _ => simpa using h
  | case3 m j marks _ ih =>
    rcases List.mem_cons.mp h with rfl | h
    · exact .inr List.mem_cons_self
    · exact (ih h).imp_right (List.mem_cons_of_mem _)

theorem fst_mem_of_mem_order {classOf : Nat → Nat} {marks : List (Nat × Nat)} {ns : List Nat}
    {x : Nat × Nat} (h : x ∈ order classOf marks ns) : x ∈ marks ∨ x.1 ∈ ns := by
  induction ns generalizing marks with
  | nil => exact .inl (List.mem_reverse.mp h)
  | cons n ns ih =>
    rw [order] at h
    split at h
    · simp only [List.mem_append, List.mem_reverse, List.mem_cons] at h
      rcases h with h | rfl | h
      · exact .inl h
      · exact .inr List.mem_cons_self
      · rcases ih h with h | h
        · cases h
        · exact .inr (List.mem_cons_of_mem n h)
    · rcases ih h with h | h
      · rcases mem_insertMark h with rfl | h
        · exact .inr List.mem_cons_self
        · exact .inl h
      · exact .inr (List.mem_cons_of_mem n h)

/-! The tables are too long to be computed with. So the two equations are between functions, which are
compared without their tables being read. -/

theorem longerParts_eq : decompose.longerParts = fun n =>
    match Ranges.find? longerStarts n with
    | some (i, lo, _) => if n == lo then (Decomposition.longer.getD i (0, [])).2 else [n]
    | none => [n] := by
  delta decompose.longerParts
  rfl

theorem decompose_eq : decompose = fun n =>
    if n < 0x80 then [n]
    else if 0xAC00 ≤ n && n ≤ 0xD7A3 then syllableParts n
    else
      match Ranges.find? singleStarts n with
      | some (i, lo, hi) =>
        if n ≤ hi then [n - lo + (Decomposition.singles.getD i (0, 0, 0)).2.2]
        else decompose.longerParts n
      | none => decompose.longerParts n := by
  delta decompose
  rfl

theorem find?_cases (a : Array (Nat × Nat)) (n : Nat) : Ranges.find? a n = none ∨
    ∃ i lo hi, Ranges.find? a n = some (i, lo, hi) ∧ a[i]? = some (lo, hi) := by
  cases h : Ranges.find? a n with
  | none => exact .inl rfl
  | some e =>
    obtain ⟨i, lo, hi⟩ := e
    refine .inr ⟨i, lo, hi, rfl, ?_⟩
    unfold Ranges.find? at h
    split at h
    · cases h
    · obtain ⟨r, hr, heq⟩ := Option.map_eq_some_iff.mp h
      obtain ⟨rfl, rfl⟩ := Prod.mk.inj heq
      exact hr

theorem free_longerParts (hn : isEnd n = false) : Free isEnd (decompose.longerParts n) := by
  have hself : Free isEnd [n] := by simp [hn]
  rw [longerParts_eq]
  beta_reduce
  rcases find?_cases longerStarts n with hnone | ⟨i, lo, hi, hfind, hplace⟩
  · rw [hnone]
    exact hself
  · rw [hfind]
    dsimp only
    split
    · simp only [longerStarts, Array.getElem?_map, Option.map_eq_some_iff] at hplace
      obtain ⟨e, he, -⟩ := hplace
      rw [Array.getD_eq_getD_getElem?, he, Option.getD_some]
      exact Decomposition.isEnd_of_mem_longer e (Array.mem_of_getElem? he)
    · exact hself

theorem free_decompose (hn : isEnd n = false) : Free isEnd (decompose n) := by
  rw [decompose_eq]
  beta_reduce
  split
  · simp [hn]
  split
  · rename_i hsyllable
    simp only [Bool.and_eq_true, decide_eq_true_eq] at hsyllable
    exact free_syllableParts hsyllable.2
  rcases find?_cases singleStarts n with hnone | ⟨i, lo, hi, hfind, hplace⟩
  · rw [hnone]
    exact free_longerParts hn
  · rw [hfind]
    dsimp only
    split
    · simp only [singleStarts, Array.getElem?_map, Option.map_eq_some_iff] at hplace
      obtain ⟨e, he, heq⟩ := hplace
      obtain ⟨rfl, rfl⟩ := Prod.mk.inj heq
      have hclear := Decomposition.isClear_of_mem_singles e (Array.mem_of_getElem? he)
      have hend := Decomposition.isEnd_of_isClear (n := n - e.1 + e.2.2) hclear (by omega) (by omega)
      rw [Array.getD_eq_getD_getElem?, he, Option.getD_some]
      simp [hend]
    · exact free_longerParts hn

theorem mem_of_getElem?_insertMany {α β : Type} [BEq α] [LawfulBEq α] [Hashable α] [LawfulHashable α]
    {m : Std.HashMap α β} {l : List (α × β)} {k : α} {v : β} (h : (m.insertMany l)[k]? = some v) :
    (k, v) ∈ l ∨ m[k]? = some v := by
  induction l generalizing m with
  | nil => simpa using h
  | cons e l ih =>
    rw [Std.HashMap.insertMany_cons] at h
    rcases ih h with hmem | hin
    · exact .inl (List.mem_cons_of_mem e hmem)
    · rw [Std.HashMap.getElem?_insert] at hin
      split at hin
      · rename_i hkey
        obtain rfl := eq_of_beq hkey
        obtain rfl := Option.some.inj hin
        exact .inl List.mem_cons_self
      · exact .inr hin

theorem isEnd_composite {a b c : Nat} (h : composite? a b = some c) : isEnd c = false := by
  have hsyllable : ∀ k, 0xAC00 ≤ k → isEnd k = false := by
    intro k hk
    have hclear : Decomposition.isClear 0xAC00 k = true := by simp [Decomposition.isClear]
    exact Decomposition.isEnd_of_isClear hclear hk (Nat.le_refl k)
  unfold composite? at h
  split at h
  · obtain rfl := Option.some.inj h
    exact hsyllable _ (by omega)
  split at h
  · rename_i hparts
    simp only [Bool.and_eq_true, decide_eq_true_eq] at hparts
    obtain rfl := Option.some.inj h
    exact hsyllable _ (by omega)
  · rw [compositeMap, Std.HashMap.ofList_eq_insertMany_empty] at h
    rcases mem_of_getElem?_insertMany h with hmem | hin
    · obtain ⟨e, he, heq⟩ := List.mem_map.mp hmem
      obtain ⟨-, rfl⟩ := Prod.mk.inj heq
      exact Decomposition.isEnd_of_mem_composites e he
    · simp at hin

theorem isEnd_joined {starter : Option Nat} {marks : List (Nat × Nat)} {k c : Nat}
    (h : joined? starter marks n k = some c) : isEnd c = false := by
  unfold joined? at h
  split at h
  · exact isEnd_composite h
  · split at h
    · exact isEnd_composite h
    · cases h
  · cases h

/-- By induction on the code points: one joins the starter before it, stays as a mark, or is the next
starter. -/
theorem free_compose {starter : Option Nat} {marks rest : List (Nat × Nat)}
    (hstarter : ∀ s ∈ starter, isEnd s = false) (hmarks : Free isEnd (marks.map Prod.fst))
    (hrest : Free isEnd (rest.map Prod.fst)) : Free isEnd (compose starter marks rest) := by
  have hkept : ∀ (starter : Option Nat) (marks : List (Nat × Nat)), (∀ s ∈ starter, isEnd s = false) →
      Free isEnd (marks.map Prod.fst) → Free isEnd (starter.toList ++ marks.reverse.map (·.1)) := by
    intro starter marks hstarter hmarks
    refine Line.free_append.mpr ⟨by simpa [Line.Free] using hstarter, ?_⟩
    rw [List.map_reverse]
    exact hmarks.subset (List.reverse_subset.mpr (List.Subset.refl _))
  fun_induction compose starter marks rest with
  | case1 starter marks => exact hkept starter marks hstarter hmarks
  | case2 starter marks n k rest c hjoined ih =>
    exact ih (by simp [isEnd_joined hjoined]) hmarks (Line.free_cons.mp hrest).2
  | case3 starter marks n k rest _ _ ih =>
    obtain ⟨hn, hrest⟩ := Line.free_cons.mp hrest
    exact Line.free_append.mpr ⟨hkept starter marks hstarter hmarks,
      ih (by simpa using hn) Line.free_nil hrest⟩
  | case4 starter marks n k rest _ _ ih =>
    obtain ⟨hn, hrest⟩ := Line.free_cons.mp hrest
    exact ih hstarter (Line.free_cons.mpr ⟨hn, hmarks⟩) hrest

theorem unbroken_ofName {s : String} (h : Line.Unbroken s.toList) :
    Line.Unbroken (ofName s).toList := by
  unfold ofName
  split
  · exact h
  · have hparts : Free isEnd (s.toList.flatMap fun c => decompose c.toNat) :=
      Line.free_flatMap fun c hc => free_decompose (h c hc)
    have hordered : Free isEnd ((order combiningClass []
        (s.toList.flatMap fun c => decompose c.toNat)).map Prod.fst) := by
      intro n hn
      obtain ⟨x, hx, rfl⟩ := List.mem_map.mp hn
      exact hparts _ ((fst_mem_of_mem_order hx).resolve_left List.not_mem_nil)
    have hcomposed : Free isEnd (compose none [] (order combiningClass []
        (s.toList.flatMap fun c => decompose c.toNat))) :=
      free_compose (by simp) Line.free_nil hordered
    dsimp only
    rw [String.toList_ofList]
    intro c hc
    obtain ⟨n, hn, rfl⟩ := List.mem_map.mp hc
    exact Line.isEnd_ofNat (hcomposed n hn)

end NormalForm
end BranchCover
