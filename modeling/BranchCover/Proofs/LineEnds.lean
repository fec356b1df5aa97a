import BranchCover.Proofs.Tables
import BranchCover.Proofs.Words
import BranchCover.Text.Basic
import BranchCover.Text.Word

/-! Line ends. Programs end lines at line feeds and at several other characters, which are all blank. None
of them is printable or may stand in a name. -/
namespace BranchCover
namespace Line

/-- A line may end at the code point. -/
def isEnd (n : Nat) : Bool :=
  (10 ≤ n && n ≤ 13) || (28 ≤ n && n ≤ 30) || n == 0x85 || n == 0x2028 || n == 0x2029

/-- Nothing in the list, which may be a text or the code points of one, is of the sort. -/
def Free {α : Type} (p : α → Bool) (cs : List α) : Prop :=
  ∀ c ∈ cs, p c = false

instance {α : Type} (p : α → Bool) (cs : List α) : Decidable (Free p cs) :=
  List.decidableBAll (fun c => p c = false) cs

/-- The text has no character at which a line may end. -/
abbrev Unbroken (cs : List Char) : Prop :=
  Free (fun c => isEnd c.toNat) cs

/-- A notion of what ends a line: line feeds, and maybe others of the characters at which lines end. -/
structure IsEnding (p : Char → Bool) : Prop where
  feed : p '\n' = true
  isEnd : ∀ c, p c = true → isEnd c.toNat = true

section

variable {α : Type} {p : α → Bool} {cs ds : List α}

@[simp] theorem free_nil : Free p [] :=
  fun _ h => nomatch h

@[simp] theorem free_cons {c : α} : Free p (c :: cs) ↔ p c = false ∧ Free p cs :=
  List.forall_mem_cons

@[simp] theorem free_append : Free p (cs ++ ds) ↔ Free p cs ∧ Free p ds :=
  List.forall_mem_append

theorem Free.subset (h : Free p cs) (hsub : ds ⊆ cs) : Free p ds :=
  fun c hc => h c (hsub hc)

theorem free_flatMap {β : Type} {xs : List β} {f : β → List α} (h : ∀ x ∈ xs, Free p (f x)) :
    Free p (xs.flatMap f) := by
  intro c hc
  obtain ⟨x, hx, hc⟩ := List.mem_flatMap.mp hc
  exact h x hx c hc

end

section

variable {p : Char → Bool} {cs ds : List Char}

theorem IsEnding.free (hp : IsEnding p) (h : Unbroken cs) : Free p cs := by
  intro c hc
  by_contra hend
  have hbroken := hp.isEnd c (by simpa using hend)
  exact Bool.false_ne_true ((h c hc).symm.trans hbroken)

theorem isEnding_isEnd : IsEnding fun c => isEnd c.toNat where
  feed := by decide
  isEnd _ h := h

theorem Free.append {s t : String} (hs : Free p s.toList) (ht : Free p t.toList) :
    Free p (s ++ t).toList := by
  rw [String.toList_append]
  exact free_append.mpr ⟨hs, ht⟩

theorem free_join {sep : List Char} {ts : List (List Char)} (hsep : Free p sep)
    (hts : ∀ t ∈ ts, Free p t) : Free p (Piece.join sep ts) := by
  fun_induction Piece.join sep ts with
  | case1 => exact free_nil
  | case2 t => exact hts t List.mem_cons_self
  | case3 t ts _ ih =>
    have hrest := ih fun u hu => hts u (List.mem_cons_of_mem t hu)
    simp [hts t List.mem_cons_self, hsep, hrest]

theorem free_intercalate {sep : String} {ts : List String} (hsep : Free p sep.toList)
    (hts : ∀ t ∈ ts, Free p t.toList) : Free p (sep.intercalate ts).toList := by
  induction ts with
  | nil => exact free_nil
  | cons t ts ih =>
    have ht := hts t List.mem_cons_self
    have hrest := ih fun u hu => hts u (List.mem_cons_of_mem t hu)
    cases ts with
    | nil => simpa using ht
    | cons u us =>
      rw [String.intercalate_cons_cons]
      exact .append (.append ht hsep) hrest

/-- The lines of a text, where the characters of a sort end lines. What stands behind the last of them is
a line if there is anything. -/
def split (p : Char → Bool) : List Char → List (List Char)
  | [] => []
  | c :: cs =>
    if p c then [] :: split p cs
    else match split p cs with
      | [] => [[c]]
      | l :: ls => (c :: l) :: ls

theorem split_append {c : Char} (hc : p c = true) (hcs : Free p cs) (rest : List Char) :
    split p (cs ++ c :: rest) = cs :: split p rest := by
  induction cs with
  | nil => simp [split, hc]
  | cons d cs ih =>
    obtain ⟨hd, hcs⟩ := free_cons.mp hcs
    simp [split, hd, ih hcs]

/-- Lines that are each ended by a line feed, and have no ends inside, are the lines of the text. -/
theorem split_lines (hp : IsEnding p) {ts : List String} (hts : ∀ t ∈ ts, Free p t.toList) :
    split p (String.join (ts.map (· ++ "\n"))).toList = ts.map String.toList := by
  induction ts with
  | nil => rfl
  | cons t ts ih =>
    have hline := split_append hp.feed (hts t List.mem_cons_self)
      (String.join (ts.map (· ++ "\n"))).toList
    rw [ih fun u hu => hts u (List.mem_cons_of_mem t hu)] at hline
    simpa using hline

end

/-! Characters. -/

theorem isEnd_ofNat {n : Nat} (hn : isEnd n = false) : isEnd (Char.ofNat n).toNat = false := by
  by_cases hvalid : n.isValidChar
  · rw [Char.ofNat, dif_pos hvalid]
    exact hn
  · rw [Char.ofNat, dif_neg hvalid]
    decide

theorem isBlank_of_isEnd {c : Char} (h : isEnd c.toNat = true) : Blank.test c = true := by
  simp only [isEnd, Bool.or_eq_true, Bool.and_eq_true, decide_eq_true_eq, beq_iff_eq] at h
  simp only [Blank.test, Bool.or_eq_true, Bool.and_eq_true, decide_eq_true_eq, beq_iff_eq]
  omega

theorem unbroken_of_singleSpaced {cs : List Char} (h : Blank.SingleSpaced cs) : Unbroken cs := by
  intro c hc
  obtain ⟨a, b, rfl⟩ := List.append_of_mem hc
  by_contra hend
  obtain ⟨rfl, -⟩ := h a c b rfl (isBlank_of_isEnd (by simpa using hend))
  exact hend (by decide)

end Line

/-! Names and printable characters. -/

namespace Ranges

/-- A range lies behind the control characters and does not meet the separators of lines. -/
def isLinear (r : Nat × Nat) : Bool :=
  0x9F < r.1 && (r.2 < 0x2028 || 0x2029 < r.1)

theorem isEnd_of_contains {ranges : Array (Nat × Nat)} (hall : ∀ r ∈ ranges, isLinear r = true)
    {n : Nat} (h : contains ranges n = true) : Line.isEnd n = false := by
  obtain ⟨r, hr, hlo, hhi⟩ := exists_mem_of_contains h
  have hlinear := hall r hr
  simp only [isLinear, Bool.and_eq_true, Bool.or_eq_true, decide_eq_true_eq] at hlinear
  simp only [Line.isEnd, Bool.or_eq_false_iff, Bool.and_eq_false_imp, decide_eq_true_eq,
    decide_eq_false_iff_not, beq_eq_false_iff_ne]
  omega

end Ranges

namespace Word

theorem isLinear_of_mem_startRanges : ∀ r ∈ startRanges, Ranges.isLinear r = true := by
  unfold startRanges
  apply Ranges.all_ofString
  · dsimp only
    repeat' first | exact .nil | apply Ranges.Spelled.cons
  · decide +kernel

theorem isLinear_of_mem_continueRanges : ∀ r ∈ continueRanges, Ranges.isLinear r = true := by
  unfold continueRanges
  apply Ranges.all_ofString
  · dsimp only
    repeat' first | exact .nil | apply Ranges.Spelled.cons
  · decide +kernel

theorem isEnd_of_isAlphanum {c : Char} (h : (c.isAlphanum || c == '_') = true) :
    Line.isEnd c.toNat = false := by
  have hword : 48 ≤ c.toNat ∧ c.toNat ≤ 122 := by
    rcases Bool.or_eq_true_iff.mp h with h | h
    · unfold Char.isAlphanum Char.isAlpha Char.isUpper Char.isLower Char.isDigit at h
      simp only [Bool.or_eq_true, Bool.and_eq_true, decide_eq_true_eq, UInt32.le_iff_toNat_le] at h
      have hvalue : c.val.toNat = c.toNat := rfl
      simp at h
      omega
    · rw [eq_of_beq h]
      decide
  simp only [Line.isEnd, Bool.or_eq_false_iff, Bool.and_eq_false_imp, decide_eq_true_eq,
    decide_eq_false_iff_not, beq_eq_false_iff_ne]
  omega

theorem isEnd_of_isContinue {c : Char} (h : isContinue c = true) : Line.isEnd c.toNat = false := by
  unfold isContinue at h
  split at h
  · exact isEnd_of_isAlphanum h
  · exact Ranges.isEnd_of_contains isLinear_of_mem_continueRanges h

theorem isEnd_of_isStart {c : Char} (h : isStart c = true) : Line.isEnd c.toNat = false := by
  unfold isStart at h
  split at h
  · refine isEnd_of_isAlphanum ?_
    rcases Bool.or_eq_true_iff.mp h with h | h <;> simp [Char.isAlphanum, h]
  · exact Ranges.isEnd_of_contains isLinear_of_mem_startRanges h

end Word

namespace Printable

theorem isLinear_of_mem_ranges : ∀ r ∈ ranges, Ranges.isLinear r = true := by
  unfold ranges
  apply Ranges.all_ofString
  · dsimp only
    repeat' first | exact .nil | apply Ranges.Spelled.cons
  · decide +kernel

theorem isEnd_of_test {n : Nat} (h : test n = true) : Line.isEnd n = false := by
  by_cases hascii : n < 0x80
  · rw [test_ascii hascii, Bool.and_eq_true, decide_eq_true_eq, decide_eq_true_eq] at h
    simp only [Line.isEnd, Bool.or_eq_false_iff, Bool.and_eq_false_imp, decide_eq_true_eq,
      decide_eq_false_iff_not, beq_eq_false_iff_ne]
    omega
  · rw [test, if_neg hascii] at h
    exact Ranges.isEnd_of_contains isLinear_of_mem_ranges h

end Printable
end BranchCover
