import BranchCover.Text.Printable

/-! What the tables of characters hold. A table is read from its written form, and a property of its ranges
is checked on the characters that spell it. No control character and no surrogate is printable. -/
namespace BranchCover
namespace Ranges

/-- The characters that spell texts, one list for each. -/
inductive Spelled : (texts : List String) → (spellings : List (List Char)) → Prop where
  | nil : Spelled [] []
  | cons {texts : List String} {spellings : List (List Char)} (cs : List Char)
      (h : Spelled texts spellings) : Spelled (String.ofList cs :: texts) (cs :: spellings)

theorem Spelled.toList_join {texts : List String} {spellings : List (List Char)}
    (h : Spelled texts spellings) : (String.join texts).toList = spellings.flatten := by
  rw [String.toList_join]
  induction h with
  | nil => rfl
  | cons cs _ ih => rw [List.flatMap_cons, List.flatten_cons, String.toList_ofList, ih]

/-- A property of the ranges of a table is checked on the characters that spell it. -/
theorem all_ofString {p : Nat × Nat → Bool} {texts : List String} {spellings : List (List Char)}
    (h : Spelled texts spellings)
    (hall : ((pieces (· == ' ') spellings.flatten).map range).all p = true) :
    ∀ r ∈ ofString (String.join texts), p r = true := by
  intro r hr
  rw [ofString, h.toList_join, List.mem_toArray] at hr
  exact List.all_eq_true.mp hall r hr

/-- By induction on the fuel: the range before the place that is found starts at or before the number. -/
theorem rank_eq_or_le (a : Array (Nat × Nat)) (n fuel lo hi : Nat) :
    rank a n fuel lo hi = lo ∨ (a.getD (rank a n fuel lo hi - 1) (0, 0)).1 ≤ n := by
  induction fuel generalizing lo hi with
  | zero => exact .inl rfl
  | succ fuel ih =>
    rw [rank]
    split
    · dsimp only
      split
      · rename_i hmid
        rcases ih ((lo + hi) / 2 + 1) hi with hrank | hrank
        · rw [hrank]
          exact .inr hmid
        · exact .inr hrank
      · exact ih lo _
    · exact .inl rfl

theorem exists_mem_of_contains {a : Array (Nat × Nat)} {n : Nat} (h : contains a n = true) :
    ∃ r ∈ a, r.1 ≤ n ∧ n ≤ r.2 := by
  unfold contains find? at h
  have hrank := rank_eq_or_le a n (a.size + 1) 0 a.size
  cases hi : rank a n (a.size + 1) 0 a.size with
  | zero => simp [hi] at h
  | succ i =>
    rw [hi] at h hrank
    have hstart := hrank.resolve_left (Nat.succ_ne_zero i)
    cases hr : a[i]? with
    | none => simp [hr] at h
    | some r =>
      simp only [hr, Option.map_some, decide_eq_true_eq] at h
      rw [Nat.add_sub_cancel, Array.getD_eq_getD_getElem?, hr] at hstart
      exact ⟨r, Array.mem_of_getElem? hr, hstart, h⟩

end Ranges

namespace Printable

/-- A range lies behind the control characters and does not meet the surrogates. -/
def isPlain (r : Nat × Nat) : Bool :=
  0x9F < r.1 && (r.2 < 0xD800 || 0xDFFF < r.1)

theorem isPlain_of_mem_ranges : ∀ r ∈ ranges, isPlain r = true := by
  unfold ranges
  apply Ranges.all_ofString
  · dsimp only
    repeat' first | exact .nil | apply Ranges.Spelled.cons
  · decide +kernel

theorem isPlain_of_test {n : Nat} (h : test n = true) (hn : 0x80 ≤ n) : isPlain (n, n) = true := by
  rw [test, if_neg (Nat.not_lt.mpr hn)] at h
  obtain ⟨r, hr, hlo, hhi⟩ := Ranges.exists_mem_of_contains h
  have hplain := isPlain_of_mem_ranges r hr
  simp only [isPlain, Bool.and_eq_true, Bool.or_eq_true, decide_eq_true_eq] at hplain ⊢
  omega

theorem isValidChar_of_test {n : Nat} (h : test n = true) (hn : n < 0x110000) :
    n.isValidChar ∧ ¬ (n < 0x20 ∨ 0x7F ≤ n ∧ n ≤ 0x9F) := by
  by_cases hascii : n < 0x80
  · rw [test_ascii hascii, Bool.and_eq_true, decide_eq_true_eq, decide_eq_true_eq] at h
    refine ⟨.inl (by omega), by omega⟩
  · have hplain := isPlain_of_test h (Nat.le_of_not_lt hascii)
    simp only [isPlain, Bool.and_eq_true, Bool.or_eq_true, decide_eq_true_eq] at hplain
    refine ⟨?_, by omega⟩
    rcases hplain.2 with hbelow | habove
    · exact .inl hbelow
    · exact .inr ⟨habove, hn⟩

end Printable
end BranchCover
