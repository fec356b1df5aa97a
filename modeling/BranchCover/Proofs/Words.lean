import BranchCover.Text.Basic
import Mathlib.Data.List.TakeDrop
import Mathlib.Data.List.TakeWhile

/-! The words of a text. They are told apart by blanks, whichever and however many; so trimming or joining
texts with spaces keeps their words, and a text with one space between words has no other blank. -/
namespace BranchCover
namespace Blank

/-- The text up to the first blank, and the words behind it. -/
def leading (cs : List Char) : List Char × List (List Char) :=
  cs.foldr
    (fun c (r : List Char × List (List Char)) =>
      if test c then ([], if r.1.isEmpty then r.2 else r.1 :: r.2) else (c :: r.1, r.2))
    ([], [])

theorem words_eq (cs : List Char) :
    words cs = if (leading cs).1.isEmpty then (leading cs).2 else (leading cs).1 :: (leading cs).2 := rfl

@[simp] theorem leading_nil : leading [] = ([], []) := rfl

theorem leading_cons_of_blank {c : Char} (h : test c) (cs : List Char) :
    leading (c :: cs) = ([], words cs) := by
  rw [leading, List.foldr_cons, if_pos h]
  rfl

theorem leading_cons {c : Char} (h : test c = false) (cs : List Char) :
    leading (c :: cs) = (c :: (leading cs).1, (leading cs).2) := by
  rw [leading, List.foldr_cons, if_neg (by simp [h])]
  rfl

@[simp] theorem words_nil : words [] = [] := rfl

theorem words_cons_of_blank {c : Char} (h : test c) (cs : List Char) : words (c :: cs) = words cs := by
  rw [words_eq (c :: cs), leading_cons_of_blank h]
  rfl

theorem leading_append_blank (a : List Char) {c : Char} (h : test c) (b : List Char) :
    leading (a ++ c :: b) = ((leading a).1, (leading a).2 ++ words b) := by
  induction a with
  | nil => exact leading_cons_of_blank h b
  | cons x a ih =>
    have hwords : words (a ++ c :: b) = words a ++ words b := by
      rw [words_eq, ih, words_eq a]
      split <;> rfl
    by_cases hx : test x
    · rw [List.cons_append, leading_cons_of_blank hx, leading_cons_of_blank hx, hwords]
    · rw [List.cons_append, leading_cons (by simpa using hx), leading_cons (by simpa using hx), ih]

theorem words_append_blank (a : List Char) {c : Char} (h : test c) (b : List Char) :
    words (a ++ c :: b) = words a ++ words b := by
  rw [words_eq, leading_append_blank a h b, words_eq a]
  split <;> rfl

theorem words_of_blank {cs : List Char} (h : ∀ c ∈ cs, test c) : words cs = [] := by
  induction cs with
  | nil => rfl
  | cons c cs ih =>
    rw [words_cons_of_blank (h c List.mem_cons_self)]
    exact ih fun x hx => h x (List.mem_cons_of_mem _ hx)

theorem words_append_of_blank_left {a : List Char} (h : ∀ c ∈ a, test c) (b : List Char) :
    words (a ++ b) = words b := by
  induction a with
  | nil => rfl
  | cons c a ih =>
    rw [List.cons_append, words_cons_of_blank (h c List.mem_cons_self)]
    exact ih fun x hx => h x (List.mem_cons_of_mem _ hx)

theorem words_append_of_blank_right (a : List Char) {b : List Char} (h : ∀ c ∈ b, test c) :
    words (a ++ b) = words a := by
  cases b with
  | nil => rw [List.append_nil]
  | cons c b =>
    have hrest : words b = [] := words_of_blank fun x hx => h x (List.mem_cons_of_mem _ hx)
    rw [words_append_blank a (h c List.mem_cons_self), hrest, List.append_nil]

/-- A text is blanks, the same text without blanks at its ends, and blanks. -/
theorem exists_trim (cs : List Char) :
    ∃ a b, cs = a ++ trim cs ++ b ∧ (∀ c ∈ a, test c) ∧ ∀ c ∈ b, test c := by
  have hback := List.takeWhile_append_dropWhile (p := test) (l := (cs.dropWhile test).reverse)
  have hinner : cs.dropWhile test = trim cs ++ ((cs.dropWhile test).reverse.takeWhile test).reverse := by
    rw [trim, trimBy, ← List.reverse_append, hback, List.reverse_reverse]
  refine ⟨cs.takeWhile test, ((cs.dropWhile test).reverse.takeWhile test).reverse, ?_, ?_, ?_⟩
  · rw [List.append_assoc, ← hinner, List.takeWhile_append_dropWhile]
  · exact List.all_eq_true.mp List.all_takeWhile
  · exact fun c hc => List.all_eq_true.mp List.all_takeWhile c (List.mem_reverse.mp hc)

theorem words_trim (cs : List Char) : words (trim cs) = words cs := by
  obtain ⟨a, b, hcs, ha, hb⟩ := exists_trim cs
  conv_rhs => rw [hcs, words_append_of_blank_right _ hb, words_append_of_blank_left ha]

theorem words_unwords (ts : List (List Char)) : words (unwords ts) = ts.flatMap words := by
  fun_induction unwords ts with
  | case1 => rfl
  | case2 w => simp
  | case3 w ws hws ih => rw [words_append_blank w (by decide), ih, List.flatMap_cons]

/-- The characters of a text that are not blank. -/
def solid (cs : List Char) : List Char :=
  cs.filter (!test ·)

@[simp] theorem solid_append (a b : List Char) : solid (a ++ b) = solid a ++ solid b :=
  List.filter_append ..

theorem solid_eq_nil_iff {cs : List Char} : solid cs = [] ↔ ∀ c ∈ cs, test c := by
  simp [solid, List.filter_eq_nil_iff]

theorem leading_flatten (cs : List Char) : (leading cs).1 ++ (leading cs).2.flatten = solid cs := by
  induction cs with
  | nil => rfl
  | cons c cs ih =>
    by_cases hc : test c
    · rw [leading_cons_of_blank hc, words_eq, solid, List.filter_cons_of_neg (by simp [hc]), ← solid, ← ih]
      split
      · simp_all
      · rfl
    · rw [leading_cons (by simpa using hc), solid, List.filter_cons_of_pos (by simp [hc]), ← solid, ← ih]
      rfl

theorem words_flatten (cs : List Char) : (words cs).flatten = solid cs := by
  rw [words_eq, ← leading_flatten]
  split
  · simp_all
  · rfl

theorem solid_unwords (ts : List (List Char)) : solid (unwords ts) = solid ts.flatten := by
  fun_induction unwords ts with
  | case1 => rfl
  | case2 w => simp
  | case3 w ws hws ih =>
    have hspace : solid (' ' :: unwords ws) = solid (unwords ws) := List.filter_cons_of_neg (by decide)
    rw [solid_append, hspace, ih, List.flatten_cons, solid_append]

theorem solid_collapse (cs : List Char) : solid (collapse cs) = solid cs := by
  rw [collapse, solid_unwords, words_flatten, solid, solid, List.filter_filter]
  simp

theorem collapse_eq_of_words {a b : List Char} (h : words a = words b) : collapse a = collapse b := by
  rw [collapse, h, collapse]

/-- A run of characters without blanks. -/
def IsWord (w : List Char) : Prop :=
  w ≠ [] ∧ ∀ c ∈ w, test c = false

theorem leading_solid (cs : List Char) :
    (∀ c ∈ (leading cs).1, test c = false) ∧ ∀ w ∈ (leading cs).2, IsWord w := by
  induction cs with
  | nil => simp
  | cons c cs ih =>
    obtain ⟨hfirst, hrest⟩ := ih
    by_cases hc : test c
    · rw [leading_cons_of_blank hc, words_eq]
      refine ⟨by simp, ?_⟩
      split
      · exact hrest
      · rename_i hempty
        exact List.forall_mem_cons.mpr ⟨⟨by simpa using hempty, hfirst⟩, hrest⟩
    · rw [leading_cons (by simpa using hc)]
      exact ⟨List.forall_mem_cons.mpr ⟨by simpa using hc, hfirst⟩, hrest⟩

theorem isWord_of_mem_words {cs w : List Char} (h : w ∈ words cs) : IsWord w := by
  obtain ⟨hfirst, hrest⟩ := leading_solid cs
  rw [words_eq] at h
  split at h
  · exact hrest w h
  · rename_i hempty
    rcases List.mem_cons.mp h with rfl | h
    · exact ⟨by simpa using hempty, hfirst⟩
    · exact hrest w h

/-- Every blank in the text is a space that stands alone between two characters that are not blank. -/
def SingleSpaced (t : List Char) : Prop :=
  ∀ a c b, t = a ++ c :: b → test c →
    c = ' ' ∧ (∃ x, a.getLast? = some x ∧ test x = false) ∧ ∃ y, b.head? = some y ∧ test y = false

theorem IsWord.exists_last {w : List Char} (h : IsWord w) : ∃ x, w.getLast? = some x ∧ test x = false :=
  ⟨w.getLast h.1, List.getLast?_eq_some_getLast h.1, h.2 _ (List.getLast_mem h.1)⟩

theorem exists_head_unwords {ws : List (List Char)} (hne : ws ≠ []) (h : ∀ w ∈ ws, IsWord w) :
    ∃ y, (unwords ws).head? = some y ∧ test y = false := by
  match ws, hne with
  | w :: ws, _ =>
    obtain ⟨hw, hsolid⟩ := h w List.mem_cons_self
    obtain ⟨c, w', rfl⟩ := List.exists_cons_of_ne_nil hw
    cases ws with
    | nil => exact ⟨c, rfl, hsolid c List.mem_cons_self⟩
    | cons w ws => exact ⟨c, rfl, hsolid c List.mem_cons_self⟩

theorem singleSpaced_unwords {ws : List (List Char)} (h : ∀ w ∈ ws, IsWord w) :
    SingleSpaced (unwords ws) := by
  fun_induction unwords ws with
  | case1 =>
    intro a c b ht
    simp at ht
  | case2 w =>
    intro a c b ht hc
    have hsolid := (h w List.mem_cons_self).2 c (by rw [ht]; simp)
    rw [hc] at hsolid
    cases hsolid
  | case3 w ws hws ih =>
    obtain ⟨hw, hrest⟩ := List.forall_mem_cons.mp h
    intro a c b ht hc
    -- the blank stands behind the first word, not inside it
    have hbehind : ∃ a', a = w ++ a' ∧ ' ' :: unwords ws = a' ++ c :: b := by
      rcases List.append_eq_append_iff.mp ht with h | ⟨w', hw', hb⟩
      · exact h
      · cases w' with
        | nil => exact ⟨[], by simpa using hw'.symm, hb.symm⟩
        | cons x w' =>
          obtain ⟨rfl, -⟩ := List.cons.inj hb
          have hsolid := hw.2 c (by rw [hw']; simp)
          rw [hc] at hsolid
          cases hsolid
    obtain ⟨a', rfl, hb⟩ := hbehind
    cases a' with
    | nil =>
      obtain ⟨rfl, rfl⟩ := List.cons.inj hb
      rw [List.append_nil]
      exact ⟨rfl, hw.exists_last, exists_head_unwords (by simpa using hws) hrest⟩
    | cons x a' =>
      rw [List.cons_append] at hb
      obtain ⟨hspace, ⟨y, hy, hsolid⟩, hnext⟩ := ih hrest a' c b (List.cons.inj hb).2 hc
      refine ⟨hspace, ⟨y, ?_, hsolid⟩, hnext⟩
      rw [List.getLast?_append, List.getLast?_cons, hy]
      rfl

theorem singleSpaced_collapse (cs : List Char) : SingleSpaced (collapse cs) :=
  singleSpaced_unwords fun _ => isWord_of_mem_words

end Blank
end BranchCover
