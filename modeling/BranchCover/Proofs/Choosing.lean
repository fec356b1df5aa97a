import BranchCover.Suite.Emit
import Mathlib.Data.List.Nodup
import Mathlib.Data.List.Perm.Subperm

/-! How the names of test functions are chosen. The candidates of a method are tried in order until one is
not taken. They are distinct, so that the search ends within as many steps as there are names taken, and a
name that was given is taken from then on. -/
namespace BranchCover
namespace Name

/-- The search for a name that is not taken: from candidate `n` on it ends at candidate `m`. -/
inductive Search (base : String) (taken : List String) : (n m : Nat) → Prop where
  | found {n : Nat} (h : candidate base n ∉ taken) : Search base taken n n
  | next {n m : Nat} (h : candidate base n ∈ taken) (hrest : Search base taken (n + 1) m) :
      Search base taken n m

variable {base : String} {taken : List String}

theorem candidate_succ_ne (base : String) (n : Nat) : candidate base (n + 1) ≠ base := by
  intro h
  have hlength := congrArg String.length h
  have hmark : 0 < "_".length := by decide
  simp only [candidate, String.length_append, toString] at hlength
  omega

theorem candidate_injective (base : String) : Function.Injective (candidate base) := by
  intro m n h
  cases m with
  | zero =>
    cases n with
    | zero => rfl
    | succ n => exact absurd h.symm (candidate_succ_ne base n)
  | succ m =>
    cases n with
    | zero => exact absurd h (candidate_succ_ne base m)
    | succ n =>
      have hnumber : (m + 2).repr = (n + 2).repr := by
        have hchars := congrArg String.toList h
        simp only [candidate, String.toList_append, List.append_cancel_left_eq, String.toList_inj] at hchars
        exact hchars
      rw [Nat.repr_eq_ofList_toDigits, Nat.repr_eq_ofList_toDigits, String.ofList_inj] at hnumber
      simpa using congrArg (Nat.ofDigitChars 10 · 0) hnumber

theorem exists_candidate_not_mem (base : String) (taken : List String) :
    ∃ n ≤ taken.length, candidate base n ∉ taken := by
  by_contra hall
  have hsubset : (List.range (taken.length + 1)).map (candidate base) ⊆ taken := by
    intro name hname
    obtain ⟨n, hn, rfl⟩ := List.mem_map.mp hname
    by_contra hfree
    exact hall ⟨n, Nat.lt_succ_iff.mp (List.mem_range.mp hn), hfree⟩
  have hdistinct := List.nodup_range.map (candidate_injective base) (l := List.range (taken.length + 1))
  have hlength := (List.subperm_of_subset hdistinct hsubset).length_le
  rw [List.length_map, List.length_range] at hlength
  exact absurd hlength (Nat.not_succ_le_self _)

theorem exists_fresh_eq (base : String) (taken : List String) :
    ∃ n ≤ taken.length, fresh base taken = candidate base n ∧ candidate base n ∉ taken ∧
      ∀ m < n, candidate base m ∈ taken := by
  obtain ⟨k, hk, hfree⟩ := exists_candidate_not_mem base taken
  have hsome : ((List.range (taken.length + 1)).find?
      fun n => !taken.contains (candidate base n)).isSome := by
    rw [List.find?_isSome]
    exact ⟨k, List.mem_range.mpr (Nat.lt_succ_of_le hk), by simpa using hfree⟩
  obtain ⟨n, hn⟩ := Option.isSome_iff_exists.mp hsome
  obtain ⟨hnfree, hrange, hbefore⟩ := List.find?_range_eq_some.mp hn
  refine ⟨n, Nat.lt_succ_iff.mp (List.mem_range.mp hrange), ?_, by simpa using hnfree, ?_⟩
  · have hchosen : ((List.range (taken.length + 1)).map (candidate base)).find? (!taken.contains ·) =
        some (candidate base n) := by
      rw [List.find?_map]
      exact congrArg _ hn
    rw [fresh, hchosen]
    rfl
  · intro m hm
    simpa using hbefore m hm

theorem fresh_not_mem (base : String) (taken : List String) : fresh base taken ∉ taken := by
  obtain ⟨n, -, hfresh, hfree, -⟩ := exists_fresh_eq base taken
  rwa [hfresh]

theorem Search.after {n k : Nat} (hfree : candidate base (n + k) ∉ taken)
    (htaken : ∀ m < n + k, candidate base m ∈ taken) : Search base taken n (n + k) := by
  induction k generalizing n with
  | zero => exact .found hfree
  | succ k ih =>
    have hsucc : n + 1 + k = n + (k + 1) := by omega
    rw [← hsucc] at hfree htaken ⊢
    exact .next (htaken n (by omega)) (ih hfree htaken)

theorem Search.unique {n m m' : Nat} (h : Search base taken n m) (h' : Search base taken n m') : m = m' := by
  induction h with
  | found hfree =>
    cases h' with
    | found => rfl
    | next htaken => exact absurd htaken hfree
  | next htaken _ ih =>
    cases h' with
    | found hfree => exact absurd htaken hfree
    | next _ hrest => exact ih hrest

/-- The search for the name of a method ends, at the name that is chosen. -/
theorem exists_search (method : String) (taken : List String) :
    ∃ n ≤ taken.length, Search (testBase method) taken 0 n ∧
      testName method taken = candidate (testBase method) n := by
  obtain ⟨n, hn, hfresh, hfree, hbefore⟩ := exists_fresh_eq (testBase method) taken
  have hsearch : Search (testBase method) taken 0 (0 + n) :=
    .after (by rwa [Nat.zero_add]) (by rwa [Nat.zero_add])
  rw [Nat.zero_add] at hsearch
  exact ⟨n, hn, hsearch, hfresh⟩

theorem isPrefix_testName (method : String) (taken : List String) :
    "test_".toList <+: (testName method taken).toList := by
  obtain ⟨n, -, -, hname⟩ := exists_search method taken
  have hbase : "test_".toList <+: (testBase method).toList := by
    rw [testBase, String.toList_append]
    exact List.prefix_append _ _
  have hcandidate : (testBase method).toList <+: (candidate (testBase method) n).toList := by
    cases n with
    | zero => exact List.prefix_rfl
    | succ n =>
      simp only [candidate, String.toList_append, List.append_assoc]
      exact List.prefix_append _ _
  rw [hname]
  exact hbase.trans hcandidate

/-- The names of the test functions of methods, one after the other. -/
def testNames : (taken : List String) → (methods : List String) → List String
  | _, [] => []
  | taken, m :: ms => testName m taken :: testNames (testName m taken :: taken) ms

@[simp] theorem length_testNames (taken methods : List String) :
    (testNames taken methods).length = methods.length := by
  induction methods generalizing taken with
  | nil => rfl
  | cons m ms ih => simp [testNames, ih]

theorem getElem?_testNames (taken methods : List String) (k : Nat) :
    (testNames taken methods)[k]? = methods[k]?.map fun m =>
      testName m (((testNames taken methods).take k).reverse ++ taken) := by
  induction methods generalizing taken k with
  | nil => rfl
  | cons m ms ih =>
    cases k with
    | zero => rfl
    | succ k =>
      have hrest := ih (testName m taken :: taken) k
      simpa [testNames] using hrest

/-- By induction on the methods: a name that is given is taken from then on. -/
theorem nodup_testNames {taken : List String} (h : taken.Nodup) (methods : List String) :
    (taken ++ testNames taken methods).Nodup := by
  induction methods generalizing taken with
  | nil => simpa [testNames] using h
  | cons m ms ih =>
    have htaken : (testName m taken :: taken).Nodup :=
      List.nodup_cons.mpr ⟨fresh_not_mem (testBase m) taken, h⟩
    have hall := ih htaken
    rw [List.cons_append] at hall
    exact (List.perm_middle.nodup_iff).mpr hall

theorem isPrefix_of_mem_testNames {taken methods : List String} {name : String}
    (h : name ∈ testNames taken methods) : "test_".toList <+: name.toList := by
  induction methods generalizing taken with
  | nil => cases h
  | cons m ms ih =>
    rcases List.mem_cons.mp h with rfl | h
    · exact isPrefix_testName m taken
    · exact ih h

end Name

namespace Suite

open Emission

/-- The test functions are written under the names that are chosen for their methods. -/
theorem emitMethods_eq (o : Options) (taken : List String) (ts : List MethodTests) :
    emitMethods o taken ts = ((Name.testNames taken (ts.map MethodTests.name)).zip ts).forM (fun p => do
      blank
      emitMethod o p.1 p.2) := by
  induction ts generalizing taken with
  | nil => rfl
  | cons t ts ih =>
    rw [emitMethods, ih]
    exact (bind_assoc ..).symm

/-- For each method the search for the name of its test function ends, and that is the name under which the
function is written. The names are distinct from each other and from that of the first function. -/
theorem test_names_distinct (o : Options) (ts : List MethodTests) :
    let names := Name.testNames ["test_should_create"] (ts.map MethodTests.name)
    emitMethods o ["test_should_create"] ts = (names.zip ts).forM (fun p => do
      blank
      emitMethod o p.1 p.2) ∧
    names.length = ts.length ∧
    (∀ k (t : MethodTests), ts[k]? = some t → ∃! n, n ≤ k + 1 ∧
      Name.Search (Name.testBase t.name) ((names.take k).reverse ++ ["test_should_create"]) 0 n ∧
      names[k]? = some (Name.candidate (Name.testBase t.name) n)) ∧
    ("test_should_create" :: names).Nodup ∧
    ∀ name ∈ names, "test_".toList <+: name.toList := by
  intro names
  refine ⟨emitMethods_eq o _ ts, by simp [names], ?_, ?_, fun name => Name.isPrefix_of_mem_testNames⟩
  · intro k t ht
    obtain ⟨n, hn, hsearch, hname⟩ :=
      Name.exists_search t.name ((names.take k).reverse ++ ["test_should_create"])
    have hlength : (names.take k).length ≤ k := List.length_take_le k names
    simp only [List.length_append, List.length_reverse, List.length_singleton] at hn
    refine ⟨n, ⟨by omega, hsearch, ?_⟩, fun m hm => hm.2.1.unique hsearch⟩
    rw [Name.getElem?_testNames, List.getElem?_map, ht, ← hname]
    rfl
  · exact Name.nodup_testNames (List.nodup_singleton _) _

end Suite
end BranchCover
