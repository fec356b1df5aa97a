import BranchCover.Proofs.CallValues
import BranchCover.Proofs.Except
import BranchCover.Scenario.Basic

/-! Which values have a text. A value that drives a condition has one unless it is an integer of too
many digits, and the values that a test makes up always have one. A use of the method under test has a
text if its arguments do. -/
namespace BranchCover

theorem Numeral.tooLong_iff (n : Int) :
    tooLong n = true ↔ digitLimit < (Nat.toDigits 10 n.natAbs).length := by
  have h := Nat.length_toDigits_le_iff (b := 10) (n := n.natAbs) (k := digitLimit) (by decide)
    (by decide)
  rw [← Nat.not_le, h, Nat.not_lt, tooLong, decide_eq_true_iff, Nat.pow_eq]

namespace Value

def Renders (v : Value) : Prop := ∃ t, v.sourceText = .ok t

instance (v : Value) : Decidable v.Renders :=
  match h : v.sourceText with
  | .ok t => .isTrue ⟨t, h⟩
  | .error _ => .isFalse (by simp [Renders, h])

/-- The value is an integer with more decimal digits than are written. -/
def Overlong (v : Value) : Prop :=
  ∃ n : Int, v = int n ∧ Numeral.digitLimit < (Nat.toDigits 10 n.natAbs).length

theorem sourceText_of_overlong {v : Value} (h : v.Overlong) :
    v.sourceText = .error .tooManyDigits := by
  obtain ⟨n, rfl, hn⟩ := h
  have hlong := (Numeral.tooLong_iff n).mpr hn
  simp [sourceText, source, int, numberSource, hlong]
  rfl

theorem number_renders {n : Numeral} (h : ¬ (number n).Overlong) : (number n).Renders := by
  cases n with
  | int n =>
    have hshort : Numeral.tooLong n = false := by
      rw [← Bool.not_eq_true, Numeral.tooLong_iff]
      exact fun hn => h ⟨n, rfl, hn⟩
    exact ⟨String.ofList (Numeral.intText n), by
      simp [sourceText, source, numberSource, hshort]; rfl⟩
  | real x =>
    cases hx : x.isFinite
    · exact ⟨_, by simp [sourceText, source, numberSource, hx]; rfl⟩
    · exact ⟨_, by simp [sourceText, source, numberSource, hx]; rfl⟩

theorem text_renders (t : Text) : (text t).Renders := ⟨_, rfl⟩

theorem boolean_renders (b : Bool) : (boolean b).Renders := ⟨_, rfl⟩

theorem objectStub_renders (name : String) : (objectStub name).Renders := ⟨_, rfl⟩

theorem placeholder_renders (p : Property) : (placeholder p).Renders := by
  unfold placeholder
  split
  · split <;> split
    · exact ⟨_, rfl⟩
    · exact objectStub_renders _
    · exact ⟨_, rfl⟩
    · exact ⟨_, rfl⟩
  · split
    · exact ⟨_, rfl⟩
    · exact ⟨_, rfl⟩

theorem make_renders (p : Property) : (make p).Renders := by
  unfold make
  split
  · split <;> decide +kernel
  · split <;> decide +kernel
  · split <;> decide +kernel
  · exact placeholder_renders p

theorem Alike.symm {v w : Value} (h : v.Alike w) : w.Alike v := by
  cases h with
  | numbers a b => exact .numbers b a
  | texts s t => exact .texts t s
  | booleans a b => exact .booleans b a

theorem Alike.renders {v w : Value} (h : v.Alike w) (hv : ¬ v.Overlong) : v.Renders := by
  cases h with
  | numbers a b => exact number_renders hv
  | texts s t => exact text_renders s
  | booleans a b => exact boolean_renders a

end Value

/-- A value that drives a condition has a text, unless it has too many digits. -/
theorem Condition.renders_iff_of_mem {c : Condition} {v : Value} (h : v ∈ c.callValues) :
    v.Renders ↔ ¬ v.Overlong := by
  constructor
  · rintro ⟨t, ht⟩ hlong
    rw [Value.sourceText_of_overlong hlong] at ht
    cases ht
  · intro hshort
    obtain ⟨a, b, hab, halike⟩ := c.exists_alike_callValues
    simp only [hab, List.mem_cons, List.not_mem_nil, or_false] at h
    rcases h with rfl | rfl
    · exact halike.renders hshort
    · exact halike.symm.renders hshort

namespace Argument

theorem source_ok {a : Argument} (h : a.value.Renders) : ∃ t, a.source = .ok t := by
  obtain ⟨t, ht⟩ := h
  exact ⟨_, by rw [source, ht]; rfl⟩

end Argument

theorem Invocation.source_ok {i : Invocation} (h : ∀ a ∈ i.args, a.value.Renders) :
    ∃ t, i.source = .ok t := by
  obtain ⟨ts, hts⟩ := mapM_ok fun a ha => Argument.source_ok (h a ha)
  unfold source
  rw [hts]
  cases hi : i.access with
  | none => exact ⟨_, rfl⟩
  | some access =>
    cases access with
    | get => exact ⟨_, rfl⟩
    | delete => exact ⟨_, rfl⟩
    | set =>
      cases ha : i.args with
      | nil => exact ⟨_, rfl⟩
      | cons a as =>
        obtain ⟨t, ht⟩ := h a (by simp [ha])
        exact ⟨_, by simp only [List.head?_cons, bind, Except.bind, ht]; rfl⟩

end BranchCover
