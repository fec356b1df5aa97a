import BranchCover.Value.Synthesis

/-! A condition is always driven by two values: a literal that stands in a comparison is a number, a
text or a truth value, and each of these has a complement. -/
namespace BranchCover
namespace Property

@[simp] theorem annotated_isLiteral (p : Property) (n : Node) :
    (p.annotated n).isLiteral = p.isLiteral := by
  fun_induction annotated p n with
  | case1 element s q ih => exact ih
  | _ => rfl

theorem declared_isLiteral (n : Node) : (declared n none).isLiteral = false := by
  unfold declared
  cases typing? n <;> simp [unknown]

theorem referenced?_empty (n : Node) : referenced? Scope.empty n = none := by
  simp [referenced?, Scope.lookup, Scope.roots, Scope.empty]

/-- A literal of a sort, with the node that says so. -/
def literal (name : Option String) (node : Node) (c : Category) : Property :=
  ⟨name, some c, none, false, true, false, false, some node⟩

theorem literal?_eq_some {n : Node} {p : Property} (h : literal? n = some p) :
    ∃ node c, p = literal n.name? node c ∧ primitive? node = some c ∧
      (node = n ∨ initializer? n = some node) := by
  unfold literal? at h
  cases hn : primitive? n with
  | some c =>
    simp only [hn, Option.some.injEq] at h
    exact ⟨n, c, h.symm, hn, .inl rfl⟩
  | none =>
    cases hi : initializer? n with
    | none => simp [hn, hi] at h
    | some init =>
      simp only [hn, hi, Option.map_eq_some_iff] at h
      obtain ⟨c, hc, rfl⟩ := h
      exact ⟨init, c, rfl, hc, .inr rfl⟩

theorem ofOperand_of_isLiteral {n : Option Node} (h : (ofOperand n).isLiteral) :
    ∃ name node c, ofOperand n = literal name node c ∧ primitive? node = some c := by
  cases n with
  | none => simp [ofOperand, unknown] at h
  | some n =>
    cases hl : literal? n with
    | none => simp [ofOperand, ofNode, hl, referenced?_empty, declared_isLiteral] at h
    | some p =>
      obtain ⟨node, c, hp, hc, -⟩ := literal?_eq_some hl
      exact ⟨n.name?, node, c, by simp [ofOperand, ofNode, hl, hp], hc⟩

end Property

namespace Value

/-- Two values of one sort, which is a sort that a literal may have. -/
inductive Alike : Value → Value → Prop where
  | numbers (a b : Numeral) : Alike (number a) (number b)
  | texts (s t : Text) : Alike (text s) (text t)
  | booleans (a b : Bool) : Alike (boolean a) (boolean b)

theorem exists_invert {node : Node} {c : Category} (name : Option String)
    (hc : Property.primitive? node = some c) :
    ∃ w, invert (Property.literal name node c) (ofLiteral (Property.literal name node c)) =
      some w ∧ (ofLiteral (Property.literal name node c)).Alike w := by
  unfold Property.primitive? at hc
  split at hc <;> simp only [Option.some.injEq, reduceCtorEq] at hc <;> subst hc
  case h_1 | h_2 => exact ⟨_, rfl, .numbers _ _⟩
  case h_3 | h_4 => exact ⟨_, rfl, .texts _ _⟩
  case h_5 | h_6 => exact ⟨_, rfl, .booleans _ _⟩

end Value

namespace Condition

theorem isLiteral_target {c : Condition} (h : c.literalTarget.found) :
    ∃ n, c.literalTarget.target = Property.ofOperand n ∧ (Property.ofOperand n).isLiteral := by
  unfold literalTarget at h ⊢
  by_cases hr : (Property.ofOperand c.rightNode?).isLiteral
  · exact ⟨c.rightNode?, by simp [hr], hr⟩
  · by_cases hl : (Property.ofOperand c.leftNode?).isLiteral
    · exact ⟨c.leftNode?, by simp [hr, hl], hl⟩
    · simp [hr, hl] at h

/-- Every condition is driven by exactly two values, and they are of one sort. -/
theorem exists_alike_callValues (c : Condition) : ∃ v w, c.callValues = [v, w] ∧ v.Alike w := by
  unfold callValues
  by_cases h : (c.comparison.isSome && c.literalTarget.found) = true
  · have hf : c.literalTarget.found := (Bool.and_eq_true_iff.mp h).2
    obtain ⟨n, hn, hl⟩ := isLiteral_target hf
    obtain ⟨name, node, s, hp, hs⟩ := Property.ofOperand_of_isLiteral hl
    obtain ⟨w, hw, halike⟩ := Value.exists_invert name hs
    exact ⟨Value.ofLiteral (Property.literal name node s), w, by simp [h, hn, hp, hw], halike⟩
  · exact ⟨.boolean true, .boolean false, by simp [h], .booleans true false⟩

theorem exists_callValues (c : Condition) : ∃ v w, c.callValues = [v, w] := by
  obtain ⟨v, w, h, -⟩ := c.exists_alike_callValues
  exact ⟨v, w, h⟩

theorem callValues_ne_nil (c : Condition) : c.callValues ≠ [] := by
  obtain ⟨v, w, h⟩ := c.exists_callValues
  simp [h]

end Condition
end BranchCover
