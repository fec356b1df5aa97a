import BranchCover.Proofs.Outcome
import Mathlib.Data.List.Infix

/-! What a condition comes to where names and attributes hold values, and which conditions come to both
outcomes at the two values that drive them. The second value is the next number, or the text behind a
mark: an order tells it from the first on one side only, and a text is found in what it is part of but
not in the other direction. -/
namespace BranchCover

open Source (Relation)

namespace Numeral

/-- A test of the order of two numbers, where both are finite. -/
def ordered? (test : Int → Int → Bool) (a b : Numeral) : Option Bool := do
  let x ← a.units?
  let y ← b.units?
  pure (test x y)

/-- The least positive number is the unit, so that integers have a common factor. -/
theorem exists_factor : ∃ k : Int, 0 < k ∧ ∀ n, (int n).units? = some (n * k) :=
  have hpos : ∀ e, 0 < Nat.pow 2 e := fun _ => Nat.pow_pos Nat.two_pos
  ⟨_, Int.natCast_pos.mpr (hpos 1074), fun _ => rfl⟩

theorem int_equals_int (a b : Int) : (int a).equals (int b) = decide (a = b) := by
  obtain ⟨k, hk, hunits⟩ := exists_factor
  have hfactor : a * k = b * k ↔ a = b := Int.mul_eq_mul_right_iff (Int.ne_of_gt hk)
  simp only [equals, hunits, Bool.beq_eq_decide_eq, hfactor]

theorem int_less_int (a b : Int) : (int a).ordered? (· < ·) (int b) = some (decide (a < b)) := by
  obtain ⟨k, hk, hunits⟩ := exists_factor
  simp [ordered?, hunits, Int.mul_lt_mul_right hk]

theorem int_atMost_int (a b : Int) : (int a).ordered? (· ≤ ·) (int b) = some (decide (a ≤ b)) := by
  obtain ⟨k, hk, hunits⟩ := exists_factor
  simp [ordered?, hunits, Int.mul_le_mul_right hk]

end Numeral

namespace Value

/-- A test of the order of two values, where both are finite numbers. -/
def ordered? (test : Int → Int → Bool) (a b : Value) : Option Bool := do
  let x ← a.numeral?
  let y ← b.numeral?
  x.ordered? test y

end Value

/-- Whether a relation holds between two values. Equality is by value, the order is that of numbers, and a
text is in another one as a part of it. -/
def Source.Relation.holds? : Relation → Value → Value → Option Bool
  | .eq, a, b => a.equals? b
  | .notEq, a, b => (a.equals? b).map (!·)
  | .lt, a, b => a.ordered? (· < ·) b
  | .ltE, a, b => a.ordered? (· ≤ ·) b
  | .gt, a, b => b.ordered? (· < ·) a
  | .gtE, a, b => b.ordered? (· ≤ ·) a
  | .isIn, .text s, .text t => some (decide (s <:+: t))
  | .notIn, .text s, .text t => some (!decide (s <:+: t))
  | _, _, _ => none

namespace Source.Relation

def comparisons : List Relation :=
  [.eq, .notEq, .lt, .ltE, .gt, .gtE]

/-- What the relations of equality and order say of integers. -/
def onIntegers : Relation → Int → Int → Bool
  | .eq, a, b => a = b
  | .notEq, a, b => a ≠ b
  | .lt, a, b => a < b
  | .ltE, a, b => a ≤ b
  | .gt, a, b => b < a
  | .gtE, a, b => b ≤ a
  | _, _, _ => false

theorem holds?_integers {relation : Relation} (h : relation ∈ comparisons) (a b : Int) :
    relation.holds? (.number (.int a)) (.number (.int b)) = some (relation.onIntegers a b) := by
  simp only [comparisons, List.mem_cons, List.not_mem_nil, or_false] at h
  rcases h with rfl | rfl | rfl | rfl | rfl | rfl <;>
    simp [holds?, onIntegers, Value.equals?, Value.ordered?, Value.numeral?, Numeral.int_equals_int,
      Numeral.int_less_int, Numeral.int_atMost_int]

/-- The next integer is told from an integer on the right by these relations. -/
theorem onIntegers_succ_ne_iff (relation : Relation) (n : Int) :
    relation.onIntegers n n ≠ relation.onIntegers (n + 1) n ↔ relation ∈ [.eq, .notEq, .ltE, .gt] := by
  cases relation <;> grind [onIntegers]

/-- The next integer is told from an integer on the left by these relations. -/
theorem onIntegers_ne_succ_iff (relation : Relation) (n : Int) :
    relation.onIntegers n n ≠ relation.onIntegers n (n + 1) ↔ relation ∈ [.eq, .notEq, .lt, .gtE] := by
  cases relation <;> grind [onIntegers]

end Source.Relation

theorem Text.not_marked_infix (t : Text) : ¬ Text.ofString "not_" ++ t <:+: t := by
  intro h
  have hlength := h.length_le
  have hmark : (Text.ofString "not_").length = 4 := by decide
  rw [List.length_append] at hlength
  omega

/-- The values that names and attributes hold. -/
abbrev Store := Node → Option Value

namespace Node

/-- The value of a literal, a name or an attribute. -/
def valueIn (σ : Store) : Node → Option Value
  | numeric n _ => some (.number n)
  | string t _ => some (.text t)
  | boolean b _ => some (.boolean b)
  | noneLit _ => some .null
  | identifier id s => σ (identifier id s)
  | memberAccess target name s => σ (memberAccess target name s)
  | _ => none

/-- The truth of a value or of its negation. -/
def truthIn (σ : Store) : Node → Option Bool
  | unary .not operand _ => (operand.truthIn σ).map (!·)
  | n => (n.valueIn σ).map Value.truth

theorem valueIn_of_reference {x : Node} (hx : x.reference?.isSome) (σ : Store) :
    x.valueIn σ = σ x := by
  rcases exists_of_reference hx with ⟨_, _, rfl⟩ | ⟨_, _, _, rfl⟩ <;> rfl

theorem truthIn_of_reference {x : Node} (hx : x.reference?.isSome) (σ : Store) :
    x.truthIn σ = (σ x).map Value.truth := by
  rcases exists_of_reference hx with ⟨_, _, rfl⟩ | ⟨_, _, _, rfl⟩ <;> rfl

end Node

namespace Condition

def outcomeIn (σ : Store) (c : Condition) : Option Bool :=
  match c.comparison with
  | some ⟨l, relation, r⟩ => do
    let a ← l.valueIn σ
    let b ← r.valueIn σ
    relation.holds? a b
  | none => c.node.truthIn σ

/-- The condition comes to an outcome wherever a name or attribute holds a value. -/
def ComesTo (c : Condition) (x : Node) (v : Value) (b : Bool) : Prop :=
  ∀ σ : Store, σ x = some v → c.outcomeIn σ = some b

/-- A condition is steered by a name or attribute: its values are given to it, and each of them tells what
the condition comes to. -/
structure SteeredBy (c : Condition) (x : Node) : Prop where
  reference : c.drivingReference? = some x
  settled : ∀ v ∈ c.callValues, ∃ b, c.ComesTo x v b

/-- Among the values that drive a condition are one at which it holds and one at which it fails. -/
def BothOutcomes (c : Condition) (x : Node) : Prop :=
  (∃ v ∈ c.callValues, c.ComesTo x v true) ∧ ∃ v ∈ c.callValues, c.ComesTo x v false

variable {c : Condition} {x : Node} {v w : Value} {a b : Bool}

theorem ComesTo.unique (h : c.ComesTo x v a) (h' : c.ComesTo x v b) : a = b :=
  Option.some.inj ((h (fun _ => some v) rfl).symm.trans (h' (fun _ => some v) rfl))

theorem bothOutcomes_iff_ne (hc : c.callValues = [v, w]) (hv : c.ComesTo x v a)
    (hw : c.ComesTo x w b) : c.BothOutcomes x ↔ a ≠ b := by
  simp only [BothOutcomes, hc, List.mem_cons, List.not_mem_nil, or_false, exists_eq_or_imp,
    exists_eq_left]
  constructor
  · rintro ⟨ht | ht, hf | hf⟩ <;> intro hab
    · cases ht.unique hf
    · cases (ht.unique hv).trans (hab.trans (hw.unique hf))
    · cases (ht.unique hw).trans (hab.symm.trans (hv.unique hf))
    · cases ht.unique hf
  · intro hne
    cases a <;> cases b <;> simp_all

/-- What is known of a condition once its reference, its values and their outcomes are. -/
theorem steered_of_pair (hreference : c.drivingReference? = some x) (hc : c.callValues = [v, w])
    (hv : c.ComesTo x v a) (hw : c.ComesTo x w b) :
    c.SteeredBy x ∧ (c.BothOutcomes x ↔ a ≠ b) := by
  refine ⟨⟨hreference, ?_⟩, bothOutcomes_iff_ne hc hv hw⟩
  intro u hu
  rw [hc] at hu
  rcases List.mem_pair.mp hu with rfl | rfl
  · exact ⟨a, hv⟩
  · exact ⟨b, hw⟩

/-! Comparisons with a literal. -/

inductive Side where
  | left
  | right

/-- A comparison of a name or attribute with a literal on a side. -/
def comparing (x : Node) (relation : Relation) (literal : Node) (side : Side) (text : String)
    (node : Node) : Condition :=
  match side with
  | .left => ⟨some ⟨literal, relation, x⟩, text, node⟩
  | .right => ⟨some ⟨x, relation, literal⟩, text, node⟩

/-- The relations that tell an integer on the side from the next one. -/
def Side.deciding : Side → List Relation
  | .right => [.eq, .notEq, .ltE, .gt]
  | .left => [.eq, .notEq, .lt, .gtE]

/-- Whether a relation holds between a value and that of the literal. -/
def Side.holds? (side : Side) (relation : Relation) (v literal : Value) : Option Bool :=
  match side with
  | .left => relation.holds? literal v
  | .right => relation.holds? v literal

theorem ofOperand_of_reference (hx : x.reference?.isSome) :
    Property.ofOperand (some x) = .unknown x.name? (some x) := by
  rcases Node.exists_of_reference hx with ⟨_, _, rfl⟩ | ⟨_, _, _, rfl⟩ <;> rfl

section

variable {l : Node} {relation : Relation} {side : Side} {text : String} {node : Node}

theorem literalTarget_comparing (hx : x.reference?.isSome) (hl : l.isLiteral) :
    (comparing x relation l side text node).literalTarget =
      ⟨.unknown x.name? (some x), Property.ofOperand (some l), true⟩ := by
  have hliteral := isLiteral_ofOperand hl
  have hreference := ofOperand_of_reference hx
  cases side <;>
    simp [comparing, literalTarget, leftNode?, rightNode?, hliteral, hreference, Property.unknown]

theorem drivingReference?_comparing (hx : x.reference?.isSome) (hl : l.isLiteral) :
    (comparing x relation l side text node).drivingReference? = some x := by
  have hcompares : (comparing x relation l side text node).comparison.isSome := by cases side <;> rfl
  simp [drivingReference?, hcompares, literalTarget_comparing hx hl, Property.unknown, hx]

theorem callValues_comparing (hx : x.reference?.isSome) (hl : l.isLiteral) :
    (comparing x relation l side text node).callValues =
      let p := Property.ofOperand (some l)
      Value.ofLiteral p :: (Value.invert p (Value.ofLiteral p)).toList := by
  have hcompares : (comparing x relation l side text node).comparison.isSome := by cases side <;> rfl
  simp [callValues, hcompares, literalTarget_comparing hx hl]

theorem comesTo_comparing (hx : x.reference?.isSome) (hl : ∀ σ, l.valueIn σ = some w)
    (h : side.holds? relation v w = some b) :
    (comparing x relation l side text node).ComesTo x v b := by
  intro σ hσ
  have hv : x.valueIn σ = some v := (Node.valueIn_of_reference hx σ).trans hσ
  cases side <;> simpa [outcomeIn, comparing, Side.holds?, hl, hv] using h

/-- The first driving value is that of the literal itself, and the second one its complement. What they
lead to is found by putting them in the place of the name. -/
theorem steered_comparing (hx : x.reference?.isSome) (hl : l.isLiteral)
    (hv : ∀ σ, l.valueIn σ = some v)
    (hvalues : (comparing x relation l side text node).callValues = [v, w])
    (ha : side.holds? relation v v = some a) (hb : side.holds? relation w v = some b) :
    (comparing x relation l side text node).SteeredBy x ∧
      ((comparing x relation l side text node).BothOutcomes x ↔ a ≠ b) :=
  steered_of_pair (drivingReference?_comparing hx hl) hvalues (comesTo_comparing hx hv ha)
    (comesTo_comparing hx hv hb)

end

theorem steered_integer (hx : x.reference?.isSome) (s : Span) (text : String) (node : Node) (n : Int)
    {relation : Relation} (h : relation ∈ Relation.comparisons) (side : Side) :
    let c := comparing x relation (.numeric (.int n) s) side text node
    c.SteeredBy x ∧ (c.BothOutcomes x ↔ relation ∈ side.deciding) := by
  intro c
  have hvalues : c.callValues = [.number (.int n), .number (.int (n + 1))] :=
    callValues_comparing hx rfl
  have hholds := Relation.holds?_integers h
  cases side with
  | right =>
    obtain ⟨hsteered, hboth⟩ :=
      steered_comparing hx rfl (fun _ => rfl) hvalues (hholds n n) (hholds (n + 1) n)
    exact ⟨hsteered, hboth.trans (Relation.onIntegers_succ_ne_iff relation n)⟩
  | left =>
    obtain ⟨hsteered, hboth⟩ :=
      steered_comparing hx rfl (fun _ => rfl) hvalues (hholds n n) (hholds n (n + 1))
    exact ⟨hsteered, hboth.trans (Relation.onIntegers_ne_succ_iff relation n)⟩

/-- A literal is told from its complement by equality and by its negation, on either side. -/
theorem steered_equality (hx : x.reference?.isSome) {l : Node} (hl : l.isLiteral)
    (hv : ∀ σ, l.valueIn σ = some v) {side : Side} {text : String} {node : Node}
    (hvalues : ∀ relation, (comparing x relation l side text node).callValues = [v, w])
    (hself : side.holds? .eq v v = some true) (hother : side.holds? .eq w v = some false)
    {relation : Relation} (h : relation ∈ [Relation.eq, .notEq]) :
    let c := comparing x relation l side text node
    c.SteeredBy x ∧ c.BothOutcomes x := by
  have hnegation : ∀ u, side.holds? .notEq u v = (side.holds? .eq u v).map (!·) := by
    intro u
    cases side <;> rfl
  rcases List.mem_pair.mp h with rfl | rfl
  · obtain ⟨hsteered, hboth⟩ := steered_comparing hx hl hv (hvalues _) hself hother
    exact ⟨hsteered, hboth.mpr (by decide)⟩
  · have hself' : side.holds? .notEq v v = some false := by rw [hnegation, hself]; rfl
    have hother' : side.holds? .notEq w v = some true := by rw [hnegation, hother]; rfl
    obtain ⟨hsteered, hboth⟩ := steered_comparing hx hl hv (hvalues _) hself' hother'
    exact ⟨hsteered, hboth.mpr (by decide)⟩

section

variable (hx : x.reference?.isSome) (s : Span) (text : String) (node : Node) (side : Side)

include hx

theorem steered_text (t : Text) {relation : Relation} (h : relation ∈ [Relation.eq, .notEq]) :
    let c := comparing x relation (.string t s) side text node
    c.SteeredBy x ∧ c.BothOutcomes x := by
  have hne : Text.ofString "not_" ++ t ≠ t := fun h =>
    Text.not_marked_infix t (by rw [h])
  refine steered_equality hx rfl (fun _ => rfl) (fun _ => callValues_comparing hx rfl) ?_ ?_ h
  · cases side <;> simp [Side.holds?, Relation.holds?, Value.equals?]
  · cases side
    · simp [Side.holds?, Relation.holds?, Value.equals?, hne.symm]
    · simp [Side.holds?, Relation.holds?, Value.equals?, hne]

theorem steered_boolean (b : Bool) {relation : Relation} (h : relation ∈ [Relation.eq, .notEq]) :
    let c := comparing x relation (.boolean b s) side text node
    c.SteeredBy x ∧ c.BothOutcomes x := by
  refine steered_equality hx rfl (fun _ => rfl) (fun _ => callValues_comparing hx rfl) ?_ ?_ h
  · cases side <;> cases b <;>
      simp [Side.holds?, Relation.holds?, Value.equals?, Value.numeral?, Numeral.int_equals_int]
  · cases side <;> cases b <;>
      simp [Side.holds?, Relation.holds?, Value.equals?, Value.numeral?, Numeral.int_equals_int]

theorem steered_search (t : Text) {relation : Relation} (h : relation ∈ [Relation.isIn, .notIn]) :
    let c := comparing x relation (.string t s) side text node
    c.SteeredBy x ∧ (c.BothOutcomes x ↔ side = .right) := by
  intro c
  have hvalues : c.callValues = [.text t, .text (Text.ofString "not_" ++ t)] :=
    callValues_comparing hx rfl
  have hmarked : t <:+: Text.ofString "not_" ++ t := (List.suffix_append _ _).isInfix
  have hnot := Text.not_marked_infix t
  rcases List.mem_pair.mp h with rfl | rfl <;> cases side
  case' inl.left | inl.right | inr.left | inr.right =>
    obtain ⟨hsteered, hboth⟩ := steered_comparing hx rfl (fun _ => rfl) hvalues rfl rfl
    refine ⟨hsteered, hboth.trans ?_⟩
  all_goals simp [hmarked, hnot]

end

/-! Tests of the truth of a name. -/

theorem steered_bare (hx : x.reference?.isSome) (text : String) :
    let c : Condition := ⟨none, text, x⟩
    c.SteeredBy x ∧ c.BothOutcomes x := by
  intro c
  have hreference : c.drivingReference? = some x := by
    rcases Node.exists_of_reference hx with ⟨_, _, rfl⟩ | ⟨_, _, _, rfl⟩ <;> rfl
  have hcomes : ∀ b, c.ComesTo x (.boolean b) b := by
    intro b σ hσ
    simp [outcomeIn, c, Node.truthIn_of_reference hx, hσ, Value.truth]
  obtain ⟨hsteered, hboth⟩ := steered_of_pair hreference rfl (hcomes true) (hcomes false)
  exact ⟨hsteered, hboth.mpr (by decide)⟩

theorem steered_negation (hx : x.reference?.isSome) (text : String) (s : Span) :
    let c : Condition := ⟨none, text, .unary .not x s⟩
    c.SteeredBy x ∧ c.BothOutcomes x := by
  intro c
  have hreference : c.drivingReference? = some x := by simp [drivingReference?, c, hx]
  have hcomes : ∀ b, c.ComesTo x (.boolean b) (!b) := by
    intro b σ hσ
    simp [outcomeIn, c, Node.truthIn, Node.truthIn_of_reference hx, hσ, Value.truth]
  obtain ⟨hsteered, hboth⟩ := steered_of_pair hreference rfl (hcomes true) (hcomes false)
  exact ⟨hsteered, hboth.mpr (by decide)⟩

/-- Each condition on a name or attribute alone is steered by it. An integer is told from the next one
by equality, and by the orders that take both to one side of the literal and not of the name; a text and a
truth value by equality; a text also by a search in the literal, but not by a search for it; and a truth
value by the test of the name or of its negation. -/
theorem both_outcomes_iff {x : Node} (hx : x.reference?.isSome) (text : String) (node : Node)
    (s : Span) :
    (∀ (n : Int), ∀ relation ∈ Relation.comparisons,
      let c := comparing x relation (.numeric (.int n) s) .right text node
      let d := comparing x relation (.numeric (.int n) s) .left text node
      c.SteeredBy x ∧ (c.BothOutcomes x ↔ relation ∈ [.eq, .notEq, .ltE, .gt]) ∧
        d.SteeredBy x ∧ (d.BothOutcomes x ↔ relation ∈ [.eq, .notEq, .lt, .gtE])) ∧
    (∀ (t : Text) (side : Side),
      (∀ relation ∈ [.eq, .notEq],
        let c := comparing x relation (.string t s) side text node
        c.SteeredBy x ∧ c.BothOutcomes x) ∧
      (∀ relation ∈ [.isIn, .notIn],
        let c := comparing x relation (.string t s) side text node
        c.SteeredBy x ∧ (c.BothOutcomes x ↔ side = .right))) ∧
    (∀ (b : Bool) (side : Side), ∀ relation ∈ [.eq, .notEq],
      let c := comparing x relation (.boolean b s) side text node
      c.SteeredBy x ∧ c.BothOutcomes x) ∧
    ∀ test ∈ [x, .unary .not x s],
      let c : Condition := ⟨none, text, test⟩
      c.SteeredBy x ∧ c.BothOutcomes x := by
  refine ⟨?integers, ?texts, ?truths, ?tests⟩
  case integers =>
    intro n relation h
    obtain ⟨hsteered, hboth⟩ := steered_integer hx s text node n h .right
    exact ⟨hsteered, hboth, steered_integer hx s text node n h .left⟩
  case texts =>
    intro t side
    exact ⟨fun relation h => steered_text hx s text node side t h,
      fun relation h => steered_search hx s text node side t h⟩
  case truths =>
    intro b side relation h
    exact steered_boolean hx s text node side b h
  case tests =>
    intro test h
    rcases List.mem_pair.mp h with rfl | rfl
    · exact steered_bare hx text
    · exact steered_negation hx text s

def codeIs (relation : Relation) : Condition :=
  comparing (.identifier "code" ⟨3, 11, 3, 15⟩) relation (.numeric (.int 2) ⟨3, 19, 3, 20⟩) .right
    "code" (.identifier "code" ⟨3, 11, 3, 15⟩)

theorem both_outcomes_iff_code :
    let code : Node := .identifier "code" ⟨3, 11, 3, 15⟩
    code.reference?.isSome ∧ (codeIs .ltE).BothOutcomes code ∧ ¬ (codeIs .lt).BothOutcomes code := by
  intro code
  obtain ⟨hintegers, -⟩ := both_outcomes_iff (x := code) rfl "code" code ⟨3, 19, 3, 20⟩
  obtain ⟨-, hatMost, -⟩ := hintegers 2 .ltE (by decide)
  obtain ⟨-, hless, -⟩ := hintegers 2 .lt (by decide)
  exact ⟨rfl, hatMost.mpr (by decide), fun h => absurd (hless.mp h) (by decide)⟩

end Condition
end BranchCover
