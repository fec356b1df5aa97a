import BranchCover.Proofs.CallValues
import BranchCover.Scenario.Compose

/-! What a condition comes to when a name holds a value: the truth of the value where the condition
is the name, and equality by value where the name is compared with a literal. -/
namespace BranchCover

/-- A finite number as a multiple of the least positive one, `2 ^ -1074`. -/
def Binary64.units (x : Binary64) : Int :=
  (if x.isNegative then -1 else 1) * (x.significand * Nat.pow 2 x.scale : Nat)

namespace Numeral

def units? : Numeral → Option Int
  | .int n => some (n * (Nat.pow 2 1074 : Nat))
  | .real x => if x.isFinite then some x.units else none

/-- Numbers are equal by value, whatever their sort; what is not a number equals nothing. -/
def equals (a b : Numeral) : Bool :=
  match a.units?, b.units? with
  | some x, some y => x == y
  | none, none =>
    match a, b with
    | .real x, .real y => !x.isNaN && x.bits == y.bits
    | _, _ => false
  | _, _ => false

end Numeral

namespace Value

/-- A truth value counts as a number. -/
def numeral? : Value → Option Numeral
  | number n => some n
  | boolean b => some (.int (if b then 1 else 0))
  | _ => none

/-- Equality of values, where one of them at least is a number, a text, a truth value or nothing. -/
def equals? : Value → Value → Option Bool
  | text s, text t => some (s == t)
  | null, null => some true
  | arrayOf _, arrayOf _ | objectStub _, objectStub _ | unspecified, _ | _, unspecified => none
  | a, b =>
    match a.numeral?, b.numeral? with
    | some x, some y => some (x.equals y)
    | _, _ => some false

def truth : Value → Bool
  | number n => !n.equals (.int 0)
  | text t => !t.isEmpty
  | boolean b => b
  | arrayOf items => !items.isEmpty
  | null => false
  | objectStub _ | unspecified => true

end Value

namespace Node

def isLiteral : Node → Bool
  | numeric .. | string .. | boolean .. => true
  | _ => false

/-- The value of a name or literal, where a name holds a value. -/
def valueWith (name : String) (v : Value) : Node → Option Value
  | identifier id _ => if id = name then some v else none
  | numeric n _ => some (.number n)
  | string t _ => some (.text t)
  | boolean b _ => some (.boolean b)
  | noneLit _ => some .null
  | _ => none

end Node

namespace Condition

/-- What a condition comes to, where a name holds a value and the condition is about the truth of
the name or about equality alone. -/
def outcome? (c : Condition) (name : String) (v : Value) : Option Bool :=
  match c.comparison with
  | none => (c.node.valueWith name v).map Value.truth
  | some ⟨l, .eq, r⟩ => do
    let a ← l.valueWith name v
    let b ← r.valueWith name v
    a.equals? b
  | some _ => none

/-- A condition on a name alone: the bare name, or its equality with a literal. -/
inductive Tests (name : String) : Condition → Prop where
  | bare (text : String) (s : Span) : Tests name ⟨none, text, .identifier name s⟩
  | equals (text : String) (s : Span) {literal : Node} (node : Node) (h : literal.isLiteral) :
    Tests name ⟨some ⟨.identifier name s, .eq, literal⟩, text, node⟩

theorem isLiteral_ofOperand {r : Node} (h : r.isLiteral) :
    (Property.ofOperand (some r)).isLiteral = true := by
  cases r <;> simp_all [Node.isLiteral] <;> rfl

theorem literalTarget_of_isLiteral {l r : Node} (text : String) (node : Node) (h : r.isLiteral) :
    (Condition.mk (some ⟨l, .eq, r⟩) text node).literalTarget =
      ⟨Property.ofOperand (some l), Property.ofOperand (some r), true⟩ := by
  simp [literalTarget, leftNode?, rightNode?, isLiteral_ofOperand h]

theorem head?_callValues_of_isLiteral {l r : Node} (text : String) (node : Node)
    (h : r.isLiteral) : (Condition.mk (some ⟨l, .eq, r⟩) text node).callValues.head? =
      some (Value.ofLiteral (Property.ofOperand (some r))) := by
  simp [callValues, literalTarget_of_isLiteral text node h]

theorem valueWith_of_isLiteral {r : Node} (h : r.isLiteral) (name : String) (v : Value) :
    r.valueWith name v = some (Value.ofLiteral (Property.ofOperand (some r))) := by
  cases r <;> simp_all [Node.isLiteral] <;> rfl

/-- The first of the driving values meets the condition, unless it is not even equal to itself. -/
theorem outcome?_head {c : Condition} {name : String} {v : Value} (hc : c.Tests name)
    (hv : c.callValues.head? = some v) (heq : v.equals? v = some true) :
    c.outcome? name v = some true := by
  cases hc with
  | bare text s =>
    obtain rfl : Value.boolean true = v := Option.some.inj hv
    simp [outcome?, Node.valueWith, Value.truth]
  | equals text s node h =>
    rw [head?_callValues_of_isLiteral text node h] at hv
    obtain rfl := Option.some.inj hv
    simp only [outcome?, valueWith_of_isLiteral h]
    simpa [Node.valueWith] using heq

end Condition

namespace Member

theorem route_of_tests {m : Member} {c : Condition} {name : String} (hc : c.Tests name)
    (hp : (Property.find? m.method.parameters name).isSome) : m.route c = .parameter name := by
  have hd : ∃ s, c.drivingReference? = some (.identifier name s) := by
    cases hc with
    | bare text s => exact ⟨s, by simp [Condition.drivingReference?, Node.reference?]⟩
    | equals text s node h =>
      refine ⟨s, ?_⟩
      simp only [Condition.drivingReference?, Condition.literalTarget_of_isLiteral text node h]
      rfl
  obtain ⟨s, hd⟩ := hd
  simp [route, hd, Node.reference?, isReceiverAccess, hp]

end Member
end BranchCover
