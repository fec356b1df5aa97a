import BranchCover.Subject.Branch
import BranchCover.Subject.Property
import BranchCover.Value.Basic

/-! The values that a test chooses: a base value and a falsy one for each sort of property, and the
values that drive the outcomes of a condition. -/
namespace BranchCover
namespace Value

def int (n : Int) : Value := number (.int n)

def ascii (s : String) : Value := text (Text.ofString s)

/-- A placeholder for a property of a placeholder type, or else of nothing in particular. -/
def placeholder (p : Property) : Value :=
  match p.typeName with
  | some name =>
    if placeholderTypes.contains name then
      if p.isArray then arrayOf [objectStub name] else objectStub name
    else if p.isArray then arrayOf [null, null] else null
  | none => if p.isArray then arrayOf [null, null] else null

/-- The value that a property has when a test does not care. -/
def make (p : Property) : Value :=
  match p.category with
  | some .number => if p.isArray then arrayOf [int 3, int 4, int 5] else int 2
  | some .boolean => if p.isArray then arrayOf [boolean false, boolean true] else boolean true
  | some .string => if p.isArray then arrayOf [ascii "de", ascii "fg"] else ascii "abc"
  | _ => placeholder p

/-- A falsy or empty value for a property. -/
def makeNot (p : Property) : Value :=
  match p.category with
  | some .number => if p.isArray then arrayOf [] else int 0
  | some .boolean => if p.isArray then arrayOf [boolean false, boolean false] else boolean false
  | some .string => if p.isArray then arrayOf [] else null
  | _ => placeholder p

/-- The value of a literal, and the base value of any other property. -/
def ofLiteral (p : Property) : Value :=
  match p.node with
  | some (.boolean b _) => boolean b
  | some (.numeric n _) => number n
  | some (.string t _) => text t
  | _ => make p

/-- A value that differs from a literal one; values of other kinds have none. -/
def invert (p : Property) (v : Value) : Option Value :=
  if p.isArray then some (makeNot p)
  else match v with
    | boolean b => some (boolean !b)
    | number n => some (number n.addOne)
    | text t => some (text (Text.ofString "not_" ++ t))
    | _ => none

end Value

/-- The sides of a comparison told apart: what is tested, and what it is tested against. -/
structure Target where
  symbol : Property
  target : Property
  /-- Whether the target is a literal. -/
  found : Bool

namespace Condition

def leftNode? (c : Condition) : Option Node :=
  c.comparison.map Comparison.left

def rightNode? (c : Condition) : Option Node :=
  c.comparison.map Comparison.right

/-- The literal side of a comparison is its target, the right one where both are literals. -/
def literalTarget (c : Condition) : Target :=
  let left := Property.ofOperand c.leftNode?
  let right := Property.ofOperand c.rightNode?
  if right.isLiteral then ⟨left, right, true⟩
  else if left.isLiteral then ⟨right, left, true⟩
  else ⟨right, left, false⟩

/-- The values that drive the outcomes of a condition: a literal and its complement, or else true
and false. -/
def callValues (c : Condition) : List Value :=
  let t := c.literalTarget
  if c.comparison.isSome && t.found then
    let v := Value.ofLiteral t.target
    v :: (Value.invert t.target v).toList
  else [.boolean true, .boolean false]

/-- The name or attribute whose value decides a condition: the side of a comparison that is not the
literal, or a test that is one itself or the negation of one. -/
def drivingReference? (c : Condition) : Option Node :=
  if c.comparison.isSome then
    let t := c.literalTarget
    if t.found then t.symbol.node.filter (·.reference?.isSome) else none
  else
    let test := match c.node with
      | .unary .not operand _ => operand
      | n => n
    if test.reference?.isSome then some test else none

theorem isSome_reference {c : Condition} {n : Node} (h : c.drivingReference? = some n) :
    n.reference?.isSome := by
  unfold drivingReference? at h
  by_cases hcmp : c.comparison.isSome
  · simp only [hcmp, if_true] at h
    by_cases hfound : c.literalTarget.found
    · simp only [hfound, if_true] at h
      exact (Option.filter_eq_some_iff.mp h).2
    · simp [hfound] at h
  · simp only [hcmp, Bool.false_eq_true, if_false] at h
    obtain ⟨htest, htests⟩ := Option.ite_none_right_eq_some.mp h
    exact Option.some.inj htests ▸ htest

end Condition
end BranchCover
