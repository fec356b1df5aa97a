import BranchCover.Outline.Search
import BranchCover.Report.Note

/-! What is known of a field, a parameter or an operand: its name, its sort of value, and whether it
is a literal. An initializer that is a literal tells most; then come the annotation and, one step
away, the declaration that the initializer names. -/
namespace BranchCover

inductive Category where
  | number
  | string
  | boolean
  | object
  deriving DecidableEq

namespace Category

def label : Category → String
  | number => "number"
  | string => "string"
  | boolean => "boolean"
  | object => "object"

end Category

structure Property where
  name : Option String
  category : Option Category
  typeName : Option String
  isArray : Bool
  isLiteral : Bool
  isClassVar : Bool
  kwOnly : Bool
  /-- The node that was read: the literal where there is one, the declaration otherwise. -/
  node : Option Node

namespace Property

def unknown (name : Option String) (node : Option Node) : Property :=
  ⟨name, none, none, false, false, false, false, node⟩

def isUnknown (p : Property) : Bool :=
  p.category.isNone && p.typeName.isNone

/-- The primitive sort of a literal or of a builtin annotation. -/
def primitive? : Node → Option Category
  | .numeric _ _ | .hint .number _ => some .number
  | .string _ _ | .hint .string _ => some .string
  | .boolean _ _ | .hint .boolean _ => some .boolean
  | _ => none

def initializer? : Node → Option Node
  | .property _ _ value _ _ => value
  | .param _ _ default _ _ => default
  | _ => none

def typing? : Node → Option Node
  | .property _ typing _ _ _ => typing
  | .param _ typing _ _ _ => typing
  | _ => none

def annotated (p : Property) : Node → Property
  | .arrayType element _ => { p.annotated element with isArray := true }
  | .hint .any _ => p
  | .hint h s => { p with category := primitive? (.hint h s) }
  | .typeRef name _ => { p with category := some .object, typeName := some name }
  | _ => p

/-- The property with what is known of the declaration that it refers to. -/
def adopt (p other : Property) : Property :=
  { p with
    category := other.category
    typeName := other.typeName
    isArray := other.isArray
    isLiteral := other.isLiteral
    node := if other.isLiteral then other.node else p.node }

/-- Where names are looked up: a class first, then the whole module. -/
structure Scope where
  cls : Option Node
  module : Option Node

namespace Scope

def empty : Scope := ⟨none, none⟩

def roots (s : Scope) : List Node :=
  s.cls.toList ++ s.module.toList

/-- The first declaration of a name besides the excluded one. -/
def lookup (s : Scope) (name : String) (exclude : Option Node) : Option Node :=
  s.roots.findSome? fun root => (root.findAll [.property, .param]).find? fun d =>
    !exclude.any (d.isSameDeclaration ·) && d.name? == some name

end Scope

/-- What a literal says of itself or of the declaration that it initializes. -/
def literal? (n : Node) : Option Property :=
  match primitive? n with
  | some c => some { unknown n.name? (some n) with category := some c, isLiteral := true }
  | none =>
    match initializer? n with
    | none => none
    | some init =>
      (primitive? init).map fun c =>
        { unknown n.name? (some init) with category := some c, isLiteral := true }

/-- What a declaration that is no literal says by its annotation, or else by the declaration that
it refers to. -/
def declared (n : Node) (referenced : Option Property) : Property :=
  let p := unknown n.name? (some n)
  match referenced with
  | some r => if r.isLiteral then p.adopt r else
    match typing? n with
    | some a => if (p.annotated a).isUnknown then (p.annotated a).adopt r else p.annotated a
    | none => p.adopt r
  | none =>
    match typing? n with
    | some a => p.annotated a
    | none => p

/-- The declaration that the initializer of a node names. -/
def referenced? (s : Scope) (n : Node) : Option Node := do
  let init ← initializer? n
  let name ← init.reference?
  s.lookup name (some n)

def ofNodeAlone (n : Node) : Property :=
  (literal? n).getD (declared n none)

/-- What is known of a node. One reference is followed. -/
def ofNode (s : Scope) (n : Node) : Property :=
  (literal? n).getD (declared n ((referenced? s n).map ofNodeAlone))

/-- What is known of a side of a condition; names are not looked up. -/
def ofOperand (n : Option Node) : Property :=
  match n with
  | some n => ofNode Scope.empty n
  | none => unknown none none

def notes (s : Scope) (n : Node) : List Note :=
  if (literal? n).isSome then []
  else
    match (initializer? n).bind Node.reference? with
    | some name =>
      if (s.lookup name (some n)).isSome then [] else [.unresolved name n.name?]
    | none => []

end Property
end BranchCover
