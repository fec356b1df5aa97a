import BranchCover.Source.Tree

/-! The outline of a source: the declarations, decisions and comparisons that matter for coverage,
each with its place. Whatever has no kind of its own is a compound that keeps only its parts, so
that a decision inside it is still found. -/
namespace BranchCover

open Source (Relation UnaryOp)

/-- Where a declared name stands: the class that holds it and its place among the names that its
statement binds. -/
structure Site where
  owner : Span
  index : Nat
  deriving DecidableEq

inductive Hint where
  | number
  | string
  | boolean
  | any
  deriving DecidableEq

/-- What is known of a method besides its parts. The receiver is the parameter that holds the
instance or class; it is not among the parameters. -/
structure MethodHead where
  isConstructor : Bool
  name : String
  returnsText : Option String
  modifiers : List String
  isAsync : Bool
  receiver : Option String
  deriving DecidableEq

inductive Node where
  | module (body : List Node)
  | classDecl (name : String) (body : List Node) (span : Span)
  | property (name : String) (typing value : Option Node) (site : Site) (span : Span)
  | param (name : String) (typing default : Option Node) (kwOnly : Bool) (span : Span)
  | method (head : MethodHead) (params : List Node) (body : Node) (returns : Option Node)
      (span : Span)
  | block (statements : List Node) (span : Span)
  | ifStmt (test body : Node) (orelse : Option Node) (span : Span)
  | caseClause (test body : Node) (span : Span)
  | defaultClause (body : Node) (span : Span)
  | switch (subject : Node) (clauses : List Node) (span : Span)
  | conditional (test body orelse : Node) (span : Span)
  | binary (left : Node) (relation : Relation) (right : Node) (span : Span)
  | unary (op : UnaryOp) (operand : Node) (span : Span)
  | identifier (name : String) (span : Span)
  | memberAccess (target : Node) (name : String) (span : Span)
  | call (func : Node) (args keywords : List Node) (names : List (Option String)) (span : Span)
  | numeric (value : Numeral) (span : Span)
  | string (value : Text) (span : Span)
  | boolean (value : Bool) (span : Span)
  | noneLit (span : Span)
  | hint (hint : Hint) (span : Span)
  | arrayType (element : Node) (span : Span)
  | typeRef (name : String) (span : Span)
  | compound (label : String) (items : List Node) (span : Span)

inductive NodeKind where
  | node
  | module
  | classDecl
  | property
  | param
  | method
  | constructor
  | block
  | ifStmt
  | caseClause
  | defaultClause
  | switch
  | conditional
  | binary
  | unary
  | identifier
  | memberAccess
  | call
  | numeric
  | string
  | boolean
  | noneLit
  | hint
  | arrayType
  | typeRef
  | compound
  deriving DecidableEq

namespace NodeKind

def label : NodeKind → String
  | node => "Node"
  | module => "Module"
  | classDecl => "ClassDecl"
  | property => "PropertyDecl"
  | param => "ParamDecl"
  | method => "MethodDecl"
  | constructor => "Constructor"
  | block => "Block"
  | ifStmt => "IfStmt"
  | caseClause => "CaseClause"
  | defaultClause => "DefaultClause"
  | switch => "SwitchStmt"
  | conditional => "Conditional"
  | binary => "Binary"
  | unary => "Unary"
  | identifier => "Identifier"
  | memberAccess => "MemberAccess"
  | call => "Call"
  | numeric => "NumericLit"
  | string => "StringLit"
  | boolean => "BooleanLit"
  | noneLit => "NoneLit"
  | hint => "KeywordType"
  | arrayType => "ArrayType"
  | typeRef => "TypeRef"
  | compound => "Compound"

/-- Whether nodes of the second kind count as nodes of the first. -/
def covers (k l : NodeKind) : Bool :=
  k == node || k == l || (k == method && l == constructor)

end NodeKind

namespace Hint

def label : Hint → String
  | number => "number"
  | string => "string"
  | boolean => "boolean"
  | any => "any"

end Hint

namespace Node

def kind : Node → NodeKind
  | module .. => .module
  | classDecl .. => .classDecl
  | property .. => .property
  | param .. => .param
  | method head .. => if head.isConstructor then .constructor else .method
  | block .. => .block
  | ifStmt .. => .ifStmt
  | caseClause .. => .caseClause
  | defaultClause .. => .defaultClause
  | switch .. => .switch
  | conditional .. => .conditional
  | binary .. => .binary
  | unary .. => .unary
  | identifier .. => .identifier
  | memberAccess .. => .memberAccess
  | call .. => .call
  | numeric .. => .numeric
  | string .. => .string
  | boolean .. => .boolean
  | noneLit .. => .noneLit
  | hint .. => .hint
  | arrayType .. => .arrayType
  | typeRef .. => .typeRef
  | compound .. => .compound

def span : Node → Span
  | module _ => Span.unknown
  | classDecl _ _ s | property _ _ _ _ s | param _ _ _ _ s | method _ _ _ _ s | block _ s
  | ifStmt _ _ _ s | caseClause _ _ s | defaultClause _ s | switch _ _ s | conditional _ _ _ s
  | binary _ _ _ s | unary _ _ s | identifier _ s | memberAccess _ _ s | call _ _ _ _ s
  | numeric _ s | string _ s | boolean _ s | noneLit s | hint _ s | arrayType _ s | typeRef _ s
  | compound _ _ s => s

/-- The same node at another place; its parts stay where they are. -/
def withSpan (s : Span) : Node → Node
  | module body => module body
  | classDecl n b _ => classDecl n b s
  | property n a v site _ => property n a v site s
  | param n a d k _ => param n a d k s
  | method h ps b r _ => method h ps b r s
  | block ss _ => block ss s
  | ifStmt t b o _ => ifStmt t b o s
  | caseClause t b _ => caseClause t b s
  | defaultClause b _ => defaultClause b s
  | switch x cs _ => switch x cs s
  | conditional t b o _ => conditional t b o s
  | binary l o r _ => binary l o r s
  | unary o x _ => unary o x s
  | identifier n _ => identifier n s
  | memberAccess t n _ => memberAccess t n s
  | call f as ks ns _ => call f as ks ns s
  | numeric v _ => numeric v s
  | string v _ => string v s
  | boolean v _ => boolean v s
  | noneLit _ => noneLit s
  | hint h _ => hint h s
  | arrayType e _ => arrayType e s
  | typeRef n _ => typeRef n s
  | compound l is _ => compound l is s

def name? : Node → Option String
  | classDecl n _ _ | property n _ _ _ _ | param n _ _ _ _ | identifier n _ | memberAccess _ n _
  | typeRef n _ => some n
  | method head _ _ _ _ => some head.name
  | hint h _ => some h.label
  | _ => none

def children : Node → List Node
  | module body => body
  | classDecl _ body _ => body
  | property _ a v _ _ => a.toList ++ v.toList
  | param _ a d _ _ => a.toList ++ d.toList
  | method _ ps b r _ => ps ++ b :: r.toList
  | block ss _ => ss
  | ifStmt t b o _ => t :: b :: o.toList
  | caseClause t b _ => [t, b]
  | defaultClause b _ => [b]
  | switch x cs _ => x :: cs
  | conditional t b o _ => [t, b, o]
  | binary l _ r _ => [l, r]
  | unary _ x _ => [x]
  | memberAccess t _ _ => [t]
  | call f as ks _ _ => f :: (as ++ ks)
  | arrayType e _ => [e]
  | compound _ is _ => is
  | identifier .. | numeric .. | string .. | boolean .. | noneLit .. | hint .. | typeRef .. => []

theorem sizeOf_lt_of_mem_toList {o : Option Node} {c : Node} (h : c ∈ o.toList) :
    sizeOf c < sizeOf o := by
  cases o with
  | none => simp at h
  | some x =>
    simp only [Option.toList_some, List.mem_singleton] at h
    subst h
    simp

theorem sizeOf_lt_of_mem_children {n c : Node} (h : c ∈ n.children) : sizeOf c < sizeOf n := by
  cases n <;> simp only [children, List.mem_append, List.mem_cons, List.not_mem_nil, or_false] at h
  case module body => have := List.sizeOf_lt_of_mem h; simp; omega
  case classDecl _ body _ => have := List.sizeOf_lt_of_mem h; simp; omega
  case property _ a v _ _ =>
    rcases h with h | h <;> have := sizeOf_lt_of_mem_toList h <;> simp <;> omega
  case param _ a d _ _ =>
    rcases h with h | h <;> have := sizeOf_lt_of_mem_toList h <;> simp <;> omega
  case method _ ps b r _ =>
    rcases h with h | h | h
    · have := List.sizeOf_lt_of_mem h; simp; omega
    · subst h; simp; omega
    · have := sizeOf_lt_of_mem_toList h; simp; omega
  case block ss _ => have := List.sizeOf_lt_of_mem h; simp; omega
  case ifStmt t b o _ =>
    rcases h with h | h | h
    · subst h; simp; omega
    · subst h; simp; omega
    · have := sizeOf_lt_of_mem_toList h; simp; omega
  case caseClause => rcases h with h | h <;> subst h <;> simp <;> omega
  case defaultClause => subst h; simp; omega
  case switch x cs _ =>
    rcases h with h | h
    · subst h; simp; omega
    · have := List.sizeOf_lt_of_mem h; simp; omega
  case conditional => rcases h with h | h | h <;> subst h <;> simp <;> omega
  case binary => rcases h with h | h <;> subst h <;> simp <;> omega
  case unary => subst h; simp; omega
  case memberAccess => subst h; simp; omega
  case call f as ks _ _ =>
    rcases h with h | h | h
    · subst h; simp; omega
    · have := List.sizeOf_lt_of_mem h; simp; omega
    · have := List.sizeOf_lt_of_mem h; simp; omega
  case arrayType => subst h; simp; omega
  case compound _ is _ => have := List.sizeOf_lt_of_mem h; simp; omega

def isSameDeclaration : Node → Node → Bool
  | property n _ _ site s, property n' _ _ site' s' => n == n' && site == site' && s == s'
  | param n _ _ _ s, param n' _ _ _ s' => n == n' && s == s'
  | _, _ => false

/-- Names and attributes refer to a value by name. -/
def reference? : Node → Option String
  | identifier n _ => some n
  | memberAccess _ n _ => some n
  | _ => none

theorem exists_of_reference {n : Node} (h : n.reference?.isSome) :
    (∃ name s, n = identifier name s) ∨ ∃ target name s, n = memberAccess target name s := by
  cases n with
  | identifier name s => exact .inl ⟨name, s, rfl⟩
  | memberAccess target name s => exact .inr ⟨target, name, s, rfl⟩
  | _ => cases h

instance : Inhabited Node := ⟨noneLit Span.unknown⟩

end Node
end BranchCover
