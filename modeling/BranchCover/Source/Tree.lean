import BranchCover.Decimal.Numeral
import BranchCover.Text.Basic
import BranchCover.Source.Cursor

/-! The syntax tree of a Python 3.11 module: expressions, patterns and statements with the places
they were read from. -/
namespace BranchCover
namespace Source

inductive Constant where
  | none
  | ellipsis
  | bool (value : Bool)
  | number (value : Numeral)
  | imaginary (value : Binary64)
  /-- A string; `marked` when its first part begins with `u`. -/
  | string (value : Text) (marked : Bool)
  | bytes (value : List UInt8)
  deriving DecidableEq

inductive Access where
  | load
  | store
  | del
  deriving DecidableEq

inductive BoolOp where
  | and
  | or
  deriving DecidableEq

inductive UnaryOp where
  | invert
  | not
  | plus
  | minus
  deriving DecidableEq

inductive BinaryOp where
  | add
  | sub
  | mult
  | matMult
  | div
  | mod
  | pow
  | leftShift
  | rightShift
  | bitOr
  | bitXor
  | bitAnd
  | floorDiv
  deriving DecidableEq

inductive Relation where
  | eq
  | notEq
  | lt
  | ltE
  | gt
  | gtE
  | is
  | isNot
  | isIn
  | notIn
  deriving DecidableEq

mutual

inductive Expr where
  | constant (value : Constant) (span : Span)
  | name (id : String) (span : Span)
  | member (value : Expr) (attr : String) (span : Span)
  | subscript (value index : Expr) (access : Access) (span : Span)
  | starred (value : Expr) (access : Access) (span : Span)
  | list (items : List Expr) (access : Access) (span : Span)
  | tuple (items : List Expr) (access : Access) (span : Span)
  | set (items : List Expr) (span : Span)
  | dict (items : List DictItem) (span : Span)
  | listComp (item : Expr) (loops : List Comprehension) (span : Span)
  | setComp (item : Expr) (loops : List Comprehension) (span : Span)
  | dictComp (key value : Expr) (loops : List Comprehension) (span : Span)
  | generator (item : Expr) (loops : List Comprehension) (span : Span)
  | lambda (params : Parameters) (body : Expr) (span : Span)
  | boolOp (op : BoolOp) (values : List Expr) (span : Span)
  | named (target value : Expr) (span : Span)
  | binary (left : Expr) (op : BinaryOp) (right : Expr) (span : Span)
  | unary (op : UnaryOp) (operand : Expr) (span : Span)
  | conditional (test body orelse : Expr) (span : Span)
  | await (value : Expr) (span : Span)
  | yield (value : Option Expr) (span : Span)
  | yieldFrom (value : Expr) (span : Span)
  | compare (left : Expr) (relations : List Relation) (rights : List Expr) (span : Span)
  | call (func : Expr) (args : List Expr) (keywords : List Keyword) (span : Span)
  /-- A replacement field of a formatted string. -/
  | field (value : Expr) (conversion : Option Char) (format : Option Expr) (span : Span)
  | formatted (parts : List Expr) (span : Span)
  | slice (lower upper step : Option Expr) (span : Span)

inductive DictItem where
  | pair (key value : Expr)
  | spread (value : Expr)

/-- An argument by name; without a name the value is a mapping that is spread. -/
inductive Keyword where
  | mk (name : Option String) (value : Expr)

inductive Comprehension where
  | mk (target iter : Expr) (tests : List Expr) (isAsync : Bool)

inductive Param where
  | mk (name : String) (typing default : Option Expr) (span : Span)

/-- The parameters of a function by kind: positional only, positional, the rest of the positional
ones, keyword only, and the rest of the keywords. -/
inductive Parameters where
  | mk (posOnly args : List Param) (rest : Option Param) (kwOnly : List Param)
      (keywords : Option Param)

end

inductive Pattern where
  | value (value : Expr) (span : Span)
  | singleton (value : Constant) (span : Span)
  | alternatives (patterns : List Pattern) (span : Span)
  /-- Binds a name to what the inner pattern matches; without a pattern anything matches. -/
  | capture (pattern : Option Pattern) (name : Option String) (span : Span)
  | sequence (patterns : List Pattern) (span : Span)
  | mapping (keys : List Expr) (patterns : List Pattern) (rest : Option String) (span : Span)
  | object (cls : Expr) (patterns : List Pattern) (names : List String)
      (named : List Pattern) (span : Span)
  | star (name : Option String) (span : Span)

structure Alias where
  name : String
  asName : Option String
  span : Span
  deriving DecidableEq

structure WithItem where
  context : Expr
  target : Option Expr

mutual

inductive Stmt where
  | function (name : String) (params : Parameters) (body : List Stmt) (decorators : List Expr)
      (returns : Option Expr) (isAsync : Bool) (span : Span)
  | classDef (name : String) (bases : List Expr) (keywords : List Keyword) (body : List Stmt)
      (decorators : List Expr) (span : Span)
  | returnStmt (value : Option Expr) (span : Span)
  | delete (targets : List Expr) (span : Span)
  | assign (targets : List Expr) (value : Expr) (span : Span)
  | augment (target : Expr) (op : BinaryOp) (value : Expr) (span : Span)
  | annotate (target typing : Expr) (value : Option Expr) (span : Span)
  | forLoop (target iter : Expr) (body orelse : List Stmt) (isAsync : Bool) (span : Span)
  | whileLoop (test : Expr) (body orelse : List Stmt) (span : Span)
  | ifStmt (test : Expr) (body orelse : List Stmt) (span : Span)
  | withStmt (items : List WithItem) (body : List Stmt) (isAsync : Bool) (span : Span)
  | matchStmt (subject : Expr) (cases : List MatchCase) (span : Span)
  | raise (exception cause : Option Expr) (span : Span)
  | tryStmt (body : List Stmt) (handlers : List Handler) (orelse final : List Stmt)
      (isStar : Bool) (span : Span)
  | assert (test : Expr) (message : Option Expr) (span : Span)
  | importStmt (names : List Alias) (span : Span)
  | importFrom (path : Option String) (names : List Alias) (level : Nat) (span : Span)
  | global (names : List String) (span : Span)
  | nonlocal (names : List String) (span : Span)
  | expr (value : Expr) (span : Span)
  | pass (span : Span)
  | breakStmt (span : Span)
  | continueStmt (span : Span)

inductive MatchCase where
  | mk (pattern : Pattern) (guard : Option Expr) (body : List Stmt)

inductive Handler where
  | mk (type : Option Expr) (name : Option String) (body : List Stmt) (span : Span)

end

def Expr.span : Expr → Span
  | constant _ s | name _ s | member _ _ s | subscript _ _ _ s | starred _ _ s | list _ _ s
  | tuple _ _ s | set _ s | dict _ s | listComp _ _ s | setComp _ _ s | dictComp _ _ _ s
  | generator _ _ s | lambda _ _ s | boolOp _ _ s | named _ _ s | binary _ _ _ s | unary _ _ s
  | conditional _ _ _ s | await _ s | yield _ s | yieldFrom _ s | compare _ _ _ s | call _ _ _ s
  | field _ _ _ s | formatted _ s | slice _ _ _ s => s

def Pattern.span : Pattern → Span
  | value _ s | singleton _ s | alternatives _ s | capture _ _ s | sequence _ s
  | mapping _ _ _ s | object _ _ _ _ s | star _ s => s

def Stmt.span : Stmt → Span
  | function _ _ _ _ _ _ s | classDef _ _ _ _ _ s | returnStmt _ s | delete _ s | assign _ _ s
  | augment _ _ _ s | annotate _ _ _ s | forLoop _ _ _ _ _ s | whileLoop _ _ _ s | ifStmt _ _ _ s
  | withStmt _ _ _ s | matchStmt _ _ s | raise _ _ s | tryStmt _ _ _ _ _ s | assert _ _ s
  | importStmt _ s | importFrom _ _ _ s | global _ s | nonlocal _ s | expr _ s | pass s
  | breakStmt s | continueStmt s => s

def Param.name : Param → String
  | mk n _ _ _ => n

def Param.typing : Param → Option Expr
  | mk _ a _ _ => a

def Param.default : Param → Option Expr
  | mk _ _ d _ => d

def Param.span : Param → Span
  | mk _ _ _ s => s

def Parameters.none : Parameters := .mk [] [] .none [] .none

def Parameters.positional : Parameters → List Param
  | mk posOnly args _ _ _ => posOnly ++ args

def Parameters.args : Parameters → List Param
  | mk _ args _ _ _ => args

def Parameters.kwOnly : Parameters → List Param
  | mk _ _ _ kwOnly _ => kwOnly

def Keyword.name : Keyword → Option String
  | mk n _ => n

def Keyword.value : Keyword → Expr
  | mk _ v => v

instance : Inhabited Expr := ⟨.constant .none Span.unknown⟩

instance : Inhabited Stmt := ⟨.pass Span.unknown⟩

instance : Inhabited Pattern := ⟨.star .none Span.unknown⟩

namespace Relation

def text : Relation → String
  | eq => "=="
  | notEq => "!="
  | lt => "<"
  | ltE => "<="
  | gt => ">"
  | gtE => ">="
  | is => "is"
  | isNot => "is not"
  | isIn => "in"
  | notIn => "not in"

end Relation

namespace UnaryOp

def text : UnaryOp → String
  | invert => "~"
  | not => "not"
  | plus => "+"
  | minus => "-"

end UnaryOp

namespace BinaryOp

def text : BinaryOp → String
  | add => "+"
  | sub => "-"
  | mult => "*"
  | matMult => "@"
  | div => "/"
  | mod => "%"
  | pow => "**"
  | leftShift => "<<"
  | rightShift => ">>"
  | bitOr => "|"
  | bitXor => "^"
  | bitAnd => "&"
  | floorDiv => "//"

end BinaryOp

end Source
end BranchCover
