import BranchCover.Source.Parse

/-! The names in a syntax tree. A property may hold of every name that a tree binds or refers to; the
paths and the words of imports are no names of the tree. -/
namespace BranchCover
namespace Source

mutual

/-- Every name in an expression has the property. -/
inductive Expr.Named (P : String → Prop) : Expr → Prop where
  | constant {c : Constant} {s : Span} : Expr.Named P (.constant c s)
  | name {id : String} {s : Span} (hid : P id) : Expr.Named P (.name id s)
  | member {value : Expr} {attr : String} {s : Span} (hvalue : Expr.Named P value)
      (hattr : P attr) : Expr.Named P (.member value attr s)
  | subscript {value index : Expr} {a : Access} {s : Span} (hvalue : Expr.Named P value)
      (hindex : Expr.Named P index) : Expr.Named P (.subscript value index a s)
  | starred {value : Expr} {a : Access} {s : Span} (hvalue : Expr.Named P value) :
      Expr.Named P (.starred value a s)
  | list {items : List Expr} {a : Access} {s : Span} (hitems : ∀ e ∈ items, Expr.Named P e) :
      Expr.Named P (.list items a s)
  | tuple {items : List Expr} {a : Access} {s : Span} (hitems : ∀ e ∈ items, Expr.Named P e) :
      Expr.Named P (.tuple items a s)
  | set {items : List Expr} {s : Span} (hitems : ∀ e ∈ items, Expr.Named P e) :
      Expr.Named P (.set items s)
  | dict {items : List DictItem} {s : Span} (hitems : ∀ i ∈ items, DictItem.Named P i) :
      Expr.Named P (.dict items s)
  | listComp {item : Expr} {loops : List Comprehension} {s : Span} (hitem : Expr.Named P item)
      (hloops : ∀ l ∈ loops, Comprehension.Named P l) : Expr.Named P (.listComp item loops s)
  | setComp {item : Expr} {loops : List Comprehension} {s : Span} (hitem : Expr.Named P item)
      (hloops : ∀ l ∈ loops, Comprehension.Named P l) : Expr.Named P (.setComp item loops s)
  | dictComp {key value : Expr} {loops : List Comprehension} {s : Span} (hkey : Expr.Named P key)
      (hvalue : Expr.Named P value) (hloops : ∀ l ∈ loops, Comprehension.Named P l) :
      Expr.Named P (.dictComp key value loops s)
  | generator {item : Expr} {loops : List Comprehension} {s : Span} (hitem : Expr.Named P item)
      (hloops : ∀ l ∈ loops, Comprehension.Named P l) : Expr.Named P (.generator item loops s)
  | lambda {params : Parameters} {body : Expr} {s : Span} (hparams : Parameters.Named P params)
      (hbody : Expr.Named P body) : Expr.Named P (.lambda params body s)
  | boolOp {op : BoolOp} {values : List Expr} {s : Span} (hvalues : ∀ e ∈ values, Expr.Named P e) :
      Expr.Named P (.boolOp op values s)
  | named {target value : Expr} {s : Span} (htarget : Expr.Named P target)
      (hvalue : Expr.Named P value) : Expr.Named P (.named target value s)
  | binary {left right : Expr} {op : BinaryOp} {s : Span} (hleft : Expr.Named P left)
      (hright : Expr.Named P right) : Expr.Named P (.binary left op right s)
  | unary {op : UnaryOp} {operand : Expr} {s : Span} (hoperand : Expr.Named P operand) :
      Expr.Named P (.unary op operand s)
  | conditional {test body orelse : Expr} {s : Span} (htest : Expr.Named P test)
      (hbody : Expr.Named P body) (horelse : Expr.Named P orelse) :
      Expr.Named P (.conditional test body orelse s)
  | await {value : Expr} {s : Span} (hvalue : Expr.Named P value) : Expr.Named P (.await value s)
  | yield {value : Option Expr} {s : Span} (hvalue : ∀ e ∈ value, Expr.Named P e) :
      Expr.Named P (.yield value s)
  | yieldFrom {value : Expr} {s : Span} (hvalue : Expr.Named P value) :
      Expr.Named P (.yieldFrom value s)
  | compare {left : Expr} {relations : List Relation} {rights : List Expr} {s : Span}
      (hleft : Expr.Named P left) (hrights : ∀ e ∈ rights, Expr.Named P e) :
      Expr.Named P (.compare left relations rights s)
  | call {func : Expr} {args : List Expr} {keywords : List Keyword} {s : Span}
      (hfunc : Expr.Named P func) (hargs : ∀ e ∈ args, Expr.Named P e)
      (hkeywords : ∀ k ∈ keywords, Keyword.Named P k) : Expr.Named P (.call func args keywords s)
  | field {value : Expr} {conversion : Option Char} {format : Option Expr} {s : Span}
      (hvalue : Expr.Named P value) (hformat : ∀ e ∈ format, Expr.Named P e) :
      Expr.Named P (.field value conversion format s)
  | formatted {parts : List Expr} {s : Span} (hparts : ∀ e ∈ parts, Expr.Named P e) :
      Expr.Named P (.formatted parts s)
  | slice {lower upper step : Option Expr} {s : Span} (hlower : ∀ e ∈ lower, Expr.Named P e)
      (hupper : ∀ e ∈ upper, Expr.Named P e) (hstep : ∀ e ∈ step, Expr.Named P e) :
      Expr.Named P (.slice lower upper step s)

inductive DictItem.Named (P : String → Prop) : DictItem → Prop where
  | pair {key value : Expr} (hkey : Expr.Named P key) (hvalue : Expr.Named P value) :
      DictItem.Named P (.pair key value)
  | spread {value : Expr} (hvalue : Expr.Named P value) : DictItem.Named P (.spread value)

inductive Keyword.Named (P : String → Prop) : Keyword → Prop where
  | mk {name : Option String} {value : Expr} (hname : ∀ n ∈ name, P n)
      (hvalue : Expr.Named P value) : Keyword.Named P (.mk name value)

inductive Comprehension.Named (P : String → Prop) : Comprehension → Prop where
  | mk {target iter : Expr} {tests : List Expr} {isAsync : Bool} (htarget : Expr.Named P target)
      (hiter : Expr.Named P iter) (htests : ∀ e ∈ tests, Expr.Named P e) :
      Comprehension.Named P (.mk target iter tests isAsync)

inductive Param.Named (P : String → Prop) : Param → Prop where
  | mk {name : String} {typing default : Option Expr} {s : Span} (hname : P name)
      (htyping : ∀ e ∈ typing, Expr.Named P e) (hdefault : ∀ e ∈ default, Expr.Named P e) :
      Param.Named P (.mk name typing default s)

inductive Parameters.Named (P : String → Prop) : Parameters → Prop where
  | mk {posOnly args kwOnly : List Param} {rest keywords : Option Param}
      (hposOnly : ∀ p ∈ posOnly, Param.Named P p) (hargs : ∀ p ∈ args, Param.Named P p)
      (hrest : ∀ p ∈ rest, Param.Named P p) (hkwOnly : ∀ p ∈ kwOnly, Param.Named P p)
      (hkeywords : ∀ p ∈ keywords, Param.Named P p) :
      Parameters.Named P (.mk posOnly args rest kwOnly keywords)

end

inductive Pattern.Named (P : String → Prop) : Pattern → Prop where
  | value {value : Expr} {s : Span} (hvalue : value.Named P) : Pattern.Named P (.value value s)
  | singleton {c : Constant} {s : Span} : Pattern.Named P (.singleton c s)
  | alternatives {ps : List Pattern} {s : Span} (hps : ∀ p ∈ ps, Pattern.Named P p) :
      Pattern.Named P (.alternatives ps s)
  | capture {p : Option Pattern} {name : Option String} {s : Span}
      (hp : ∀ q ∈ p, Pattern.Named P q) (hname : ∀ n ∈ name, P n) :
      Pattern.Named P (.capture p name s)
  | sequence {ps : List Pattern} {s : Span} (hps : ∀ p ∈ ps, Pattern.Named P p) :
      Pattern.Named P (.sequence ps s)
  | mapping {keys : List Expr} {ps : List Pattern} {rest : Option String} {s : Span}
      (hkeys : ∀ e ∈ keys, e.Named P) (hps : ∀ p ∈ ps, Pattern.Named P p)
      (hrest : ∀ n ∈ rest, P n) : Pattern.Named P (.mapping keys ps rest s)
  | object {cls : Expr} {ps named : List Pattern} {names : List String} {s : Span}
      (hcls : cls.Named P) (hps : ∀ p ∈ ps, Pattern.Named P p) (hnames : ∀ n ∈ names, P n)
      (hnamed : ∀ p ∈ named, Pattern.Named P p) : Pattern.Named P (.object cls ps names named s)
  | star {name : Option String} {s : Span} (hname : ∀ n ∈ name, P n) :
      Pattern.Named P (.star name s)

structure WithItem.Named (P : String → Prop) (i : WithItem) : Prop where
  context : i.context.Named P
  target : ∀ e ∈ i.target, e.Named P

mutual

inductive Stmt.Named (P : String → Prop) : Stmt → Prop where
  | function {name : String} {params : Parameters} {body : List Stmt} {decorators : List Expr}
      {returns : Option Expr} {isAsync : Bool} {s : Span} (hname : P name)
      (hparams : params.Named P) (hbody : ∀ x ∈ body, Stmt.Named P x)
      (hdecorators : ∀ e ∈ decorators, e.Named P) (hreturns : ∀ e ∈ returns, e.Named P) :
      Stmt.Named P (.function name params body decorators returns isAsync s)
  | classDef {name : String} {bases : List Expr} {keywords : List Keyword} {body : List Stmt}
      {decorators : List Expr} {s : Span} (hname : P name) (hbases : ∀ e ∈ bases, e.Named P)
      (hkeywords : ∀ k ∈ keywords, k.Named P) (hbody : ∀ x ∈ body, Stmt.Named P x)
      (hdecorators : ∀ e ∈ decorators, e.Named P) :
      Stmt.Named P (.classDef name bases keywords body decorators s)
  | returnStmt {value : Option Expr} {s : Span} (hvalue : ∀ e ∈ value, e.Named P) :
      Stmt.Named P (.returnStmt value s)
  | delete {targets : List Expr} {s : Span} (htargets : ∀ e ∈ targets, e.Named P) :
      Stmt.Named P (.delete targets s)
  | assign {targets : List Expr} {value : Expr} {s : Span} (htargets : ∀ e ∈ targets, e.Named P)
      (hvalue : value.Named P) : Stmt.Named P (.assign targets value s)
  | augment {target value : Expr} {op : BinaryOp} {s : Span} (htarget : target.Named P)
      (hvalue : value.Named P) : Stmt.Named P (.augment target op value s)
  | annotate {target typing : Expr} {value : Option Expr} {s : Span} (htarget : target.Named P)
      (htyping : typing.Named P) (hvalue : ∀ e ∈ value, e.Named P) :
      Stmt.Named P (.annotate target typing value s)
  | forLoop {target iter : Expr} {body orelse : List Stmt} {isAsync : Bool} {s : Span}
      (htarget : target.Named P) (hiter : iter.Named P) (hbody : ∀ x ∈ body, Stmt.Named P x)
      (horelse : ∀ x ∈ orelse, Stmt.Named P x) :
      Stmt.Named P (.forLoop target iter body orelse isAsync s)
  | whileLoop {test : Expr} {body orelse : List Stmt} {s : Span} (htest : test.Named P)
      (hbody : ∀ x ∈ body, Stmt.Named P x) (horelse : ∀ x ∈ orelse, Stmt.Named P x) :
      Stmt.Named P (.whileLoop test body orelse s)
  | ifStmt {test : Expr} {body orelse : List Stmt} {s : Span} (htest : test.Named P)
      (hbody : ∀ x ∈ body, Stmt.Named P x) (horelse : ∀ x ∈ orelse, Stmt.Named P x) :
      Stmt.Named P (.ifStmt test body orelse s)
  | withStmt {items : List WithItem} {body : List Stmt} {isAsync : Bool} {s : Span}
      (hitems : ∀ i ∈ items, i.Named P) (hbody : ∀ x ∈ body, Stmt.Named P x) :
      Stmt.Named P (.withStmt items body isAsync s)
  | matchStmt {subject : Expr} {cases : List MatchCase} {s : Span} (hsubject : subject.Named P)
      (hcases : ∀ c ∈ cases, MatchCase.Named P c) : Stmt.Named P (.matchStmt subject cases s)
  | raise {exception cause : Option Expr} {s : Span} (hexception : ∀ e ∈ exception, e.Named P)
      (hcause : ∀ e ∈ cause, e.Named P) : Stmt.Named P (.raise exception cause s)
  | tryStmt {body orelse final : List Stmt} {handlers : List Handler} {isStar : Bool} {s : Span}
      (hbody : ∀ x ∈ body, Stmt.Named P x) (hhandlers : ∀ h ∈ handlers, Handler.Named P h)
      (horelse : ∀ x ∈ orelse, Stmt.Named P x) (hfinal : ∀ x ∈ final, Stmt.Named P x) :
      Stmt.Named P (.tryStmt body handlers orelse final isStar s)
  | assert {test : Expr} {message : Option Expr} {s : Span} (htest : test.Named P)
      (hmessage : ∀ e ∈ message, e.Named P) : Stmt.Named P (.assert test message s)
  | importStmt {names : List Alias} {s : Span} : Stmt.Named P (.importStmt names s)
  | importFrom {path : Option String} {names : List Alias} {level : Nat} {s : Span} :
      Stmt.Named P (.importFrom path names level s)
  | global {names : List String} {s : Span} (hnames : ∀ n ∈ names, P n) :
      Stmt.Named P (.global names s)
  | nonlocal {names : List String} {s : Span} (hnames : ∀ n ∈ names, P n) :
      Stmt.Named P (.nonlocal names s)
  | expr {value : Expr} {s : Span} (hvalue : value.Named P) : Stmt.Named P (.expr value s)
  | pass {s : Span} : Stmt.Named P (.pass s)
  | breakStmt {s : Span} : Stmt.Named P (.breakStmt s)
  | continueStmt {s : Span} : Stmt.Named P (.continueStmt s)

inductive MatchCase.Named (P : String → Prop) : MatchCase → Prop where
  | mk {pattern : Pattern} {guard : Option Expr} {body : List Stmt} (hpattern : pattern.Named P)
      (hguard : ∀ e ∈ guard, e.Named P) (hbody : ∀ x ∈ body, Stmt.Named P x) :
      MatchCase.Named P (.mk pattern guard body)

inductive Handler.Named (P : String → Prop) : Handler → Prop where
  | mk {type : Option Expr} {name : Option String} {body : List Stmt} {s : Span}
      (htype : ∀ e ∈ type, e.Named P) (hname : ∀ n ∈ name, P n)
      (hbody : ∀ x ∈ body, Stmt.Named P x) : Handler.Named P (.mk type name body s)

end

end Source
end BranchCover
