import BranchCover.Source.Tree
import BranchCover.Text.Basic
import BranchCover.Text.Quoted

/-! The written form of an expression that does not depend on how it was spelled: one space around
operators, single quotes where they fit, and brackets only where the grammar needs them. -/
namespace BranchCover
namespace Source

inductive Unwritable where
  | tooManyDigits
  /-- A replacement field cannot hold a backslash. -/
  | backslashInField
  deriving DecidableEq

def Unwritable.message : Unwritable → String
  | tooManyDigits => Numeral.digitLimitMessage
  | backslashInField => "Unable to avoid backslash in f-string expression part"

/-- How tightly a place binds: an expression of a looser form stands there in brackets. -/
abbrev Level := Nat

namespace Level

def named : Level := 1
def tuple : Level := 2
def yield : Level := 3
def test : Level := 4
def or : Level := 5
def and : Level := 6
def not : Level := 7
def compare : Level := 8
def bitOr : Level := 9
def bitXor : Level := 10
def bitAnd : Level := 11
def shift : Level := 12
def sum : Level := 13
def term : Level := 14
def factor : Level := 15
def power : Level := 16
def await : Level := 17
def atom : Level := 18

/-- The next tighter level; nothing is tighter than an atom. -/
def next (l : Level) : Level :=
  min atom (l + 1)

def ofBoolOp : BoolOp → Level
  | .and => and
  | .or => or

def ofUnaryOp : UnaryOp → Level
  | .not => not
  | _ => factor

def ofBinaryOp : BinaryOp → Level
  | .add | .sub => sum
  | .mult | .matMult | .div | .mod | .floorDiv => term
  | .pow => power
  | .leftShift | .rightShift => shift
  | .bitOr => bitOr
  | .bitXor => bitXor
  | .bitAnd => bitAnd

/-- Powers group to the right, all other operators to the left. -/
def operands (op : BinaryOp) : Level × Level :=
  if op = .pow then (next (ofBinaryOp op), ofBinaryOp op) else (ofBinaryOp op, next (ofBinaryOp op))

end Level

namespace Print

/-- The four kinds of quotes, the preferred ones first. -/
def quotes : List (List Char) :=
  [['\''], ['"'], ['"', '"', '"'], ['\'', '\'', '\'']]

/-- One code point of a string whose quotes are still open. Line feeds and tabs are written by name
only where that is asked for. -/
def unit (nameBlanks : Bool) (p : CodePoint) : List Char :=
  if !nameBlanks && p.val == 0x0A then ['\n']
  else if !nameBlanks && p.val == 0x09 then ['\t']
  else Quoted.unit Printable.test '\\' p

/-- The inside of a string with as few escapes as possible, and the quotes that may stand around
it. -/
def inside (nameBlanks : Bool) (allowed : List (List Char)) (t : Text) :
    List Char × List (List Char) :=
  let cs := t.flatMap (unit nameBlanks)
  let fitting := allowed.filter fun q =>
    !(cs.contains '\n' && q.length == 1) && !Piece.isIn q cs
  match fitting with
  | [] =>
    let q := Quoted.quoteFor t
    (t.flatMap (Quoted.unit Printable.test q), [(allowed.find? (·.contains q)).getD [q]])
  | _ =>
    match cs.getLast? with
    | none => (cs, fitting)
    | some c =>
      let (worse, better) := fitting.partition (·.contains c)
      match better with
      | [] => (cs.dropLast ++ ['\\', c], worse)
      | _ => (cs, better ++ worse)

def plainLiteral (t : Text) : List Char :=
  let (cs, qs) := inside false quotes t
  let q := qs.headD []
  q ++ cs ++ q

/-- A formatted string from its parts, each with whether it is literal text. One kind of quotes has
to fit all of them. -/
def formattedLiteral (parts : List (Text × Bool)) : List Char :=
  let rec fit (qs : List (List Char)) : List (Text × Bool) → Option (List Char × List (List Char))
    | [] => some ([], qs)
    | (t, isText) :: rest => do
      let (cs, qs') := inside isText qs t
      if qs'.all (!qs.contains ·) then none
      else
        let (more, last) ← fit qs' rest
        pure (cs ++ more, last)
  match fit quotes parts with
  | some (cs, qs) => qs.headD [] ++ cs ++ qs.headD []
  | none =>
    let q := ['\'', '\'', '\'']
    q ++ parts.flatMap (fun (t, _) => t.flatMap (Quoted.unit Printable.test '\'')) ++ q

def doubleBraces (t : Text) : Text :=
  t.flatMap fun p => if p.val == 0x7B || p.val == 0x7D then [p, p] else [p]

/-- A number whose magnitude is beyond the greatest finite one is written as a decimal that is. -/
def realText (f : RealFormat) (x : Binary64) : List Char :=
  (RealFormat.text ⟨f.lowest, f.highest, f.exponentWidth, f.keepsPoint, "1e309", "(1e309-1e309)"⟩ x).toList

/-- The text of a literal; `plain` asks for a string without backslashes. -/
def constant (plain : Bool) : Constant → Except Unwritable (List Char)
  | .none => pure "None".toList
  | .ellipsis => pure "...".toList
  | .bool b => pure (if b then "True" else "False").toList
  | .number (.int n) =>
    if Numeral.tooLong n then throw .tooManyDigits else pure (Numeral.intText n)
  | .number (.real x) => pure (realText .standard x)
  | .imaginary x => pure (realText .bare x ++ ['j'])
  | .string t marked =>
    pure ((if marked then ['u'] else []) ++ if plain then plainLiteral t else Quoted.literal t)
  | .bytes bs => pure (Quoted.bytes bs)

def enclose (needed : Bool) (cs : List Char) : List Char :=
  if needed then '(' :: (cs ++ [')']) else cs

def commas (ts : List (List Char)) : List Char :=
  Piece.join [',', ' '] ts

/-- Items of a tuple: a single one is followed by a comma. -/
def items : List (List Char) → List Char
  | [t] => t ++ [',']
  | ts => commas ts

def isInteger : Expr → Bool
  | .constant (.number (.int _)) _ | .constant (.bool _) _ => true
  | _ => false

def field (v : List Char) (conversion : Option Char) (format : Text) : Except Unwritable Text :=
  if v.contains '\\' then throw .backslashInField
  else
    let head := (if v.head? = some '{' then ['{', ' '] else ['{']) ++ v ++
      (match conversion with
        | none => []
        | some c => ['!', c])
    pure (head.map CodePoint.ofChar ++ format ++ [CodePoint.ofChar '}'])

mutual

def expr (plain : Bool) (level : Level) : Expr → Except Unwritable (List Char)
  | .constant c _ => constant plain c
  | .name id _ => pure id.toList
  | .member value attr _ => do
    let v ← expr plain .atom value
    pure (v ++ (if isInteger value then [' ', '.'] else ['.']) ++ attr.toList)
  | .subscript value (.tuple (i :: is) _ _) _ _ => do
    let v ← expr plain .atom value
    let i ← expr plain .test i
    let is ← exprs plain .test is
    pure (v ++ '[' :: (items (i :: is) ++ [']']))
  | .subscript value index _ _ => do
    let v ← expr plain .atom value
    let i ← expr plain .test index
    pure (v ++ '[' :: (i ++ [']']))
  | .starred value _ _ => do
    let v ← expr plain .bitOr value
    pure ('*' :: v)
  | .list is _ _ => do
    let is ← exprs plain .test is
    pure ('[' :: (commas is ++ [']']))
  | .tuple is _ _ => do
    let ts ← exprs plain .test is
    pure (enclose (is.isEmpty || Level.tuple < level) (items ts))
  | .set is _ => do
    let ts ← exprs plain .test is
    pure ('{' :: (commas ts ++ ['}']))
  | .dict is _ => do
    let ts ← dictItems plain is
    pure ('{' :: (commas ts ++ ['}']))
  | .listComp item loops _ => do
    let i ← expr plain .test item
    let ls ← comprehensions plain loops
    pure ('[' :: (i ++ ls ++ [']']))
  | .setComp item loops _ => do
    let i ← expr plain .test item
    let ls ← comprehensions plain loops
    pure ('{' :: (i ++ ls ++ ['}']))
  | .dictComp key value loops _ => do
    let k ← expr plain .test key
    let v ← expr plain .test value
    let ls ← comprehensions plain loops
    pure ('{' :: (k ++ ':' :: ' ' :: (v ++ ls ++ ['}'])))
  | .generator item loops _ => do
    let i ← expr plain .test item
    let ls ← comprehensions plain loops
    pure (enclose true (i ++ ls))
  | .lambda ps body _ => do
    let ps ← parameters plain ps
    let b ← expr plain .test body
    let head := if ps.isEmpty then "lambda".toList else "lambda ".toList ++ ps
    pure (enclose (Level.test < level) (head ++ ':' :: ' ' :: b))
  | .boolOp op values _ => do
    let vs ← rising plain (Level.ofBoolOp op) values
    let word := match op with
      | .and => " and "
      | .or => " or "
    pure (enclose (Level.ofBoolOp op < level) (Piece.join word.toList vs))
  | .named target value _ => do
    let t ← expr plain .atom target
    let v ← expr plain .atom value
    pure (enclose (Level.named < level) (t ++ " := ".toList ++ v))
  | .binary left op right _ => do
    let l ← expr plain (Level.operands op).1 left
    let r ← expr plain (Level.operands op).2 right
    pure (enclose (Level.ofBinaryOp op < level) (l ++ ' ' :: (op.text.toList ++ ' ' :: r)))
  | .unary op operand _ => do
    let x ← expr plain (Level.ofUnaryOp op) operand
    let word := if op = .not then "not ".toList else op.text.toList
    pure (enclose (Level.ofUnaryOp op < level) (word ++ x))
  | .conditional test body orelse _ => do
    let b ← expr plain (Level.next .test) body
    let t ← expr plain (Level.next .test) test
    let o ← expr plain .test orelse
    pure (enclose (Level.test < level) (b ++ " if ".toList ++ t ++ " else ".toList ++ o))
  | .await value _ => do
    let v ← expr plain .atom value
    pure (enclose (Level.await < level) ("await ".toList ++ v))
  | .yield none _ => pure (enclose (Level.yield < level) "yield".toList)
  | .yield (some value) _ => do
    let v ← expr plain .atom value
    pure (enclose (Level.yield < level) ("yield ".toList ++ v))
  | .yieldFrom value _ => do
    let v ← expr plain .atom value
    pure (enclose (Level.yield < level) ("yield from ".toList ++ v))
  | .compare left relations rights _ => do
    let l ← expr plain (Level.next .compare) left
    let rs ← exprs plain (Level.next .compare) rights
    let tail := (relations.zip rs).flatMap fun (o, r) => ' ' :: (o.text.toList ++ ' ' :: r)
    pure (enclose (Level.compare < level) (l ++ tail))
  | .call func args ks _ => do
    let f ← expr plain .atom func
    let as ← exprs plain .test args
    let ks ← keywords plain ks
    pure (f ++ '(' :: (commas (as ++ ks) ++ [')']))
  | .field value conversion format _ => do
    let v ← expr true (Level.next .test) value
    let f ← fieldFormat format
    let t ← field v conversion f
    pure (t.filterMap CodePoint.toChar?)
  | .formatted parts _ =>
    if plain then do
      let ts ← fieldParts parts
      pure ('f' :: plainLiteral (ts.flatMap (·.1)))
    else do
      let ts ← fieldParts parts
      pure ('f' :: formattedLiteral ts)
  | .slice lower upper step _ => do
    let l ← optional plain lower
    let u ← optional plain upper
    let s ← match step with
      | none => pure []
      | some s => do
        let s ← expr plain .test s
        pure (':' :: s)
    pure (l ++ ':' :: (u ++ s))

def exprs (plain : Bool) (level : Level) : List Expr → Except Unwritable (List (List Char))
  | [] => pure []
  | e :: es => do
    let t ← expr plain level e
    let ts ← exprs plain level es
    pure (t :: ts)

/-- Operands of a chain: each binds tighter than the one before it. -/
def rising (plain : Bool) (level : Level) : List Expr → Except Unwritable (List (List Char))
  | [] => pure []
  | e :: es => do
    let t ← expr plain level.next e
    let ts ← rising plain level.next es
    pure (t :: ts)

def optional (plain : Bool) : Option Expr → Except Unwritable (List Char)
  | none => pure []
  | some e => expr plain .test e

def dictItems (plain : Bool) : List DictItem → Except Unwritable (List (List Char))
  | [] => pure []
  | .pair k v :: is => do
    let k ← expr plain .test k
    let v ← expr plain .test v
    let ts ← dictItems plain is
    pure ((k ++ ':' :: ' ' :: v) :: ts)
  | .spread v :: is => do
    let v ← expr plain .bitOr v
    let ts ← dictItems plain is
    pure (('*' :: '*' :: v) :: ts)

def comprehensions (plain : Bool) : List Comprehension → Except Unwritable (List Char)
  | [] => pure []
  | .mk target iter tests isAsync :: cs => do
    let t ← expr plain .tuple target
    let i ← expr plain (Level.next .test) iter
    let ts ← exprs plain (Level.next .test) tests
    let rest ← comprehensions plain cs
    pure ((if isAsync then " async for " else " for ").toList ++ t ++ " in ".toList ++ i ++
      ts.flatMap (" if ".toList ++ ·) ++ rest)

def keywords (plain : Bool) : List Keyword → Except Unwritable (List (List Char))
  | [] => pure []
  | .mk name value :: ks => do
    let v ← expr plain .test value
    let ts ← keywords plain ks
    pure ((match name with
      | none => '*' :: '*' :: v
      | some n => n.toList ++ '=' :: v) :: ts)

def param (plain : Bool) : Param → Except Unwritable (List Char)
  | .mk name note default _ => do
    let a ← match note with
      | none => pure []
      | some a => do
        let a ← expr plain .test a
        pure (':' :: ' ' :: a)
    let d ← match default with
      | none => pure []
      | some d => do
        let d ← expr plain .test d
        pure ('=' :: d)
    pure (name.toList ++ a ++ d)

def params (plain : Bool) : List Param → Except Unwritable (List (List Char))
  | [] => pure []
  | p :: ps => do
    let t ← param plain p
    let ts ← params plain ps
    pure (t :: ts)

def gathered (plain : Bool) : Option Param → Except Unwritable (Option (List Char))
  | none => pure none
  | some p => do
    let t ← param plain p
    pure (some t)

def parameters (plain : Bool) : Parameters → Except Unwritable (List Char)
  | .mk posOnly args rest kwOnly ks => do
    let ps ← params plain posOnly
    let as ← params plain args
    let r ← gathered plain rest
    let os ← params plain kwOnly
    let k ← gathered plain ks
    let bar := if posOnly.isEmpty then [] else [['/']]
    let star := match r with
      | some r => [('*' :: r)]
      | none => if kwOnly.isEmpty then [] else [['*']]
    pure (commas (ps ++ bar ++ as ++ star ++ os ++ k.toList.map ('*' :: '*' :: ·)))

def fieldFormat : Option Expr → Except Unwritable Text
  | none => pure []
  | some f => do
    let t ← fieldPart f
    pure (CodePoint.ofChar ':' :: t)

def fieldPart : Expr → Except Unwritable Text
  | .constant (.string t _) _ => pure (doubleBraces t)
  | .field value conversion format _ => do
    let v ← expr true (Level.next .test) value
    let f ← fieldFormat format
    field v conversion f
  | .formatted parts _ => do
    let ts ← fieldParts parts
    pure (ts.flatMap (·.1))
  | _ => pure []

def fieldParts : List Expr → Except Unwritable (List (Text × Bool))
  | [] => pure []
  | e :: es => do
    let t ← fieldPart e
    let ts ← fieldParts es
    pure ((t, e matches .constant ..) :: ts)

end

end Print

def Expr.written (e : Expr) : Except Unwritable String := do
  let cs ← Print.expr false .test e
  pure (String.ofList cs)

end Source
end BranchCover
