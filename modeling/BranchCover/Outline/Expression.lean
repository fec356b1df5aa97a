import BranchCover.Outline.Node
import BranchCover.Source.Tree

/-! The outline of an expression. Names, attributes, comparisons with one operator, conditionals,
calls, signs and literals have kinds of their own; all else is a compound of its parts in the order
of the grammar. -/
namespace BranchCover
namespace Outline

open Source

/-- A word of the grammar that stands at no place. -/
def leaf (label : String) : Node :=
  .compound label [] Span.unknown

def ofAccess : Access → Node
  | .load => leaf "Load"
  | .store => leaf "Store"
  | .del => leaf "Del"

def ofBoolOp : BoolOp → Node
  | .and => leaf "And"
  | .or => leaf "Or"

def ofBinaryOp : BinaryOp → Node
  | .add => leaf "Add"
  | .sub => leaf "Sub"
  | .mult => leaf "Mult"
  | .matMult => leaf "MatMult"
  | .div => leaf "Div"
  | .mod => leaf "Mod"
  | .pow => leaf "Pow"
  | .leftShift => leaf "LShift"
  | .rightShift => leaf "RShift"
  | .bitOr => leaf "BitOr"
  | .bitXor => leaf "BitXor"
  | .bitAnd => leaf "BitAnd"
  | .floorDiv => leaf "FloorDiv"

def ofRelation : Relation → Node
  | .eq => leaf "Eq"
  | .notEq => leaf "NotEq"
  | .lt => leaf "Lt"
  | .ltE => leaf "LtE"
  | .gt => leaf "Gt"
  | .gtE => leaf "GtE"
  | .is => leaf "Is"
  | .isNot => leaf "IsNot"
  | .isIn => leaf "In"
  | .notIn => leaf "NotIn"

def ofConstant (span : Span) : Constant → Node
  | .bool b => .boolean b span
  | .number n => .numeric n span
  | .string t _ => .string t span
  | .none => .noneLit span
  | .ellipsis | .imaginary _ | .bytes _ => .compound "Constant" [] span

mutual

def ofExpr : Expr → Node
  | .constant c s => ofConstant s c
  | .name id s => .identifier id s
  | .member value attr s => .memberAccess (ofExpr value) attr s
  | .subscript value index a s => .compound "Subscript" [ofExpr value, ofExpr index, ofAccess a] s
  | .starred value a s => .compound "Starred" [ofExpr value, ofAccess a] s
  | .list items a s => .compound "List" (ofExprs items ++ [ofAccess a]) s
  | .tuple items a s => .compound "Tuple" (ofExprs items ++ [ofAccess a]) s
  | .set items s => .compound "Set" (ofExprs items) s
  | .dict items s => .compound "Dict" (keys items ++ values items) s
  | .listComp item loops s => .compound "ListComp" (ofExpr item :: ofLoops loops) s
  | .setComp item loops s => .compound "SetComp" (ofExpr item :: ofLoops loops) s
  | .dictComp key value loops s =>
    .compound "DictComp" (ofExpr key :: ofExpr value :: ofLoops loops) s
  | .generator item loops s => .compound "GeneratorExp" (ofExpr item :: ofLoops loops) s
  | .lambda params body s => .compound "Lambda" [ofParameters params, ofExpr body] s
  | .boolOp op values s => .compound "BoolOp" (ofBoolOp op :: ofExprs values) s
  | .named target value s => .compound "NamedExpr" [ofExpr target, ofExpr value] s
  | .binary left op right s =>
    .compound "BinOp" [ofExpr left, ofBinaryOp op, ofExpr right] s
  | .unary .minus (.constant (.number n) _) s => .numeric n.neg s
  | .unary op operand s => .unary op (ofExpr operand) s
  | .conditional test body orelse s => .conditional (ofExpr test) (ofExpr body) (ofExpr orelse) s
  | .await value s => .compound "Await" [ofExpr value] s
  | .yield value s => .compound "Yield" (ofOptional value) s
  | .yieldFrom value s => .compound "YieldFrom" [ofExpr value] s
  | .compare left [relation] [right] s => .binary (ofExpr left) relation (ofExpr right) s
  | .compare left relations rights s =>
    .compound "Compare" (ofExpr left :: (relations.map ofRelation ++ ofExprs rights)) s
  | .call func args keywords s =>
    .call (ofExpr func) (ofExprs args) (ofKeywords keywords) (keywords.map Keyword.name) s
  | .field value _ format s => .compound "FormattedValue" (ofExpr value :: ofOptional format) s
  | .formatted parts s => .compound "JoinedStr" (ofExprs parts) s
  | .slice lower upper step s =>
    .compound "Slice" (ofOptional lower ++ ofOptional upper ++ ofOptional step) s

def ofExprs : List Expr → List Node
  | [] => []
  | e :: es => ofExpr e :: ofExprs es

def ofOptional : Option Expr → List Node
  | none => []
  | some e => [ofExpr e]

def ofKeywords : List Keyword → List Node
  | [] => []
  | .mk _ value :: ks => ofExpr value :: ofKeywords ks

def keys : List DictItem → List Node
  | [] => []
  | .pair key _ :: is => ofExpr key :: keys is
  | .spread _ :: is => keys is

def values : List DictItem → List Node
  | [] => []
  | .pair _ value :: is => ofExpr value :: values is
  | .spread value :: is => ofExpr value :: values is

def ofLoops : List Comprehension → List Node
  | [] => []
  | .mk target iter tests _ :: ls =>
    .compound "comprehension" (ofExpr target :: ofExpr iter :: ofExprs tests) Span.unknown ::
      ofLoops ls

def ofParam : Param → Node
  | .mk _ typing _ s => .compound "arg" (ofOptional typing) s

def ofParams : List Param → List Node
  | [] => []
  | p :: ps => ofParam p :: ofParams ps

def ofGathered : Option Param → List Node
  | none => []
  | some p => [ofParam p]

def ofDefault : Param → List Node
  | .mk _ _ default _ => ofOptional default

def ofDefaults : List Param → List Node
  | [] => []
  | p :: ps => ofDefault p ++ ofDefaults ps

/-- Parameters with their defaults: those of keyword parameters stand before the last of the
parameters, all others behind it. -/
def ofParameters : Parameters → Node
  | .mk posOnly args rest kwOnly keywords =>
    .compound "arguments"
      (ofParams posOnly ++ ofParams args ++ ofGathered rest ++ ofParams kwOnly ++
        ofDefaults kwOnly ++ ofGathered keywords ++ (ofDefaults posOnly ++ ofDefaults args))
      Span.unknown

end

@[simp] theorem ofExprs_eq (es : List Expr) : ofExprs es = es.map ofExpr := by
  induction es with
  | nil => rfl
  | cons e es ih => simp [ofExprs, ih]

@[simp] theorem ofKeywords_eq (ks : List Keyword) :
    ofKeywords ks = ks.map (ofExpr ∘ Keyword.value) := by
  induction ks with
  | nil => rfl
  | cons k ks ih => cases k; simp [ofKeywords, ih, Keyword.value]

end Outline
end BranchCover
