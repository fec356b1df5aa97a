import BranchCover.Outline.Node
import BranchCover.Source.Fault

/-! What an annotation says of a value. Wrappers that allow nothing but absence, or that only add
notes, are looked through; a string is read as the expression it holds. The reader of such strings
is a parameter, and a string that is no shorter than the one around it tells nothing, which
bounds the recursion. -/
namespace BranchCover
namespace Typing

open Source

def arrayNames : List String :=
  ["list", "List", "Sequence", "MutableSequence", "Iterable", "Iterator", "Collection", "set",
   "Set", "frozenset", "FrozenSet", "AbstractSet", "tuple", "Tuple"]

def unknownNames : List String :=
  ["Any", "object", "dict", "Dict", "Mapping", "MutableMapping", "Callable", "type", "Type",
   "None", "complex"]

def ofName (span : Span) (name : String) : Node :=
  if name == "int" || name == "float" then .hint .number span
  else if name == "str" then .hint .string span
  else if name == "bool" then .hint .boolean span
  else if arrayNames.contains name then .arrayType (.hint .any span) span
  else if unknownNames.contains name then .hint .any span
  else .typeRef name span

def isNone : Expr → Bool
  | .constant .none _ => true
  | .name id _ => id == "None"
  | _ => false

/-- The members of a union that is written with bars. -/
def members : Expr → List Expr
  | .binary left .bitOr right _ => members left ++ members right
  | e => [e]

theorem sizeOf_le_of_mem_members {e m : Expr} (h : m ∈ members e) : sizeOf m ≤ sizeOf e := by
  fun_induction members e with
  | case1 left right s ihl ihr =>
    simp only [List.mem_append] at h
    rcases h with h | h
    · have := ihl h; simp; omega
    · have := ihr h; simp; omega
  | case2 e => simp_all

def baseName : Expr → String
  | .name id _ => id
  | .member _ attr _ => attr
  | _ => ""

/-- What stands between the brackets of a generic type. -/
def arguments : Expr → List Expr
  | .tuple items _ _ => items
  | e => [e]

theorem sizeOf_le_of_mem_arguments {e a : Expr} (h : a ∈ arguments e) : sizeOf a ≤ sizeOf e := by
  cases e <;> simp only [arguments, List.mem_singleton] at h
  case tuple items _ _ => have := List.sizeOf_lt_of_mem h; simp; omega
  all_goals subst h; exact Nat.le_refl _

/-- Whether a text is within the bound on nested texts; the first text has none. -/
def fits (bound : Option Nat) (t : Text) : Bool :=
  bound.all (t.length < ·)

def sole? : List Expr → Option Expr
  | [e] => some e
  | _ => none

theorem mem_of_sole? {es : List Expr} {e : Expr} (h : sole? es = some e) : e ∈ es := by
  match es, h with
  | [x], h => simp [sole?] at h; simp [h]

/-- What an annotation stands for once its wrappers are taken off. -/
inductive Shape where
  /-- Nothing is known of the value. -/
  | unknown
  | named (name : String)
  | wrapped (inner : Expr)
  | array (element : Option Expr)
  | quoted (text : Text)

namespace Shape

def ofGeneric (base : String) (args : List Expr) : Shape :=
  match args with
  | a :: _ =>
    if base == "Optional" || base == "Annotated" || base == "Final" || base == "ClassVar" then
      wrapped a
    else if base == "Union" then
      match sole? (args.filter (!isNone ·)) with
      | some m => wrapped m
      | none => unknown
    else if arrayNames.contains base then array (some a)
    else if unknownNames.contains base || base == "Literal" then unknown
    else named base
  | [] =>
    if base == "Union" then unknown
    else if arrayNames.contains base then array none
    else if unknownNames.contains base || base == "Literal" then unknown
    else named base

def ofExpr (e : Expr) : Shape :=
  match e with
  | .constant (.string t _) _ => quoted t
  | .name id _ => named id
  | .member _ attr _ => named attr
  | .binary _ .bitOr _ _ =>
    match sole? ((members e).filter (!isNone ·)) with
    | some m => wrapped m
    | none => unknown
  | .subscript value index _ _ => ofGeneric (baseName value) (arguments index)
  | _ => unknown

/-- The expression that a shape still holds. -/
def inner? : Shape → Option Expr
  | wrapped e => some e
  | array element => element
  | _ => none

theorem sizeOf_lt_of_inner? {e i : Expr} (h : (ofExpr e).inner? = some i) :
    sizeOf i < sizeOf e := by
  cases e with
  | binary left op right s =>
    cases op <;> simp only [ofExpr] at h <;> try contradiction
    split at h <;> simp only [inner?, Option.some.injEq, reduceCtorEq] at h
    rename_i m hm
    subst h
    have hm := (List.mem_filter.mp (mem_of_sole? hm)).1
    simp only [members, List.mem_append] at hm
    rcases hm with hm | hm <;> have := sizeOf_le_of_mem_members hm <;> simp <;> omega
  | subscript value index a s =>
    have key : ∀ x ∈ arguments index, sizeOf x < sizeOf (Expr.subscript value index a s) := by
      intro x hx
      have := sizeOf_le_of_mem_arguments hx
      simp; omega
    simp only [ofExpr] at h
    revert key
    generalize arguments index = args at h ⊢
    intro key
    unfold ofGeneric at h
    split at h
    · split at h
      · simp only [inner?, Option.some.injEq] at h
        exact key i (by simp [h])
      · split at h
        · split at h <;> simp only [inner?, Option.some.injEq, reduceCtorEq] at h
          rename_i m hm
          subst h
          exact key _ (List.mem_filter.mp (mem_of_sole? hm)).1
        · split at h
          · simp only [inner?, Option.some.injEq] at h
            exact key i (by simp [h])
          · split at h <;> simp [inner?] at h
    · split at h
      · simp [inner?] at h
      · split at h
        · simp [inner?] at h
        · split at h <;> simp [inner?] at h
  | constant c s => cases c <;> simp [ofExpr, inner?] at h
  | _ => simp [ofExpr, inner?] at h

end Shape

/-- The node of an annotation. A string that is no expression tells nothing; one that cannot be
read at all is an error. -/
def read (expression : Text → Except Refusal Expr) (bound : Option Nat) (e : Expr) :
    Except Refusal Node :=
  match h : Shape.ofExpr e with
  | .unknown => pure (.hint .any e.span)
  | .named name => pure (ofName e.span name)
  | .wrapped inner =>
    have := Shape.sizeOf_lt_of_inner? (e := e) (i := inner) (by rw [h]; rfl)
    read expression bound inner
  | .array none => pure (.arrayType (.hint .any e.span) e.span)
  | .array (some element) => do
    have := Shape.sizeOf_lt_of_inner? (e := e) (i := element) (by rw [h]; rfl)
    let n ← read expression bound element
    pure (.arrayType n e.span)
  | .quoted t =>
    if hb : fits bound t then
      match expression t with
      | .ok inner => do
        let n ← read expression (some t.length) inner
        pure (n.withSpan e.span)
      | .error (.fault _) => pure (.hint .any e.span)
      | .error r => throw r
    else pure (.hint .any e.span)
termination_by (if bound.isNone then 1 else 0, bound.getD 0, sizeOf e)
decreasing_by
  · exact Prod.Lex.right _ (Prod.Lex.right _ this)
  · exact Prod.Lex.right _ (Prod.Lex.right _ this)
  · cases bound with
    | none => exact Prod.Lex.left _ _ (by simp)
    | some n =>
      refine Prod.Lex.right _ (Prod.Lex.left _ _ ?_)
      simpa [fits] using hb

end Typing
end BranchCover
