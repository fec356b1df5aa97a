import BranchCover.Outline.Typing
import BranchCover.Proofs.Plain

/-! Expressions and annotations without their places. What an annotation is read as depends on the places
in it for nothing but places. -/
namespace BranchCover

namespace Source

mutual

/-- The expression with all its places unknown. -/
def Expr.unplaced : Expr → Expr
  | .constant value _ => .constant value Span.unknown
  | .name id _ => .name id Span.unknown
  | .member value attr _ => .member value.unplaced attr Span.unknown
  | .subscript value index access _ =>
    .subscript value.unplaced index.unplaced access Span.unknown
  | .starred value access _ => .starred value.unplaced access Span.unknown
  | .list items access _ => .list (unplacedExprs items) access Span.unknown
  | .tuple items access _ => .tuple (unplacedExprs items) access Span.unknown
  | .set items _ => .set (unplacedExprs items) Span.unknown
  | .dict items _ => .dict (unplacedItems items) Span.unknown
  | .listComp item loops _ => .listComp item.unplaced (unplacedLoops loops) Span.unknown
  | .setComp item loops _ => .setComp item.unplaced (unplacedLoops loops) Span.unknown
  | .dictComp key value loops _ =>
    .dictComp key.unplaced value.unplaced (unplacedLoops loops) Span.unknown
  | .generator item loops _ => .generator item.unplaced (unplacedLoops loops) Span.unknown
  | .lambda params body _ => .lambda params.unplaced body.unplaced Span.unknown
  | .boolOp op values _ => .boolOp op (unplacedExprs values) Span.unknown
  | .named target value _ => .named target.unplaced value.unplaced Span.unknown
  | .binary left op right _ => .binary left.unplaced op right.unplaced Span.unknown
  | .unary op operand _ => .unary op operand.unplaced Span.unknown
  | .conditional test body orelse _ =>
    .conditional test.unplaced body.unplaced orelse.unplaced Span.unknown
  | .await value _ => .await value.unplaced Span.unknown
  | .yield value _ => .yield (unplacedOptional value) Span.unknown
  | .yieldFrom value _ => .yieldFrom value.unplaced Span.unknown
  | .compare left relations rights _ =>
    .compare left.unplaced relations (unplacedExprs rights) Span.unknown
  | .call func args keywords _ =>
    .call func.unplaced (unplacedExprs args) (unplacedKeywords keywords) Span.unknown
  | .field value conversion format _ =>
    .field value.unplaced conversion (unplacedOptional format) Span.unknown
  | .formatted parts _ => .formatted (unplacedExprs parts) Span.unknown
  | .slice lower upper step _ =>
    .slice (unplacedOptional lower) (unplacedOptional upper) (unplacedOptional step) Span.unknown

def unplacedExprs : List Expr → List Expr
  | [] => []
  | e :: es => e.unplaced :: unplacedExprs es

def unplacedOptional : Option Expr → Option Expr
  | none => none
  | some e => some e.unplaced

def unplacedItems : List DictItem → List DictItem
  | [] => []
  | .pair key value :: is => .pair key.unplaced value.unplaced :: unplacedItems is
  | .spread value :: is => .spread value.unplaced :: unplacedItems is

def unplacedKeywords : List Keyword → List Keyword
  | [] => []
  | .mk name value :: ks => .mk name value.unplaced :: unplacedKeywords ks

def unplacedLoops : List Comprehension → List Comprehension
  | [] => []
  | .mk target iter tests isAsync :: ls =>
    .mk target.unplaced iter.unplaced (unplacedExprs tests) isAsync :: unplacedLoops ls

def Param.unplaced : Param → Param
  | .mk name typing default _ =>
    .mk name (unplacedOptional typing) (unplacedOptional default) Span.unknown

def unplacedParams : List Param → List Param
  | [] => []
  | p :: ps => p.unplaced :: unplacedParams ps

def unplacedGathered : Option Param → Option Param
  | none => none
  | some p => some p.unplaced

def Parameters.unplaced : Parameters → Parameters
  | .mk posOnly args rest kwOnly keywords =>
    .mk (unplacedParams posOnly) (unplacedParams args) (unplacedGathered rest)
      (unplacedParams kwOnly) (unplacedGathered keywords)

end

@[simp] theorem unplacedExprs_eq (es : List Expr) : unplacedExprs es = es.map Expr.unplaced := by
  induction es with
  | nil => rfl
  | cons e es ih => simp [unplacedExprs, ih]

end Source

/-- An annotation with its places unknown, and those of the types in it. Annotations are hints, arrays
and names of types; of other nodes all but the outermost place counts. -/
def Node.unplaced : Node → Node
  | .arrayType element _ => .arrayType element.unplaced Span.unknown
  | n => n.withSpan Span.unknown

@[simp] theorem Node.unplaced_withSpan (n : Node) (s : Span) : (n.withSpan s).unplaced = n.unplaced := by
  cases n <;> rfl

namespace Typing

open Source

theorem unplaced_ofName (s t : Span) (name : String) :
    (ofName s name).unplaced = (ofName t name).unplaced := by
  unfold ofName
  split_ifs <;> rfl

@[simp] theorem isNone_unplaced (e : Expr) : isNone e.unplaced = isNone e := by
  cases e with
  | constant c s => cases c <;> rfl
  | _ => rfl

theorem members_unplaced (e : Expr) : members e.unplaced = (members e).map Expr.unplaced := by
  fun_induction members e with
  | case1 left right s ihl ihr => rw [Expr.unplaced, members, ihl, ihr, List.map_append]
  | case2 e he =>
    cases e with
    | binary left op right s =>
      cases op <;> first | exact absurd rfl (he left right s) | rfl
    | _ => rfl

@[simp] theorem baseName_unplaced (e : Expr) : baseName e.unplaced = baseName e := by
  cases e <;> rfl

theorem arguments_unplaced (e : Expr) : arguments e.unplaced = (arguments e).map Expr.unplaced := by
  cases e <;> first | rfl | simp [Expr.unplaced, arguments]

theorem sole?_map (f : Expr → Expr) (es : List Expr) : sole? (es.map f) = (sole? es).map f := by
  match es with
  | [] | [_] | _ :: _ :: _ => rfl

theorem map_filter_unplaced (es : List Expr) :
    (es.filter (!isNone ·)).map Expr.unplaced = (es.map Expr.unplaced).filter (!isNone ·) := by
  rw [List.filter_map]
  congr 2
  funext e
  simp

namespace Shape

/-- A shape with the places in what it holds unknown. -/
def unplaced : Shape → Shape
  | wrapped inner => wrapped inner.unplaced
  | array element => array (element.map Expr.unplaced)
  | s => s

/-- The shape of a union from its members: that of the sole member that is not absence. -/
def ofUnion (es : List Expr) : Shape :=
  match sole? (es.filter (!isNone ·)) with
  | some m => wrapped m
  | none => unknown

theorem ofExpr_bars (left right : Expr) (s : Span) :
    ofExpr (.binary left .bitOr right s) = ofUnion (members left ++ members right) := rfl

theorem ofGeneric_cons (base : String) (a : Expr) (args : List Expr) :
    ofGeneric base (a :: args) =
      if base == "Optional" || base == "Annotated" || base == "Final" || base == "ClassVar" then
        wrapped a
      else if base == "Union" then ofUnion (a :: args)
      else if arrayNames.contains base then array (some a)
      else if unknownNames.contains base || base == "Literal" then unknown
      else named base := rfl

theorem ofUnion_unplaced (es : List Expr) :
    ofUnion (es.map Expr.unplaced) = (ofUnion es).unplaced := by
  unfold ofUnion
  rw [← map_filter_unplaced, sole?_map]
  cases sole? (es.filter (!isNone ·)) <;> rfl

theorem ofGeneric_unplaced (base : String) (args : List Expr) :
    ofGeneric base (args.map Expr.unplaced) = (ofGeneric base args).unplaced := by
  cases args with
  | nil =>
    simp only [List.map_nil, ofGeneric]
    split_ifs <;> rfl
  | cons a args =>
    have hunion := ofUnion_unplaced (a :: args)
    rw [List.map_cons] at hunion ⊢
    rw [ofGeneric_cons, ofGeneric_cons, hunion]
    split_ifs <;> rfl

theorem ofExpr_unplaced (e : Expr) : ofExpr e.unplaced = (ofExpr e).unplaced := by
  cases e with
  | constant c s => cases c <;> rfl
  | binary left op right s =>
    cases op <;> try rfl
    case bitOr =>
      rw [Expr.unplaced, ofExpr_bars, ofExpr_bars, members_unplaced, members_unplaced,
        ← List.map_append, ofUnion_unplaced]
  | subscript value index access s =>
    rw [Expr.unplaced, ofExpr, baseName_unplaced, arguments_unplaced, ofGeneric_unplaced]
    rfl
  | _ => rfl

theorem ofExpr_unplaced_of {e : Expr} {x : Shape} (h : ofExpr e = x) :
    ofExpr e.unplaced = x.unplaced := by
  rw [ofExpr_unplaced, h]

end Shape

section Read

variable {expression : Text → Except Refusal Expr} {bound : Option Nat} {e : Expr}

/-! What is read, from the shape. -/

theorem read_of_unknown (h : Shape.ofExpr e = .unknown) :
    read expression bound e = pure (.hint .any e.span) := by
  rw [read]
  split <;> rename_i heq <;> cases h.symm.trans heq
  rfl

theorem read_of_named {name : String} (h : Shape.ofExpr e = .named name) :
    read expression bound e = pure (ofName e.span name) := by
  rw [read]
  split <;> rename_i heq <;> cases h.symm.trans heq
  rfl

theorem read_of_wrapped {inner : Expr} (h : Shape.ofExpr e = .wrapped inner) :
    read expression bound e = read expression bound inner := by
  rw [read]
  split <;> rename_i heq <;> cases h.symm.trans heq
  rfl

theorem read_of_array_none (h : Shape.ofExpr e = .array none) :
    read expression bound e = pure (.arrayType (.hint .any e.span) e.span) := by
  rw [read]
  split <;> rename_i heq <;> cases h.symm.trans heq
  rfl

theorem read_of_array_some {element : Expr} (h : Shape.ofExpr e = .array (some element)) :
    read expression bound e =
      (fun n => .arrayType n e.span) <$> read expression bound element := by
  rw [read]
  split <;> rename_i heq <;> cases h.symm.trans heq
  rfl

theorem read_of_quoted {t : Text} (h : Shape.ofExpr e = .quoted t) :
    read expression bound e =
      if fits bound t then
        match expression t with
        | .ok inner => Node.withSpan e.span <$> read expression (some t.length) inner
        | .error (.fault _) => pure (.hint .any e.span)
        | .error r => throw r
      else pure (.hint .any e.span) := by
  rw [read]
  split <;> rename_i heq <;> cases h.symm.trans heq
  split <;> rfl

/-- Where two nodes are the same but for their places, so are those made of them. -/
theorem map_unplaced_congr {x y : Except Refusal Node} (h : Node.unplaced <$> x = Node.unplaced <$> y)
    {f g : Node → Node} (hfg : ∀ n m, n.unplaced = m.unplaced → (f n).unplaced = (g m).unplaced) :
    Node.unplaced <$> f <$> x = Node.unplaced <$> g <$> y := by
  cases x <;> cases y
  · exact h
  · cases h
  · cases h
  · exact congrArg Except.ok (hfg _ _ (Except.ok.inj h))

/-- By induction on how an annotation is read: without places it is read as the same. -/
theorem read_unplaced (expression : Text → Except Refusal Expr) (bound : Option Nat) (e : Expr) :
    Node.unplaced <$> read expression bound e.unplaced =
      Node.unplaced <$> read expression bound e := by
  fun_induction read expression bound e with
  | case1 bound e he =>
    rw [read_of_unknown (Shape.ofExpr_unplaced_of he)]
    rfl
  | case2 bound e name he =>
    rw [read_of_named (Shape.ofExpr_unplaced_of he)]
    exact congrArg Except.ok (unplaced_ofName _ _ _)
  | case3 bound e inner he hlt ih => rw [read_of_wrapped (Shape.ofExpr_unplaced_of he), ih]
  | case4 bound e he =>
    rw [read_of_array_none (Shape.ofExpr_unplaced_of he)]
    rfl
  | case5 bound e element he hlt ih =>
    rw [read_of_array_some (Shape.ofExpr_unplaced_of he)]
    refine map_unplaced_congr ih fun n m hnm => ?_
    rw [Node.unplaced, Node.unplaced, hnm]
  | case6 bound e t he hfits inner hinner ih =>
    -- the text is the same, so that only the outermost place differs
    rw [read_of_quoted (Shape.ofExpr_unplaced_of he), if_pos hfits, hinner]
    refine map_unplaced_congr rfl fun n m hnm => ?_
    rw [Node.unplaced_withSpan, Node.unplaced_withSpan, hnm]
  | case7 bound e t he hfits fault hfault =>
    rw [read_of_quoted (Shape.ofExpr_unplaced_of he), if_pos hfits, hfault]
    rfl
  | case8 bound e t he hfits r hr herror =>
    rw [read_of_quoted (Shape.ofExpr_unplaced_of he), if_pos hfits, herror]
    cases r <;> first | exact absurd rfl (hr _) | rfl
  | case9 bound e t he hfits =>
    rw [read_of_quoted (Shape.ofExpr_unplaced_of he), if_neg hfits]
    rfl

/-- The text that the reading of an annotation comes to, through its wrappers and arrays. -/
inductive Reaches : Expr → Text → Prop where
  | quoted {e : Expr} {t : Text} (h : Shape.ofExpr e = .quoted t) : Reaches e t
  | through {e inner : Expr} {t : Text} (h : (Shape.ofExpr e).inner? = some inner)
      (ht : Reaches inner t) : Reaches e t

theorem fits_none (t : Text) : fits none t := rfl

/-- The bound on texts only matters for a text that is not within it. -/
theorem read_eq_of_fits (h : ∀ t, Reaches e t → fits bound t) :
    read expression bound e = read expression none e := by
  fun_induction read expression bound e with
  | case1 bound e he => rw [read_of_unknown he]
  | case2 bound e name he => rw [read_of_named he]
  | case3 bound e inner he hlt ih =>
    rw [read_of_wrapped he]
    exact ih fun t ht => h t (.through (by rw [he]; rfl) ht)
  | case4 bound e he => rw [read_of_array_none he]
  | case5 bound e element he hlt ih =>
    rw [read_of_array_some he, ih fun t ht => h t (.through (by rw [he]; rfl) ht)]
    rfl
  | case6 bound e t he hfits inner hinner ih =>
    rw [read_of_quoted he, if_pos (fits_none t), hinner]
    rfl
  | case7 bound e t he hfits fault hfault => rw [read_of_quoted he, if_pos (fits_none t), hfault]
  | case8 bound e t he hfits r hr herror =>
    rw [read_of_quoted he, if_pos (fits_none t), herror]
    cases r <;> first | exact absurd rfl (hr _) | rfl
  | case9 bound e t he hfits => exact absurd (h t (.quoted he)) hfits

end Read

end Typing
end BranchCover
