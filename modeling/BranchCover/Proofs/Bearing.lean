import BranchCover.Proofs.Named
import BranchCover.Proofs.Plain

/-! The names in the outline of an expression and of an annotation. What holds of every name in the
expression, and of the empty name, holds of every name that a node of its outline declares or refers to. -/
namespace BranchCover

/-- The name of a node has the property. The sorts of values that annotations name have names of their
own. -/
def Node.Bears (P : String → Prop) : Node → Prop
  | hint .. => True
  | n => ∀ s ∈ n.name?, P s

theorem Node.Bears.mono {P Q : String → Prop} (h : ∀ s, P s → Q s) {n : Node} (hn : n.Bears P) :
    n.Bears Q := by
  cases n with
  | hint => trivial
  | _ => exact fun s hs => h s (hn s hs)

namespace Outline

open Source
open Node (Throughout Every)

/-- All names throughout a node have the property. -/
abbrev Bears (P : String → Prop) (n : Node) : Prop :=
  n.Throughout (Node.Bears P)

abbrev AllBear (P : String → Prop) (ns : List Node) : Prop :=
  Every (Node.Bears P) ns

section

variable {P : String → Prop} {ns : List Node} {n : Node} {s : Span}

theorem bears_compound {label : String} (h : AllBear P ns) : Bears P (.compound label ns s) :=
  .of nofun h

theorem bears_block (h : AllBear P ns) : Bears P (.block ns s) :=
  .of nofun h

@[simp] theorem bears_leaf (label : String) : Bears P (leaf label) :=
  bears_compound Node.every_nil

@[simp] theorem bears_ofConstant (s : Span) (c : Constant) : Bears P (ofConstant s c) := by
  cases c <;> exact .of nofun Node.every_nil

@[simp] theorem bears_ofAccess (a : Access) : Bears P (ofAccess a) := by
  cases a <;> exact bears_leaf _

@[simp] theorem bears_ofBoolOp (op : BoolOp) : Bears P (ofBoolOp op) := by
  cases op <;> exact bears_leaf _

@[simp] theorem bears_ofBinaryOp (op : BinaryOp) : Bears P (ofBinaryOp op) := by
  cases op <;> exact bears_leaf _

theorem bears_map_ofRelation (rs : List Relation) : AllBear P (rs.map ofRelation) := by
  intro n hn
  obtain ⟨r, -, rfl⟩ := List.mem_map.mp hn
  cases r <;> exact bears_leaf _

theorem bears_withSpan (h : Bears P n) : Bears P (n.withSpan s) := by
  rw [Bears, Throughout.iff] at h ⊢
  cases n <;> exact h

end

variable {P : String → Prop}

mutual

/-- By induction on the expression, one case for each construct of the grammar. -/
theorem bears_ofExpr : ∀ e : Expr, e.Named P → Bears P (ofExpr e)
  | .constant c s, _ => by
    rw [ofExpr]
    exact bears_ofConstant s c
  | .name id s, .name hid => .of (fun _ h => Option.some.inj h ▸ hid) Node.every_nil
  | .member value attr s, .member hvalue hattr => by
    rw [ofExpr]
    exact .of (fun _ h => Option.some.inj h ▸ hattr)
      (Node.every_cons.mpr ⟨bears_ofExpr value hvalue, Node.every_nil⟩)
  | .subscript value index a s, .subscript hvalue hindex => by
    rw [ofExpr]
    exact bears_compound (by simp [bears_ofExpr value hvalue, bears_ofExpr index hindex])
  | .starred value a s, .starred hvalue => by
    rw [ofExpr]
    exact bears_compound (by simp [bears_ofExpr value hvalue])
  | .list items a s, .list hitems => by
    rw [ofExpr]
    exact bears_compound (by simp [bears_ofExprs items hitems, -ofExprs_eq])
  | .tuple items a s, .tuple hitems => by
    rw [ofExpr]
    exact bears_compound (by simp [bears_ofExprs items hitems, -ofExprs_eq])
  | .set items s, .set hitems => by
    rw [ofExpr]
    exact bears_compound (bears_ofExprs items hitems)
  | .dict items s, .dict hitems => by
    rw [ofExpr]
    exact bears_compound
      (Node.every_append.mpr ⟨bears_keys items hitems, bears_values items hitems⟩)
  | .listComp item loops s, .listComp hitem hloops => by
    rw [ofExpr]
    exact bears_compound
      (Node.every_cons.mpr ⟨bears_ofExpr item hitem, bears_ofLoops loops hloops⟩)
  | .setComp item loops s, .setComp hitem hloops => by
    rw [ofExpr]
    exact bears_compound
      (Node.every_cons.mpr ⟨bears_ofExpr item hitem, bears_ofLoops loops hloops⟩)
  | .dictComp key value loops s, .dictComp hkey hvalue hloops => by
    rw [ofExpr]
    exact bears_compound (by
      simp [bears_ofExpr key hkey, bears_ofExpr value hvalue, bears_ofLoops loops hloops])
  | .generator item loops s, .generator hitem hloops => by
    rw [ofExpr]
    exact bears_compound
      (Node.every_cons.mpr ⟨bears_ofExpr item hitem, bears_ofLoops loops hloops⟩)
  | .lambda params body s, .lambda hparams hbody => by
    rw [ofExpr]
    exact bears_compound (by simp [bears_ofParameters params hparams, bears_ofExpr body hbody])
  | .boolOp op values s, .boolOp hvalues => by
    rw [ofExpr]
    exact bears_compound (by simp [bears_ofExprs values hvalues, -ofExprs_eq])
  | .named target value s, .named htarget hvalue => by
    rw [ofExpr]
    exact bears_compound (by simp [bears_ofExpr target htarget, bears_ofExpr value hvalue])
  | .binary left op right s, .binary hleft hright => by
    rw [ofExpr]
    exact bears_compound (by simp [bears_ofExpr left hleft, bears_ofExpr right hright])
  | .unary op operand s, .unary hoperand => by
    rcases ofExpr_unary op operand s with ⟨n, h⟩ | h
    · rw [h]
      exact .of nofun Node.every_nil
    · rw [h]
      exact .of nofun (Node.every_cons.mpr ⟨bears_ofExpr operand hoperand, Node.every_nil⟩)
  | .conditional test body orelse s, .conditional htest hbody horelse => by
    have hparts : AllBear P [ofExpr test, ofExpr body, ofExpr orelse] := by
      simp [bears_ofExpr test htest, bears_ofExpr body hbody, bears_ofExpr orelse horelse]
    rw [ofExpr]
    exact .of nofun hparts
  | .await value s, .await hvalue => by
    rw [ofExpr]
    exact bears_compound (by simp [bears_ofExpr value hvalue])
  | .yield value s, .yield hvalue => by
    rw [ofExpr]
    exact bears_compound (bears_ofOptional value hvalue)
  | .yieldFrom value s, .yieldFrom hvalue => by
    rw [ofExpr]
    exact bears_compound (by simp [bears_ofExpr value hvalue])
  | .compare left relations rights s, .compare hleft hrights => by
    have hparts := bears_ofExprs rights hrights
    rcases ofExpr_compare left relations rights s with ⟨relation, right, rfl, h⟩ | h
    · rw [h]
      exact .of nofun (Node.every_cons.mpr ⟨bears_ofExpr left hleft, hparts⟩)
    · rw [h]
      exact bears_compound
        (by simp [bears_ofExpr left hleft, bears_map_ofRelation, hparts, -ofExprs_eq])
  | .call func args keywords s, .call hfunc hargs hkeywords => by
    have hparts : AllBear P (ofExpr func :: (ofExprs args ++ ofKeywords keywords)) := by
      simp [bears_ofExpr func hfunc, bears_ofExprs args hargs, bears_ofKeywords keywords hkeywords,
        -ofExprs_eq, -ofKeywords_eq]
    rw [ofExpr]
    exact .of nofun hparts
  | .field value conversion format s, .field hvalue hformat => by
    rw [ofExpr]
    exact bears_compound
      (Node.every_cons.mpr ⟨bears_ofExpr value hvalue, bears_ofOptional format hformat⟩)
  | .formatted parts s, .formatted hparts => by
    rw [ofExpr]
    exact bears_compound (bears_ofExprs parts hparts)
  | .slice lower upper step s, .slice hlower hupper hstep => by
    rw [ofExpr]
    exact bears_compound (by
      simp [bears_ofOptional lower hlower, bears_ofOptional upper hupper, bears_ofOptional step hstep])

theorem bears_ofExprs : ∀ es : List Expr, (∀ e ∈ es, e.Named P) → AllBear P (ofExprs es)
  | [], _ => Node.every_nil
  | e :: es, h => Node.every_cons.mpr
    ⟨bears_ofExpr e (h e List.mem_cons_self),
      bears_ofExprs es fun x hx => h x (List.mem_cons_of_mem e hx)⟩

theorem bears_ofOptional : ∀ o : Option Expr, (∀ e ∈ o, e.Named P) → AllBear P (ofOptional o)
  | none, _ => Node.every_nil
  | some e, h => Node.every_cons.mpr ⟨bears_ofExpr e (h e rfl), Node.every_nil⟩

theorem bears_ofKeywords : ∀ ks : List Keyword, (∀ k ∈ ks, k.Named P) → AllBear P (ofKeywords ks)
  | [], _ => Node.every_nil
  | .mk name value :: ks, h => by
    obtain ⟨hvalue, hks⟩ := List.forall_mem_cons.mp h
    cases hvalue with
    | mk _ hvalue => exact Node.every_cons.mpr ⟨bears_ofExpr value hvalue, bears_ofKeywords ks hks⟩

theorem bears_keys : ∀ is : List DictItem, (∀ i ∈ is, i.Named P) → AllBear P (keys is)
  | [], _ => Node.every_nil
  | .pair key value :: is, h => by
    obtain ⟨hitem, his⟩ := List.forall_mem_cons.mp h
    cases hitem with
    | pair hkey _ => exact Node.every_cons.mpr ⟨bears_ofExpr key hkey, bears_keys is his⟩
  | .spread value :: is, h => bears_keys is (List.forall_mem_cons.mp h).2

theorem bears_values : ∀ is : List DictItem, (∀ i ∈ is, i.Named P) → AllBear P (values is)
  | [], _ => Node.every_nil
  | .pair key value :: is, h => by
    obtain ⟨hitem, his⟩ := List.forall_mem_cons.mp h
    cases hitem with
    | pair _ hvalue => exact Node.every_cons.mpr ⟨bears_ofExpr value hvalue, bears_values is his⟩
  | .spread value :: is, h => by
    obtain ⟨hitem, his⟩ := List.forall_mem_cons.mp h
    cases hitem with
    | spread hvalue => exact Node.every_cons.mpr ⟨bears_ofExpr value hvalue, bears_values is his⟩

theorem bears_ofLoops : ∀ ls : List Comprehension, (∀ l ∈ ls, l.Named P) → AllBear P (ofLoops ls)
  | [], _ => Node.every_nil
  | .mk target iter tests isAsync :: ls, h => by
    obtain ⟨hloop, hls⟩ := List.forall_mem_cons.mp h
    cases hloop with
    | mk htarget hiter htests =>
      have hparts : AllBear P (ofExpr target :: ofExpr iter :: ofExprs tests) := by
        simp [bears_ofExpr target htarget, bears_ofExpr iter hiter, bears_ofExprs tests htests,
          -ofExprs_eq]
      rw [ofLoops]
      exact Node.every_cons.mpr ⟨bears_compound hparts, bears_ofLoops ls hls⟩

theorem bears_ofParam : ∀ p : Param, p.Named P → Bears P (ofParam p)
  | .mk _ typing _ s, .mk _ htyping _ => by
    rw [ofParam]
    exact bears_compound (bears_ofOptional typing htyping)

theorem bears_ofParams : ∀ ps : List Param, (∀ p ∈ ps, p.Named P) → AllBear P (ofParams ps)
  | [], _ => Node.every_nil
  | p :: ps, h => Node.every_cons.mpr
    ⟨bears_ofParam p (h p List.mem_cons_self),
      bears_ofParams ps fun x hx => h x (List.mem_cons_of_mem p hx)⟩

theorem bears_ofGathered : ∀ o : Option Param, (∀ p ∈ o, p.Named P) → AllBear P (ofGathered o)
  | none, _ => Node.every_nil
  | some p, h => Node.every_cons.mpr ⟨bears_ofParam p (h p rfl), Node.every_nil⟩

theorem bears_ofDefault : ∀ p : Param, p.Named P → AllBear P (ofDefault p)
  | .mk _ _ default _, .mk _ _ hdefault => by
    rw [ofDefault]
    exact bears_ofOptional default hdefault

theorem bears_ofDefaults : ∀ ps : List Param, (∀ p ∈ ps, p.Named P) → AllBear P (ofDefaults ps)
  | [], _ => Node.every_nil
  | p :: ps, h => Node.every_append.mpr
    ⟨bears_ofDefault p (h p List.mem_cons_self),
      bears_ofDefaults ps fun x hx => h x (List.mem_cons_of_mem p hx)⟩

theorem bears_ofParameters : ∀ ps : Parameters, ps.Named P → Bears P (ofParameters ps)
  | .mk posOnly args rest kwOnly keywords, .mk hposOnly hargs hrest hkwOnly hkeywords => by
    rw [ofParameters]
    exact bears_compound (by
      simp [bears_ofParams posOnly hposOnly, bears_ofParams args hargs, bears_ofGathered rest hrest,
        bears_ofParams kwOnly hkwOnly, bears_ofDefaults kwOnly hkwOnly,
        bears_ofGathered keywords hkeywords, bears_ofDefaults posOnly hposOnly,
        bears_ofDefaults args hargs])

end

end Outline

namespace Typing

open Source
open Outline (Bears)

variable {P : String → Prop}

/-- What an annotation stands for names what has the property. -/
def Shape.Named (P : String → Prop) : Shape → Prop
  | .named name => P name
  | .wrapped inner => inner.Named P
  | .array element => ∀ e ∈ element, e.Named P
  | .unknown | .quoted _ => True

theorem named_of_mem_members {e m : Expr} (he : e.Named P) (hm : m ∈ members e) : m.Named P := by
  fun_induction members e with
  | case1 left right s ihl ihr =>
    cases he with
    | binary hleft hright =>
      rcases List.mem_append.mp hm with hm | hm
      · exact ihl hleft hm
      · exact ihr hright hm
  | case2 e => exact List.mem_singleton.mp hm ▸ he

theorem named_of_mem_arguments {e a : Expr} (he : e.Named P) (ha : a ∈ arguments e) :
    a.Named P := by
  unfold arguments at ha
  split at ha
  · cases he with
    | tuple hitems => exact hitems a ha
  · exact List.mem_singleton.mp ha ▸ he

theorem baseName_of_named (hempty : P "") {e : Expr} (he : e.Named P) : P (baseName e) := by
  cases he with
  | name hid => exact hid
  | member _ hattr => exact hattr
  | _ => exact hempty

theorem named_sole {es : List Expr} (h : ∀ e ∈ es, e.Named P) :
    Shape.Named P (match sole? es with
      | some m => .wrapped m
      | none => .unknown) := by
  cases hm : sole? es with
  | none => trivial
  | some m => exact h m (mem_of_sole? hm)

theorem named_ofGeneric {base : String} {args : List Expr} (hbase : P base)
    (hargs : ∀ a ∈ args, a.Named P) : (Shape.ofGeneric base args).Named P := by
  unfold Shape.ofGeneric
  split
  · rename_i a rest
    have ha := hargs a List.mem_cons_self
    split
    · exact ha
    split
    · exact named_sole fun e he => hargs e (List.mem_of_mem_filter he)
    split
    · exact fun e he => Option.some.inj he ▸ ha
    split
    · trivial
    · exact hbase
  · split
    · trivial
    split
    · exact nofun
    split
    · trivial
    · exact hbase

theorem named_ofExpr (hempty : P "") {e : Expr} (he : e.Named P) : (Shape.ofExpr e).Named P := by
  unfold Shape.ofExpr
  split
  · trivial
  · cases he with
    | name hid => exact hid
  · cases he with
    | member _ hattr => exact hattr
  · exact named_sole fun m hm => named_of_mem_members he (List.mem_of_mem_filter hm)
  · cases he with
    | subscript hvalue hindex =>
      exact named_ofGeneric (baseName_of_named hempty hvalue) fun a ha =>
        named_of_mem_arguments hindex ha
  · trivial

theorem bears_hint (h : Hint) (s : Span) : Bears P (.hint h s) :=
  .of trivial Node.every_nil

theorem bears_arrayType {element : Node} (s : Span) (h : Bears P element) :
    Bears P (.arrayType element s) :=
  .of nofun (Node.every_cons.mpr ⟨h, Node.every_nil⟩)

theorem bears_ofName (s : Span) {name : String} (hname : P name) : Bears P (ofName s name) := by
  unfold ofName
  split
  · exact bears_hint _ s
  split
  · exact bears_hint _ s
  split
  · exact bears_hint _ s
  split
  · exact bears_arrayType s (bears_hint _ s)
  split
  · exact bears_hint _ s
  · exact .of (fun _ h => Option.some.inj h ▸ hname) Node.every_nil

/-- By induction on how an annotation is read: the expressions in it name what has the property, and so
do those in its strings. -/
theorem bears_read (hempty : P "") {expression : Text → Except Refusal Expr}
    (hexpression : ∀ {t e}, expression t = .ok e → e.Named P) {bound : Option Nat} {e : Expr}
    {n : Node} (he : e.Named P) (h : read expression bound e = .ok n) : Bears P n := by
  have hshape := named_ofExpr hempty he
  fun_induction read expression bound e generalizing n with
  | case1 bound e hof =>
    obtain rfl := pure_eq_ok.mp h
    exact bears_hint _ _
  | case2 bound e name hof =>
    obtain rfl := pure_eq_ok.mp h
    rw [hof] at hshape
    exact bears_ofName _ hshape
  | case3 bound e inner hof hlt ih =>
    rw [hof] at hshape
    exact ih hshape h (named_ofExpr hempty hshape)
  | case4 bound e hof =>
    obtain rfl := pure_eq_ok.mp h
    exact bears_arrayType _ (bears_hint _ _)
  | case5 bound e element hof hlt ih =>
    rw [hof] at hshape
    obtain ⟨x, hx, hn⟩ := bind_eq_ok.mp h
    obtain rfl := pure_eq_ok.mp hn
    have helement := hshape element rfl
    exact bears_arrayType _ (ih helement hx (named_ofExpr hempty helement))
  | case6 bound e t hof hfits inner hinner ih =>
    obtain ⟨x, hx, hn⟩ := bind_eq_ok.mp h
    obtain rfl := pure_eq_ok.mp hn
    have hnamed := hexpression hinner
    exact Outline.bears_withSpan (ih hnamed hx (named_ofExpr hempty hnamed))
  | case7 bound e t hof hfits fault hfault =>
    obtain rfl := pure_eq_ok.mp h
    exact bears_hint _ _
  | case8 bound e t hof hfits r hr herror => cases h
  | case9 bound e t hof hfits =>
    obtain rfl := pure_eq_ok.mp h
    exact bears_hint _ _

end Typing

end BranchCover
