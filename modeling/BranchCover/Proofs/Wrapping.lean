import BranchCover.Outline.Statement
import BranchCover.Proofs.Unplaced

/-! Annotations in wrappers. A type that may be absent, that is noted, final or of the class, or that is
quoted, is read as the type itself; a union is read the same however its members are bracketed. -/
namespace BranchCover
namespace Typing

open Source

/-- The expression is a name, plain or dotted, that ends in the given one. -/
def IsNamed (base : String) (e : Expr) : Prop :=
  ∃ s, e = .name base s ∨ ∃ v, e = .member v base s

theorem baseName_of_isNamed {base : String} {e : Expr} (h : IsNamed base e) : baseName e = base := by
  obtain ⟨s, rfl | ⟨v, rfl⟩⟩ := h <;> rfl

/-- The first expression in the second, in any number of wrappers. The text of a quoted one is read as it,
but for its places, and is longer than the strings in it. -/
inductive Wrapped (expression : Text → Except Refusal Expr) (e : Expr) : Expr → Prop where
  | bare : Wrapped expression e e
  | optional {w v : Expr} (h : Wrapped expression e w) (hv : IsNamed "Optional" v) (a : Access)
      (s : Span) : Wrapped expression e (.subscript v w a s)
  | final {w v : Expr} (h : Wrapped expression e w) (hv : IsNamed "Final" v) (a : Access)
      (s : Span) : Wrapped expression e (.subscript v w a s)
  | classVar {w v : Expr} (h : Wrapped expression e w) (hv : IsNamed "ClassVar" v) (a : Access)
      (s : Span) : Wrapped expression e (.subscript v w a s)
  | annotated {w v : Expr} (h : Wrapped expression e w) (hv : IsNamed "Annotated" v)
      (notes : List Expr) (a b : Access) (s t : Span) :
      Wrapped expression e (.subscript v (.tuple (w :: notes) b t) a s)
  | barNone {w n : Expr} (h : Wrapped expression e w) (hn : isNone n) (s : Span) :
      Wrapped expression e (.binary w .bitOr n s)
  | noneBar {w n : Expr} (h : Wrapped expression e w) (hn : isNone n) (s : Span) :
      Wrapped expression e (.binary n .bitOr w s)
  | unionNone {w n v : Expr} (h : Wrapped expression e w) (hv : IsNamed "Union" v) (hn : isNone n)
      (a b : Access) (s t : Span) : Wrapped expression e (.subscript v (.tuple [w, n] b t) a s)
  | noneUnion {w n v : Expr} (h : Wrapped expression e w) (hv : IsNamed "Union" v) (hn : isNone n)
      (a b : Access) (s t : Span) : Wrapped expression e (.subscript v (.tuple [n, w] b t) a s)
  | quoted {w inner : Expr} (h : Wrapped expression e w) {text : Text}
      (hread : expression text = .ok inner) (hinner : inner.unplaced = w.unplaced)
      (hshort : ∀ u, Reaches inner u → u.length < text.length) (marked : Bool) (s : Span) :
      Wrapped expression e (.constant (.string text marked) s)

/-- The expressions, in order, joined by bars and bracketed in some way. -/
inductive Joined : Expr → List Expr → Prop where
  | one (e : Expr) : Joined e [e]
  | bar {left right : Expr} {ls rs : List Expr} (hl : Joined left ls) (hr : Joined right rs)
      (s : Span) : Joined (.binary left .bitOr right s) (ls ++ rs)

section

variable {expression : Text → Except Refusal Expr} {bound : Option Nat} {e w n : Expr}

theorem read_congr {e' : Expr} (h : e.unplaced = e'.unplaced) :
    Node.unplaced <$> read expression bound e = Node.unplaced <$> read expression bound e' := by
  rw [← read_unplaced, h, read_unplaced]

theorem members_of_not_bars (h : ∀ l r s, e ≠ .binary l .bitOr r s) : members e = [e] := by
  cases e with
  | binary l op r s =>
    cases op <;> first | exact absurd rfl (h l r s) | rfl
  | _ => rfl

theorem members_of_isNone (h : isNone n) : members n = [n] :=
  members_of_not_bars fun l r s hn => by subst hn; cases h

theorem read_of_isNone (h : isNone n) : read expression bound n = pure (.hint .any n.span) := by
  cases n <;> try cases h
  case constant c s =>
    cases c <;> cases h
    exact read_of_unknown rfl
  case name id s =>
    obtain rfl : id = "None" := by simpa [isNone] using h
    have hname : Shape.ofExpr (.name "None" s) = .named "None" := rfl
    rw [read_of_named hname]
    rfl

/-- A shape that is a union with one member, or absence, tells what that tells. -/
theorem read_of_ofUnion_sole {es : List Expr} (h : Shape.ofExpr w = Shape.ofUnion es)
    (hes : es.filter (!isNone ·) = [e].filter (!isNone ·)) :
    Node.unplaced <$> read expression bound w = Node.unplaced <$> read expression bound e := by
  rw [Shape.ofUnion, hes] at h
  cases hnone : isNone e with
  | false =>
    rw [List.filter_cons_of_pos (by simp [hnone])] at h
    rw [read_of_wrapped h]
  | true =>
    rw [List.filter_cons_of_neg (by simp [hnone])] at h
    rw [read_of_unknown h, read_of_isNone hnone]
    rfl

theorem read_of_ofUnion {es es' : List Expr} {e e' : Expr} (h : Shape.ofExpr e = Shape.ofUnion es)
    (h' : Shape.ofExpr e' = Shape.ofUnion es')
    (hes : (es.filter (!isNone ·)).map Expr.unplaced = (es'.filter (!isNone ·)).map Expr.unplaced) :
    Node.unplaced <$> read expression bound e = Node.unplaced <$> read expression bound e' := by
  have hsole := congrArg sole? hes
  rw [sole?_map, sole?_map] at hsole
  rw [Shape.ofUnion] at h h'
  cases hm : sole? (es.filter (!isNone ·)) with
  | none =>
    rw [hm] at h hsole
    rw [Option.map_none, eq_comm, Option.map_eq_none_iff] at hsole
    rw [hsole] at h'
    rw [read_of_unknown h, read_of_unknown h']
    rfl
  | some m =>
    rw [hm] at h hsole
    obtain ⟨m', hm', hmm'⟩ := Option.map_eq_some_iff.mp hsole.symm
    rw [hm'] at h'
    rw [read_of_wrapped h, read_of_wrapped h']
    exact read_congr hmm'.symm

theorem read_of_bars {l r : Expr} (s : Span) (h : members l ++ members r = members w ++ [n] ∨
      members l ++ members r = n :: members w) (hn : isNone n) :
    Node.unplaced <$> read expression bound (.binary l .bitOr r s) =
      Node.unplaced <$> read expression bound w := by
  have hfilter : (members l ++ members r).filter (!isNone ·) = (members w).filter (!isNone ·) := by
    rcases h with h | h <;> simp [h, hn]
  by_cases hw : ∃ a b t, w = .binary a .bitOr b t
  · obtain ⟨a, b, t, rfl⟩ := hw
    refine read_of_ofUnion (Shape.ofExpr_bars l r s) (Shape.ofExpr_bars a b t) ?_
    rw [hfilter, members]
  · have hsole : members w = [w] := members_of_not_bars fun a b t hw' => hw ⟨a, b, t, hw'⟩
    exact read_of_ofUnion_sole (Shape.ofExpr_bars l r s) (by rw [hfilter, hsole])

theorem arguments_of_not_tuple (h : ∀ items a s, e ≠ .tuple items a s) : arguments e = [e] := by
  cases e with
  | tuple items a s => exact absurd rfl (h items a s)
  | _ => rfl

theorem read_of_generic {base : String} {v index : Expr} {args : List Expr} (a : Access) (s : Span)
    (hv : IsNamed base v) (hargs : arguments index = e :: args)
    (hbase : base ∈ ["Optional", "Annotated", "Final", "ClassVar"]) :
    read expression bound (.subscript v index a s) = read expression bound e := by
  apply read_of_wrapped
  rw [Shape.ofExpr, baseName_of_isNamed hv, hargs, Shape.ofGeneric_cons, if_pos]
  simpa [or_assoc] using hbase

theorem read_of_union {v index : Expr} (a : Access) (s : Span) (hv : IsNamed "Union" v)
    (hargs : arguments index = [e, n] ∨ arguments index = [n, e]) (hn : isNone n) :
    Node.unplaced <$> read expression bound (.subscript v index a s) =
      Node.unplaced <$> read expression bound e := by
  have hshape : Shape.ofExpr (.subscript v index a s) = Shape.ofUnion (arguments index) := by
    rw [Shape.ofExpr, baseName_of_isNamed hv]
    rcases hargs with hargs | hargs <;> rw [hargs] <;> rfl
  refine read_of_ofUnion_sole hshape ?_
  rcases hargs with hargs | hargs <;> rw [hargs] <;> simp [List.filter_cons, hn]

theorem Wrapped.ne_tuple (h : Wrapped expression e w) (he : ∀ items a s, e ≠ .tuple items a s) :
    ∀ items a s, w ≠ .tuple items a s := by
  cases h with
  | bare => exact he
  | _ => nofun

/-- By induction on the wrappers: none of them counts. -/
theorem read_of_wrapped_in (he : ∀ items a s, e ≠ .tuple items a s) (h : Wrapped expression e w) :
    Node.unplaced <$> read expression none w = Node.unplaced <$> read expression none e := by
  induction h with
  | bare => rfl
  | optional h hv a s ih | final h hv a s ih | classVar h hv a s ih =>
    rw [read_of_generic a s hv (arguments_of_not_tuple (h.ne_tuple he)) (by simp), ih]
  | annotated h hv notes a b s t ih => rw [read_of_generic a s hv rfl (by simp), ih]
  | @barNone w n h hn s ih =>
    have hparts := congrArg (members w ++ ·) (members_of_isNone hn)
    rw [read_of_bars s (.inl hparts) hn, ih]
  | @noneBar w n h hn s ih =>
    have hparts := congrArg (· ++ members w) (members_of_isNone hn)
    rw [read_of_bars s (.inr hparts) hn, ih]
  | unionNone h hv hn a b s t ih => rw [read_of_union a s hv (.inl rfl) hn, ih]
  | noneUnion h hv hn a b s t ih => rw [read_of_union a s hv (.inr rfl) hn, ih]
  | @quoted w inner h text hread hinner hshort marked s ih =>
    -- what is read in the text is within the bound that the text sets
    have hfits : ∀ u, Reaches inner u → fits (some text.length) u := fun u hu => by
      simpa [fits] using hshort u hu
    rw [read_of_quoted rfl, if_pos (fits_none text), hread]
    dsimp only
    rw [read_eq_of_fits hfits, ← ih, ← read_congr hinner]
    simp [Functor.map_map]

theorem members_length_pos (e : Expr) : 0 < (members e).length := by
  fun_induction members e with
  | case1 left right s ihl ihr =>
    rw [List.length_append]
    omega
  | case2 e he => exact Nat.one_pos

theorem members_of_length_one (h : (members e).length = 1) : members e = [e] := by
  refine members_of_not_bars ?_
  rintro l r s rfl
  have hl := members_length_pos l
  have hr := members_length_pos r
  rw [members, List.length_append] at h
  omega

theorem exists_bars_of_length (h : (members e).length ≠ 1) :
    ∃ l r s, e = .binary l .bitOr r s := by
  by_contra hbars
  exact h (by rw [members_of_not_bars fun l r s he => hbars ⟨l, r, s, he⟩]; rfl)

theorem read_of_members {e' : Expr}
    (h : (members e).map Expr.unplaced = (members e').map Expr.unplaced) :
    Node.unplaced <$> read expression bound e = Node.unplaced <$> read expression bound e' := by
  have hlength : (members e).length = (members e').length := by simpa using congrArg List.length h
  by_cases hone : (members e).length = 1
  · rw [members_of_length_one hone, members_of_length_one (hlength ▸ hone)] at h
    exact read_congr (List.singleton_inj.mp h)
  · obtain ⟨l, r, s, rfl⟩ := exists_bars_of_length hone
    obtain ⟨l', r', s', rfl⟩ := exists_bars_of_length (hlength ▸ hone)
    refine read_of_ofUnion (Shape.ofExpr_bars l r s) (Shape.ofExpr_bars l' r' s') ?_
    rw [map_filter_unplaced, map_filter_unplaced]
    exact congrArg (List.filter (!isNone ·)) h

theorem Joined.members_eq {es : List Expr} (h : Joined e es) : members e = es.flatMap members := by
  induction h with
  | one e => simp
  | bar hl hr s ihl ihr => rw [members, ihl, ihr, List.flatMap_append]

theorem read_of_joined {e' : Expr} {es es' : List Expr} (h : Joined e es) (h' : Joined e' es')
    (hes : es.map Expr.unplaced = es'.map Expr.unplaced) :
    Node.unplaced <$> read expression bound e = Node.unplaced <$> read expression bound e' := by
  have hmembers : ∀ es : List Expr, (es.flatMap members).map Expr.unplaced =
      (es.map Expr.unplaced).flatMap members := fun es => by
    simp only [List.map_flatMap, List.flatMap_map, members_unplaced]
  refine read_of_members ?_
  rw [h.members_eq, h'.members_eq, hmembers, hmembers, hes]

end

end Typing

namespace Outline

open Source Typing

/-- Where two readings agree but for places, so do they with their failures told as those of an
outline. -/
theorem typing_congr {r : Reader} {e e' : Expr}
    (h : Node.unplaced <$> read r.expression none e = Node.unplaced <$> read r.expression none e') :
    Node.unplaced <$> r.typing e = Node.unplaced <$> r.typing e' := by
  have hmap : ∀ x : Except Refusal Node, Node.unplaced <$> x.mapError Failure.refused =
      (Node.unplaced <$> x).mapError Failure.refused := fun x => by cases x <;> rfl
  rw [Reader.typing, Reader.typing, hmap, hmap, h]

/-- A type that is no tuple is read in any wrappers as it is alone, and unions of the same members are
read as the same however they are bracketed. -/
theorem wrappers_transparent (r : Reader) :
    (∀ e w, (∀ items a s, e ≠ .tuple items a s) → Wrapped r.expression e w →
      Node.unplaced <$> r.typing w = Node.unplaced <$> r.typing e) ∧
    ∀ e e' es es', Joined e es → Joined e' es' → es.map Expr.unplaced = es'.map Expr.unplaced →
      Node.unplaced <$> r.typing e = Node.unplaced <$> r.typing e' :=
  ⟨fun _ _ he h => typing_congr (read_of_wrapped_in he h),
    fun _ _ _ _ h h' hes => typing_congr (read_of_joined h h' hes)⟩

/-! A reader of one text, and a number in wrappers with that text in them. -/
namespace Quoting

def text : Text := Text.ofString "int | None"

def number : Expr := .name "int" ⟨1, 0, 1, 3⟩

def union : Expr := .binary number .bitOr (.constant .none ⟨1, 6, 1, 10⟩) ⟨1, 0, 1, 10⟩

/-- The text is a union, and no other text is an expression. -/
def reader : Reader where
  lines := []
  expression t := if t = text then .ok union else .error (.fault ⟨.invalid, 1, 0⟩)

/-- The number may be absent, is quoted and final. -/
def wrapped : Expr :=
  .subscript (.member (.name "typing" ⟨1, 3, 1, 9⟩) "Final" ⟨1, 3, 1, 15⟩)
    (.constant (.string text false) ⟨1, 16, 1, 28⟩) .load ⟨1, 3, 1, 29⟩

theorem expression_text : reader.expression text = .ok union := by
  simp [reader]

theorem not_reaches_union (u : Text) : ¬ Reaches union u := by
  rintro (h | ⟨h, hu⟩)
  · cases h
  · obtain rfl := Option.some.inj h
    rcases hu with hu | ⟨hu, -⟩ <;> cases hu

theorem wrapped_number : Wrapped reader.expression number wrapped := by
  have hunion : Wrapped reader.expression number union := .barNone .bare rfl _
  have hquoted := hunion.quoted expression_text rfl
    (fun u hu => absurd hu (not_reaches_union u)) false ⟨1, 16, 1, 28⟩
  exact hquoted.final ⟨_, .inr ⟨_, rfl⟩⟩ _ _

end Quoting

theorem wrappers_transparent_quoting :
    Wrapped Quoting.reader.expression Quoting.number Quoting.wrapped ∧
      Node.unplaced <$> Quoting.reader.typing Quoting.wrapped = .ok (.hint .number Span.unknown) := by
  obtain ⟨htransparent, -⟩ := wrappers_transparent Quoting.reader
  refine ⟨Quoting.wrapped_number, ?_⟩
  rw [htransparent Quoting.number Quoting.wrapped nofun Quoting.wrapped_number, Reader.typing,
    read_of_named rfl]
  rfl

end Outline
end BranchCover
