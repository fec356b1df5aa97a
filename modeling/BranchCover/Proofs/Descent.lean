import BranchCover.Proofs.Spoiled
import Mathlib.Order.WellFounded
import Mathlib.Order.RelClasses

/-! Why the reading of annotations ends. It goes on with a part of an annotation or with the expression
that the text of a quoted one is. Where every string in such an expression is shorter than the text, the
length of the text that the reading comes to decreases, or stays while the annotation becomes smaller. The
bound on texts within texts is then never met. -/
namespace BranchCover
namespace Typing

open Source

/-- The reading of an annotation goes on with an expression. -/
inductive Calls (expression : Text → Except Refusal Expr) : Expr → Expr → Prop where
  | inner {e i : Expr} (h : (Shape.ofExpr e).inner? = some i) : Calls expression e i
  | text {e i : Expr} {t : Text} (h : Shape.ofExpr e = .quoted t) (hread : expression t = .ok i) :
      Calls expression e i

/-- What an annotation tells, given the readings that its own goes on with. No text is too long. -/
def step (expression : Text → Except Refusal Expr) (f : Expr → Except Refusal Node) (e : Expr) :
    Except Refusal Node :=
  match Shape.ofExpr e with
  | .unknown => pure (.hint .any e.span)
  | .named name => pure (ofName e.span name)
  | .wrapped inner => f inner
  | .array none => pure (.arrayType (.hint .any e.span) e.span)
  | .array (some element) => (fun n => .arrayType n e.span) <$> f element
  | .quoted t =>
    match expression t with
    | .ok inner => Node.withSpan e.span <$> f inner
    | .error (.fault _) => pure (.hint .any e.span)
    | .error r => throw r

/-- The text that the reading of an annotation comes to, if it comes to one. -/
def reached? (e : Expr) : Option Text :=
  match _h : (Shape.ofExpr e).inner? with
  | some i => reached? i
  | none =>
    match Shape.ofExpr e with
    | .quoted t => some t
    | _ => none
termination_by sizeOf e
decreasing_by exact Shape.sizeOf_lt_of_inner? _h

/-- The length of the text that the reading comes to, where one is more than none, and the size of the
annotation. -/
noncomputable def weight (e : Expr) : Nat × Nat :=
  ((reached? e).elim 0 (·.length + 1), sizeOf e)

section

variable {expression : Text → Except Refusal Expr} {e i : Expr} {t : Text}

theorem reached?_of_inner (h : (Shape.ofExpr e).inner? = some i) : reached? e = reached? i := by
  rw [reached?]
  split
  · rename_i j hj
    obtain rfl := Option.some.inj (hj.symm.trans h)
    rfl
  · rename_i hnone
    cases hnone.symm.trans h

theorem reached?_of_quoted (h : Shape.ofExpr e = .quoted t) : reached? e = some t := by
  rw [reached?]
  split
  · rename_i i hi
    rw [h] at hi
    cases hi
  · rw [h]

/-- By induction on the size of the annotation, along its parts. -/
theorem reaches_of_reached? (h : reached? e = some t) : Reaches e t := by
  fun_induction reached? e with
  | case1 e i hi ih => exact .through hi (ih h)
  | case2 e hnone u hu =>
    obtain rfl := Option.some.inj h
    exact .quoted hu
  | case3 e hnone hother => cases h

/-- Each reading that another goes on with has less weight. -/
theorem weight_lt_of_calls (hshort : ∀ t e, expression t = .ok e → ∀ u, Reaches e u → u.length < t.length)
    (h : Calls expression e i) : Prod.Lex (· < ·) (· < ·) (weight i) (weight e) := by
  cases h with
  | inner h =>
    rw [weight, weight, reached?_of_inner h]
    exact .right _ (Shape.sizeOf_lt_of_inner? h)
  | text h hread =>
    rename_i t
    rw [weight, weight, reached?_of_quoted h]
    refine .left _ _ ?_
    cases hu : reached? i with
    | none => exact Nat.succ_pos _
    | some u => exact Nat.succ_lt_succ (hshort t i hread u (reaches_of_reached? hu))

theorem calls_wellFounded
    (hshort : ∀ t e, expression t = .ok e → ∀ u, Reaches e u → u.length < t.length) :
    WellFounded fun i e => Calls expression e i :=
  Subrelation.wf (weight_lt_of_calls hshort)
    (InvImage.wf weight (WellFounded.prod_lex wellFounded_lt wellFounded_lt))

/-- A reading takes nothing from others but those it goes on with. -/
theorem step_congr {f g : Expr → Except Refusal Node} (h : ∀ i, Calls expression e i → f i = g i) :
    step expression f e = step expression g e := by
  cases he : Shape.ofExpr e with
  | unknown | named => simp only [step, he]
  | wrapped inner =>
    have hinner := h inner (.inner (by rw [he]; rfl))
    simp only [step, he, hinner]
  | array element =>
    cases element with
    | none => simp only [step, he]
    | some element =>
      have helement := h element (.inner (by rw [he]; rfl))
      simp only [step, he, helement]
  | quoted t =>
    cases hread : expression t with
    | ok inner =>
      have hinner := h inner (.text he hread)
      simp only [step, he, hread, hinner]
    | error r => cases r <;> simp only [step, he, hread]

/-- The bound on texts is not met: what is read in a text is read as it is elsewhere. -/
theorem read_eq_step (hshort : ∀ t e, expression t = .ok e → ∀ u, Reaches e u → u.length < t.length)
    (e : Expr) : read expression none e = step expression (read expression none) e := by
  cases he : Shape.ofExpr e with
  | unknown => simp only [read_of_unknown he, step, he]
  | named name => simp only [read_of_named he, step, he]
  | wrapped inner => simp only [read_of_wrapped he, step, he]
  | array element =>
    cases element with
    | none => simp only [read_of_array_none he, step, he]
    | some element => simp only [read_of_array_some he, step, he]
  | quoted t =>
    rw [read_of_quoted he, if_pos (fits_none t)]
    cases hread : expression t with
    | ok inner =>
      have hfits : ∀ u, Reaches inner u → fits (some t.length) u := fun u hu => by
        simpa [fits] using hshort t inner hread u hu
      simp only [step, he, hread, read_eq_of_fits hfits]
    | error r => cases r <;> simp only [step, he, hread]

end

/-- Where every string that is come to in an expression is shorter than the text that the expression was
read from, every reading ends: whatever it goes on with has less weight. What is read is the one answer to
the steps of reading, which know no bound on texts. -/
theorem reading_ends (expression : Text → Except Refusal Expr)
    (hshort : ∀ t e, expression t = .ok e → ∀ u, Reaches e u → u.length < t.length) :
    (∀ e i, Calls expression e i → Prod.Lex (· < ·) (· < ·) (weight i) (weight e)) ∧
    (WellFounded fun i e => Calls expression e i) ∧
    (∀ e f g, (∀ i, Calls expression e i → f i = g i) → step expression f e = step expression g e) ∧
    ∀ f, (∀ e, f e = step expression f e) ↔ f = read expression none := by
  refine ⟨fun e i => weight_lt_of_calls hshort, calls_wellFounded hshort, fun e f g => step_congr, ?_⟩
  intro f
  constructor
  · intro hf
    funext e
    induction e using (calls_wellFounded hshort).induction with
    | _ e ih =>
      rw [hf, read_eq_step hshort]
      exact step_congr ih
  · rintro rfl
    exact read_eq_step hshort

/-! A text within a text: an array of numbers, quoted as a whole and the numbers once more. -/
namespace Nested

def numbers : Text := Text.ofString "int"

def array : Text := Text.ofString "list['int']"

def number : Expr := .name "int" ⟨1, 0, 1, 3⟩

def arrayOf : Expr :=
  .subscript (.name "list" ⟨1, 0, 1, 4⟩) (.constant (.string numbers false) ⟨1, 5, 1, 10⟩) .load ⟨1, 0, 1, 11⟩

/-- The two texts are expressions, and no other text is one. -/
def expression (t : Text) : Except Refusal Expr :=
  if t = array then .ok arrayOf
  else if t = numbers then .ok number
  else .error (.fault ⟨.invalid, 1, 0⟩)

/-- The annotation of a parameter. -/
def annotation : Expr := .constant (.string array false) ⟨2, 20, 2, 33⟩

theorem reached_shorter (t : Text) (e : Expr) (h : expression t = .ok e) (u : Text) (hu : Reaches e u) :
    u.length < t.length := by
  unfold expression at h
  split_ifs at h with harray hnumbers
  · obtain rfl := Except.ok.inj h
    have hinner : (Shape.ofExpr arrayOf).inner? = some (.constant (.string numbers false) ⟨1, 5, 1, 10⟩) := rfl
    obtain rfl := (hu.of_inner hinner).eq_of_quoted rfl
    rw [harray]
    decide
  · obtain rfl := Except.ok.inj h
    obtain ⟨hquoted⟩ | ⟨hinner, -⟩ := hu
    · cases hquoted
    · cases hinner

end Nested

/-- The array of numbers is read, through both texts. -/
theorem reading_ends_nested :
    (∀ t e, Nested.expression t = .ok e → ∀ u, Reaches e u → u.length < t.length) ∧
      read Nested.expression none Nested.annotation =
        .ok (.arrayType (.hint .number ⟨1, 5, 1, 10⟩) ⟨2, 20, 2, 33⟩) := by
  obtain ⟨-, -, -, hone⟩ := reading_ends Nested.expression Nested.reached_shorter
  have hsteps := (hone _).mpr rfl
  refine ⟨Nested.reached_shorter, ?_⟩
  have hnumber : read Nested.expression none Nested.number = .ok (.hint .number ⟨1, 0, 1, 3⟩) := by
    rw [hsteps]
    rfl
  have hnumbers : read Nested.expression none (.constant (.string Nested.numbers false) ⟨1, 5, 1, 10⟩) =
      .ok (.hint .number ⟨1, 5, 1, 10⟩) := by
    rw [hsteps]
    change Node.withSpan _ <$> read Nested.expression none Nested.number = _
    rw [hnumber]
    rfl
  have harray : read Nested.expression none Nested.arrayOf =
      .ok (.arrayType (.hint .number ⟨1, 5, 1, 10⟩) ⟨1, 0, 1, 11⟩) := by
    rw [hsteps]
    change _ <$> read Nested.expression none (.constant (.string Nested.numbers false) ⟨1, 5, 1, 10⟩) = _
    rw [hnumbers]
    rfl
  rw [hsteps]
  change Node.withSpan _ <$> read Nested.expression none Nested.arrayOf = _
  rw [harray]
  rfl

end Typing
end BranchCover
