import BranchCover.Suite.Emit

/-! What steps of writing put on a page: lines, each with the level at which it stands. A text is its
lines, each ended by a line feed. -/
namespace BranchCover

/-- A line to be written: how far it stands in from where the page is, and its text. -/
abbrev Row := Nat × String

namespace Row

/-- The line one level further in. -/
def inward (r : Row) : Row := (r.1 + 1, r.2)

/-- The line behind its indentation; an empty one has none. -/
def text (unit : String) (r : Row) : String :=
  if r.2 = "" then "" else String.join (List.replicate r.1 unit) ++ r.2

@[simp] theorem text_zero (unit t : String) : text unit (0, t) = t := by
  by_cases h : t = "" <;> simp [text, h]

end Row

namespace Page

def row (p : Page) (r : Row) : Page :=
  { p with lines := ((p.shift r.1).line r.2).lines }

def rows (p : Page) (rs : List Row) : Page :=
  rs.foldl row p

theorem rows_append (p : Page) (rs qs : List Row) : p.rows (rs ++ qs) = (p.rows rs).rows qs := by
  simp [rows]

theorem row_zero (p : Page) (t : String) : p.row (0, t) = p.line t := by
  have hlevel : p.shift ((0 : Nat) : Int) = p := by simp [shift]
  simp only [row, hlevel]
  rfl

theorem row_shift (p : Page) (r : Row) : (p.shift 1).row r = (p.row r.inward).shift 1 := by
  have hlevel : (p.shift 1).shift r.1 = p.shift r.inward.1 := by
    simp only [shift, Row.inward, Page.mk.injEq, true_and, and_true]
    omega
  simp only [row, hlevel]
  rfl

theorem rows_shift (p : Page) (rs : List Row) :
    ((p.shift 1).rows rs).shift (-1) = p.rows (rs.map Row.inward) := by
  induction rs generalizing p with
  | nil =>
    have hlevel : p.level + 1 + -1 = p.level := by omega
    simp [rows, shift, hlevel]
  | cons r rs ih =>
    have hstep := ih (p.row r.inward)
    rw [← row_shift] at hstep
    exact hstep

@[simp] theorem level_rows (p : Page) (rs : List Row) : (p.rows rs).level = p.level := by
  induction rs generalizing p with
  | nil => rfl
  | cons r rs ih => exact ih (p.row r)

/-- A line as it is written on a page: from the level of the page on, and an empty one without
indentation. -/
def placed (p : Page) (r : Row) : String :=
  if r.2 = "" then "" else (p.shift r.1).indented r.2

theorem lines_rows_placed (p : Page) (rs : List Row) :
    (p.rows rs).lines = p.lines ++ rs.map p.placed := by
  induction rs generalizing p with
  | nil => simp [rows]
  | cons r rs ih =>
    have hline : (p.row r).lines = p.lines ++ [p.placed r] := by
      simp [row, line, shift, placed]
    have hplaced : (p.row r).placed = p.placed := rfl
    calc ((p.row r).rows rs).lines
        = (p.row r).lines ++ rs.map (p.row r).placed := ih (p.row r)
      _ = p.lines ++ (r :: rs).map p.placed := by simp [hline, hplaced]

theorem lines_rows (p : Page) (hlevel : p.level = 0) (rs : List Row) :
    (p.rows rs).lines = p.lines ++ rs.map (Row.text p.unit) := by
  have hplaced : p.placed = Row.text p.unit := by
    funext r
    simp [placed, Row.text, shift, indented, hlevel]
  rw [lines_rows_placed, hplaced]

theorem output_eq_join (p : Page) (h : p.lines ≠ []) :
    p.output = String.join (p.lines.map (· ++ "\n")) := by
  unfold output
  generalize p.lines = ls at h
  induction ls with
  | nil => exact absurd rfl h
  | cons l ls ih =>
    cases ls with
    | nil => simp [String.intercalate_singleton]
    | cons l' ls =>
      have hrest := ih (List.cons_ne_nil _ _)
      rw [String.intercalate_cons_cons, String.append_assoc, hrest]
      simp [String.append_assoc]

end Page

namespace Emission

/-- From every page on, the step succeeds and changes the page in this way. -/
def Runs (e : Emission Unit) (f : Page → Page) : Prop :=
  ∀ p : Page, e.run.run p = (.ok (), f p)

theorem Runs.modify (f : Page → Page) : Runs (modify f) f :=
  fun _ => rfl

theorem Runs.bind {e e' : Emission Unit} {f f' : Page → Page} (he : Runs e f) (hf : Runs e' f') :
    Runs (do e; e') (f' ∘ f) := by
  intro p
  simp only [ExceptT.run_bind, StateT.run_bind, he p]
  exact hf (f p)

/-- From every page on, the step succeeds and adds exactly these lines. -/
def Writes (e : Emission Unit) (rs : List Row) : Prop :=
  Runs e fun p => p.rows rs

namespace Writes

variable {e f : Emission Unit} {rs qs : List Row}

theorem nil : Writes (pure ()) [] :=
  fun _ => rfl

theorem line (t : String) : Writes (Emission.line t) [(0, t)] := by
  have hrow : (fun p : Page => p.rows [(0, t)]) = fun p => p.line t := by
    funext p
    exact p.row_zero t
  rw [Writes, hrow]
  exact .modify _

theorem bind (he : Writes e rs) (hf : Writes f qs) : Writes (do e; f) (rs ++ qs) := by
  have happend : (fun p : Page => p.rows (rs ++ qs)) = (fun p => p.rows qs) ∘ fun p => p.rows rs := by
    funext p
    exact p.rows_append rs qs
  rw [Writes, happend]
  exact Runs.bind he hf

theorem cons (t : String) (hf : Writes f qs) : Writes (do Emission.line t; f) ((0, t) :: qs) :=
  .bind (.line t) hf

theorem inner (he : Writes e rs) : Writes (Emission.inner e) (rs.map Row.inward) := by
  have hshift : (fun p : Page => p.rows (rs.map Row.inward)) =
      ((fun p => p.shift (-1)) ∘ fun p => p.rows rs) ∘ fun p => p.shift 1 := by
    funext p
    exact (p.rows_shift rs).symm
  rw [Writes, hshift]
  exact Runs.bind (.modify _) (Runs.bind he (.modify _))

theorem forM {α : Type} {xs : List α} {g : α → Emission Unit} {rows : α → List Row}
    (h : ∀ x ∈ xs, Writes (g x) (rows x)) : Writes (xs.forM g) (xs.flatMap rows) := by
  induction xs with
  | nil => exact nil
  | cons x xs ih =>
    have hrest : Writes (xs.forM g) (xs.flatMap rows) := ih fun y hy => h y (List.mem_cons_of_mem _ hy)
    exact (h x List.mem_cons_self).bind hrest

theorem each {α : Type} {xs : List α} {g : α → Emission Unit} {row : α → Row}
    (h : ∀ x ∈ xs, Writes (g x) [row x]) : Writes (xs.forM g) (xs.map row) := by
  have hrows : xs.map row = xs.flatMap fun x => [row x] := List.map_eq_flatMap
  rw [hrows]
  exact forM h

theorem lines (ts : List String) : Writes (Emission.lines ts) (ts.map (0, ·)) :=
  each fun t _ => line t

/-- A step that is taken only under a condition, and what follows in both cases. -/
theorem guarded {c : Prop} [Decidable c] (he : Writes e rs) (hf : Writes f qs) :
    Writes (if c then e >>= fun _ => f else f) ((if c then rs else []) ++ qs) := by
  by_cases hc : c
  · simp only [hc, if_true]
    exact he.bind hf
  · simp only [hc, if_false]
    exact hf

theorem lift {α : Type} {x : Except Unrenderable α} {a : α} {g : α → Emission Unit} (hx : x = .ok a)
    (hg : Writes (g a) rs) : Writes (liftM x >>= g) rs := by
  subst hx
  exact hg

end Writes
end Emission
end BranchCover
