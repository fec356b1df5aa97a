import BranchCover.Source.Tree

/-! Where statements stand in others, at any depth. Of the cases of a match, those are told apart that
an outline shows: one default clause stands for all patterns that match anything, guarded or not, so a
case with no other pattern is shown only if it is the first. -/
namespace BranchCover
namespace Source

namespace Pattern

/-- What a pattern comes down to: its alternatives, seen through the names that they bind. -/
def leaves : Pattern → List Pattern
  | alternatives ps _ => leavesOfAll ps
  | capture (some p) _ _ => p.leaves
  | p => [p]
where
  leavesOfAll : List Pattern → List Pattern
    | [] => []
    | p :: ps => p.leaves ++ leavesOfAll ps

/-- The pattern matches anything, whether or not it binds it to a name. -/
def isOpen : Pattern → Bool
  | capture none _ _ => true
  | _ => false

end Pattern

namespace MatchCase

def pattern : MatchCase → Pattern
  | mk p _ _ => p

def body : MatchCase → List Stmt
  | mk _ _ b => b

/-- The pattern of the case has an alternative that matches anything. A guard does not matter. -/
def isOpen (c : MatchCase) : Bool :=
  c.pattern.leaves.any Pattern.isOpen

/-- The case has a clause of its own, where `taken` says that a case before it is open. -/
def isShown (taken : Bool) (c : MatchCase) : Bool :=
  c.pattern.leaves.any fun l => !(taken && l.isOpen)

/-- The bodies of the cases that are shown. -/
def shownBodies : (taken : Bool) → List MatchCase → List Stmt
  | _, [] => []
  | taken, c :: cs =>
    (if c.isShown taken then c.body else []) ++ shownBodies (taken || c.isOpen) cs

end MatchCase

def Handler.body : Handler → List Stmt
  | mk _ _ b _ => b

namespace Stmt

def parts : Stmt → List Stmt
  | function _ _ body _ _ _ _ | classDef _ _ _ body _ _ | withStmt _ body _ _ => body
  | ifStmt _ body orelse _ | forLoop _ _ body orelse _ _ | whileLoop _ body orelse _ =>
    body ++ orelse
  | matchStmt _ cases _ => cases.flatMap MatchCase.body
  | tryStmt body handlers orelse final _ _ =>
    body ++ (handlers.flatMap Handler.body ++ (orelse ++ final))
  | _ => []

/-- The same without the cases that are not shown. -/
def shownParts : Stmt → List Stmt
  | matchStmt _ cases _ => MatchCase.shownBodies false cases
  | s => s.parts

def isDecision : Stmt → Bool
  | ifStmt .. | matchStmt .. => true
  | _ => false

end Stmt

/-- A statement is one of some statements or stands in one of them, at any depth. What stands
directly in a statement is given by `parts`. -/
inductive Within (parts : Stmt → List Stmt) (x : Stmt) : List Stmt → Prop where
  | here {ss : List Stmt} (h : x ∈ ss) : Within parts x ss
  | inside {ss : List Stmt} {s : Stmt} (h : s ∈ ss) (hx : Within parts x (parts s)) :
    Within parts x ss

namespace Within

variable {parts : Stmt → List Stmt} {x s : Stmt} {ss ts : List Stmt}

theorem iff_exists : Within parts x ss ↔ x ∈ ss ∨ ∃ s ∈ ss, Within parts x (parts s) := by
  constructor
  · intro h
    cases h with
    | here h => exact .inl h
    | inside h hx => exact .inr ⟨_, h, hx⟩
  · rintro (h | ⟨s, h, hx⟩)
    · exact .here h
    · exact .inside h hx

@[simp] theorem nil : ¬ Within parts x [] := by
  rw [iff_exists]
  simp

@[simp] theorem append : Within parts x (ss ++ ts) ↔ Within parts x ss ∨ Within parts x ts := by
  constructor
  · rintro (h | ⟨h, hx⟩)
    · exact (List.mem_append.mp h).imp .here .here
    · exact (List.mem_append.mp h).imp (.inside · hx) (.inside · hx)
  · rintro ((h | ⟨h, hx⟩) | (h | ⟨h, hx⟩))
    · exact .here (List.mem_append_left _ h)
    · exact .inside (List.mem_append_left _ h) hx
    · exact .here (List.mem_append_right _ h)
    · exact .inside (List.mem_append_right _ h) hx

theorem singleton : Within parts x [s] ↔ x = s ∨ Within parts x (parts s) := by
  rw [iff_exists]
  simp

theorem flatMap {α : Type} {as : List α} {f : α → List Stmt} :
    Within parts x (as.flatMap f) ↔ ∃ a ∈ as, Within parts x (f a) := by
  induction as with
  | nil => simp
  | cons a as ih => simp [ih]

theorem of_subset (hsub : ss ⊆ ts) (h : Within parts x ss) : Within parts x ts := by
  cases h with
  | here h => exact .here (hsub h)
  | inside h hx => exact .inside (hsub h) hx

theorem trans {y : Stmt} (hy : Within parts y ss) (hx : Within parts x (parts y)) :
    Within parts x ss := by
  induction hy with
  | here h => exact .inside h hx
  | inside h _ ih => exact .inside h ih

end Within

theorem MatchCase.mem_shownBodies {taken : Bool} {cases : List MatchCase} {x : Stmt} :
    x ∈ shownBodies taken cases ↔ ∃ (k : Nat) (c : MatchCase), cases[k]? = some c ∧
      c.isShown (taken || (cases.take k).any isOpen) ∧ x ∈ c.body := by
  induction cases generalizing taken with
  | nil => simp [shownBodies]
  | cons c cs ih =>
    rw [shownBodies, List.mem_append, ih]
    constructor
    · rintro (h | ⟨k, c', hk, hc', hx⟩)
      · split at h
        · exact ⟨0, c, rfl, by simpa, h⟩
        · cases h
      · exact ⟨k + 1, c', hk, by simpa [Bool.or_assoc] using hc', hx⟩
    · rintro ⟨k, c', hk, hc', hx⟩
      cases k with
      | zero =>
        obtain rfl := Option.some.inj hk
        left
        rw [if_pos (by simpa using hc')]
        exact hx
      | succ k => exact .inr ⟨k, c', hk, by simpa [Bool.or_assoc] using hc', hx⟩

theorem Stmt.shownParts_subset (s : Stmt) : s.shownParts ⊆ s.parts := by
  cases s with
  | matchStmt subject cases sp =>
    intro x hx
    obtain ⟨k, c, hk, -, hx⟩ := MatchCase.mem_shownBodies.mp hx
    exact List.mem_flatMap.mpr ⟨c, List.mem_of_getElem? hk, hx⟩
  | _ => exact fun _ h => h

theorem Within.of_shown {x : Stmt} {ss : List Stmt} (h : Within Stmt.shownParts x ss) :
    Within Stmt.parts x ss := by
  induction h with
  | here h => exact .here h
  | inside h _ ih => exact .inside h (ih.of_subset (Stmt.shownParts_subset _))

/-- A statement stands in a case that is not shown, of a match that is. -/
def Skipped (x : Stmt) (ss : List Stmt) : Prop :=
  ∃ (subject : Expr) (cases : List MatchCase) (s : Span) (k : Nat) (c : MatchCase),
    Within Stmt.shownParts (.matchStmt subject cases s) ss ∧ cases[k]? = some c ∧
      c.isShown ((cases.take k).any MatchCase.isOpen) = false ∧ Within Stmt.parts x c.body

namespace Skipped

variable {x s : Stmt} {ss : List Stmt}

theorem within (h : Skipped x ss) : Within Stmt.parts x ss := by
  obtain ⟨subject, cases, s, k, c, hmatch, hk, -, hx⟩ := h
  refine hmatch.of_shown.trans (Within.flatMap.mpr ⟨c, List.mem_of_getElem? hk, hx⟩)

theorem inside (hs : s ∈ ss) (h : Skipped x s.shownParts) : Skipped x ss := by
  obtain ⟨subject, cases, sp, k, c, hmatch, hrest⟩ := h
  exact ⟨subject, cases, sp, k, c, .inside hs hmatch, hrest⟩

end Skipped

/-- What stands in the body of a case stands in a body that is shown or in one that is not. -/
theorem Within.of_cases {x : Stmt} {cases : List MatchCase}
    (h : Within Stmt.shownParts x (cases.flatMap MatchCase.body)) :
    Within Stmt.shownParts x (MatchCase.shownBodies false cases) ∨
      ∃ (k : Nat) (c : MatchCase), cases[k]? = some c ∧
        c.isShown ((cases.take k).any MatchCase.isOpen) = false ∧
        Within Stmt.shownParts x c.body := by
  obtain ⟨c, hc, hx⟩ := Within.flatMap.mp h
  obtain ⟨k, hk⟩ := List.mem_iff_getElem?.mp hc
  cases hshown : c.isShown ((cases.take k).any MatchCase.isOpen) with
  | false => exact .inr ⟨k, c, hk, hshown, hx⟩
  | true =>
    refine .inl (hx.of_subset fun y hy => MatchCase.mem_shownBodies.mpr ⟨k, c, hk, ?_, hy⟩)
    rw [Bool.false_or]
    exact hshown

/-- Whatever stands in the cases of a match is shown with the match, or skipped. -/
theorem Within.shown_or_skipped_of_cases {x : Stmt} {subject : Expr} {cases : List MatchCase}
    {s : Span} {ss : List Stmt} (hs : .matchStmt subject cases s ∈ ss)
    (h : Within Stmt.shownParts x (cases.flatMap MatchCase.body) ∨
      Skipped x (cases.flatMap MatchCase.body)) :
    Within Stmt.shownParts x ss ∨ Skipped x ss := by
  rcases h with h | ⟨subject', cases', s', k', c', hmatch, hk', hnot', hx⟩
  · rcases h.of_cases with h | ⟨k, c, hk, hnot, hx⟩
    · exact .inl (.inside hs h)
    · exact .inr ⟨subject, cases, s, k, c, .here hs, hk, hnot, hx.of_shown⟩
  · -- the match that skips the statement may itself be in a case that is not shown
    rcases hmatch.of_cases with hmatch | ⟨k, c, hk, hnot, hy⟩
    · exact .inr ⟨subject', cases', s', k', c', .inside hs hmatch, hk', hnot', hx⟩
    · refine .inr ⟨subject, cases, s, k, c, .here hs, hk, hnot, hy.of_shown.trans ?_⟩
      exact Within.flatMap.mpr ⟨c', List.mem_of_getElem? hk', hx⟩

/-- A statement that stands in others at any depth is shown, unless it is in a case that is not. -/
theorem Within.iff_shown_or_skipped {x : Stmt} {ss : List Stmt} :
    Within Stmt.parts x ss ↔ Within Stmt.shownParts x ss ∨ Skipped x ss := by
  constructor
  · intro h
    induction h with
    | here h => exact .inl (.here h)
    | @inside ss s h hx ih =>
      cases s with
      | matchStmt subject cases sp => exact shown_or_skipped_of_cases h ih
      | _ => exact ih.imp (.inside h) (.inside h)
  · rintro (h | h)
    · exact h.of_shown
    · exact h.within

end Source
end BranchCover
