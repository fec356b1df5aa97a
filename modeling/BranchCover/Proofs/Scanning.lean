import BranchCover.Proofs.KeepingLiterals
import BranchCover.Proofs.Normalizing

/-! The names among the tokens of a text have no line ends. Only one step of a scan gives a name, and it
checks each of its characters; all other steps give tokens of other kinds, or none. -/
namespace BranchCover
namespace Source

open Line (Unbroken)

/-- If a step gives a name, then this has no line ends. -/
def Step.Clean : Step → Prop
  | .token t _ => t.kind = .name → Unbroken t.text.toList
  | _ => True

namespace Scanner

variable {s : Scanner} {α β : Type}

@[simp] theorem clean_skip (next : Scanner) : (Step.skip next).Clean := trivial

@[simp] theorem clean_stopAt (cause : StopCause) (c : Cursor) : (s.stopAt cause c).Clean := trivial

@[simp] theorem clean_complain (complaint : Complaint) (c : Cursor) : (s.complain complaint c).Clean :=
  trivial

theorem clean_emit {kind : TokenKind} (hkind : kind ≠ .name) (start stop : Cursor) :
    (s.emit kind start stop).Clean :=
  fun h => absurd h hkind

theorem clean_emitLayout {kind : TokenKind} (hkind : kind ≠ .name) (next : Scanner) :
    (s.emitLayout kind next).Clean :=
  fun h => absurd h hkind

/-! Steps in parts: a part goes on with something of a property, or it ends the step. -/

/-- What a part goes on with has the property, and the step that it ends is clean. -/
def Parts (x : Except Step α) (q : α → Prop) : Prop :=
  match x with
  | .ok a => q a
  | .error step => step.Clean

theorem Parts.bind {x : Except Step α} {f : α → Except Step β} {q : α → Prop} {q' : β → Prop}
    (hx : Parts x q) (hf : ∀ a, q a → Parts (f a) q') : Parts (x >>= f) q' := by
  cases x with
  | ok a => exact hf a hx
  | error step => exact hx

theorem parts_continuation (inToken : Bool) (c : Cursor) :
    Parts (s.continuation inToken c) fun _ => True := by
  unfold continuation
  split
  · dsimp only
    split <;> trivial
  · trivial
  · trivial

theorem parts_indentation (fuel col narrow joined : Nat) (c : Cursor) :
    Parts (s.indentation fuel col narrow joined c) fun _ => True := by
  fun_induction indentation s fuel col narrow joined c with
  | case1 => trivial
  | case2 _ _ _ _ _ _ ih => exact ih
  | case3 _ _ _ _ _ _ ih => exact ih
  | case4 _ _ _ _ _ _ ih => exact ih
  | case5 _ _ _ _ _ _ ih => exact (parts_continuation _ _).bind fun c _ => ih c
  | case6 => trivial

theorem clean_applyIndentation (col narrow : Nat) : (s.applyIndentation col narrow).Clean := by
  unfold applyIndentation
  dsimp only
  split_ifs <;> trivial

theorem clean_lineStart : s.lineStart.Clean := by
  unfold lineStart
  have hindentation := parts_indentation (s := s) ((s.cursor.settle false).rest.length + 1) 0 0 0
    (s.cursor.settle false)
  dsimp only
  split
  · rename_i step h
    rwa [h] at hindentation
  · split_ifs
    · trivial
    · trivial
    · exact clean_applyIndentation _ _
    · exact clean_applyIndentation _ _
    · trivial

/-- The number of characters at the front of a text that make a name. -/
def validLength : List Char → Nat
  | [] => 0
  | c :: rest => if Word.isStart c then 1 + (rest.takeWhile Word.isContinue).length else 0

theorem unbroken_of_drop_validLength {cs : List Char} (h : cs.drop (validLength cs) = []) :
    Unbroken cs := by
  cases cs with
  | nil => exact Line.free_nil
  | cons c rest =>
    rw [validLength] at h
    split at h
    · rename_i hstart
      rw [Nat.add_comm, List.drop_succ_cons, List.drop_eq_nil_iff] at h
      have hall : rest.takeWhile Word.isContinue = rest :=
        (List.takeWhile_prefix _).eq_of_length_le h
      refine Line.free_cons.mpr ⟨Word.isEnd_of_isStart hstart, fun d hd => ?_⟩
      rw [← hall] at hd
      exact Word.isEnd_of_isContinue (List.mem_takeWhile_imp hd)
    · cases h

/-- A name is read whole only if each of its characters may stand in a name. -/
theorem clean_name (start : Cursor) : (s.name start).Clean := by
  unfold name
  extract_lets stop cs valid
  split
  · rename_i h
    exact fun _ => unbroken_of_drop_validLength h
  · exact clean_complain _ _

theorem clean_string (skipped : Nat) (start : Cursor) : (s.string skipped start).Clean := by
  unfold string
  dsimp only
  split
  · trivial
  · split
    · exact clean_emit (by decide) _ _
    · trivial

theorem parts_groups {p : Char → Bool} {fault : Cursor → Step} (hfault : ∀ c, (fault c).Clean)
    (fuel : Nat) (c : Cursor) : Parts (groups p fault fuel c) fun _ => True := by
  fun_induction groups p fault fuel c with
  | case1 => trivial
  | case2 _ _ _ _ _ ih => exact ih
  | case3 => trivial
  | case4 => exact hfault _

theorem parts_decimalTail (c : Cursor) : Parts (s.decimalTail c) fun _ => True := by
  unfold decimalTail
  dsimp only
  split
  · exact parts_groups (fun _ => clean_complain _ _) _ _
  · trivial

theorem parts_finishNumber (kind : String) (start stop : Cursor) :
    Parts (s.finishNumber kind start stop) Step.Clean := by
  unfold finishNumber
  split
  · exact clean_emit (by decide) _ _
  · trivial

theorem clean_digitFault (kind : String) (c : Cursor) : (s.digitFault kind c).Clean := by
  unfold digitFault
  split
  · split <;> trivial
  · trivial

theorem parts_basedNumber (kind : String) (p : Char → Bool) (start c : Cursor) :
    Parts (s.basedNumber kind p start c) Step.Clean := by
  unfold basedNumber
  refine (parts_groups (fun _ => clean_digitFault _ _) _ _).bind fun stop _ => ?_
  split
  · exact clean_digitFault _ _
  · exact parts_finishNumber _ _ _

theorem parts_exponentPart (start c : Cursor) : Parts (s.exponentPart start c) Step.Clean := by
  unfold exponentPart
  extract_lets imaginary
  have himaginary : ∀ c, Parts (imaginary c) Step.Clean := by
    intro c
    dsimp only [imaginary]
    split <;> exact parts_finishNumber _ _ _
  split
  · split
    · split
      · split
        · exact (parts_decimalTail _).bind fun c _ => himaginary c
        · trivial
      split
      · exact (parts_decimalTail _).bind fun c _ => himaginary c
      · exact parts_finishNumber _ _ _
    · exact parts_finishNumber _ _ _
  · exact himaginary c

theorem parts_fractionPart (start c : Cursor) : Parts (s.fractionPart start c) Step.Clean := by
  unfold fractionPart
  split
  · dsimp only
    split
    · exact (parts_decimalTail _).bind fun c _ => parts_exponentPart _ c
    · exact parts_exponentPart _ _
  · exact parts_exponentPart _ _

theorem parts_zeros (fuel : Nat) (c : Cursor) : Parts (s.zeros fuel c) fun _ => True := by
  fun_induction zeros s fuel c with
  | case1 => trivial
  | case2 _ _ _ ih => exact ih
  | case3 _ _ _ _ _ _ ih => exact ih
  | case4 => trivial
  | case5 => trivial
  | case6 => trivial

theorem parts_zeroNumber (start : Cursor) : Parts (s.zeroNumber start) Step.Clean := by
  unfold zeroNumber
  dsimp only
  split
  · exact parts_basedNumber _ _ _ _
  · exact parts_basedNumber _ _ _ _
  · exact parts_basedNumber _ _ _ _
  · refine (parts_zeros _ _).bind fun c _ => ?_
    split
    · refine (parts_decimalTail c).bind fun d _ => ?_
      split
      · split
        · exact parts_fractionPart start d
        · trivial
      · trivial
    · have hread : Parts (.ok c : Except Step Cursor) fun _ => True := trivial
      refine hread.bind fun c _ => ?_
      split
      · split
        · exact parts_fractionPart start c
        · exact parts_finishNumber _ _ _
      · exact parts_finishNumber _ _ _

theorem clean_number (start : Cursor) : (s.number start).Clean := by
  have hnumber : Parts (if start.peek == some '0' then s.zeroNumber start
      else if start.peek == some '.' then do s.exponentPart start (← s.decimalTail start.advance)
      else do s.fractionPart start (← s.decimalTail start)) Step.Clean := by
    split
    · exact parts_zeroNumber start
    split
    · exact (parts_decimalTail _).bind fun c _ => parts_exponentPart _ c
    · exact (parts_decimalTail _).bind fun c _ => parts_fractionPart _ c
  unfold number
  dsimp only
  split <;> rename_i h <;> rw [h] at hnumber <;> exact hnumber

theorem clean_operator (x : Char) (start : Cursor) : (s.operator x start).Clean := by
  unfold operator
  split
  · exact clean_emit (by decide) _ _
  · dsimp only
    split
    · split
      · trivial
      · exact clean_emit (by decide) _ _
    split
    · split
      · trivial
      · split_ifs
        · exact clean_emit (by decide) _ _
        · trivial
        · trivial
    split
    · exact clean_emit (by decide) _ _
    · trivial

theorem clean_inLine : s.inLine.Clean := by
  unfold inLine
  extract_lets c before d s'
  split
  · split
    · exact clean_emitLayout (by decide) _
    · trivial
  split
  · exact clean_string _ _
  split
  · exact clean_name _
  split
  · split
    · exact fun h => nomatch h
    · trivial
  split
  · exact clean_number _
  split
  · have hjoined := parts_continuation (s := s) true d.advance
    split <;> rename_i h <;> rw [h] at hjoined
    · trivial
    · exact hjoined
  · exact clean_operator _ _

theorem clean_step (s : Scanner) : s.step.Clean := by
  unfold step
  split
  · exact clean_lineStart
  split
  · exact clean_emitLayout (by decide) _
  split
  · exact clean_emitLayout (by decide) _
  · exact clean_inLine

/-- By induction on the steps that are left: each token is given by a step. -/
theorem clean_run (fuel : Nat) (s : Scanner) {out : Array Token}
    (hout : ∀ t ∈ out, t.kind = .name → Unbroken t.text.toList) :
    ∀ t ∈ (run fuel s out).1, t.kind = .name → Unbroken t.text.toList := by
  induction fuel generalizing s out with
  | zero => exact hout
  | succ fuel ih =>
    have hstep := clean_step s
    unfold run
    split
    · rename_i t next h
      rw [h] at hstep
      have hpush : ∀ u ∈ out.push t, u.kind = .name → Unbroken u.text.toList := by
        intro u hu
        rcases Array.mem_push.mp hu with hu | rfl
        · exact hout u hu
        · exact hstep
      split
      · exact hpush
      · exact ih next hpush
    · exact ih _ hout
    · exact hout

end Scanner

/-- No name that is read from a text has a line end in it. -/
theorem scannedNamed_unbroken : ScannedNamed fun s => Unbroken s.toList := by
  intro line cs t ht hkind
  exact NormalForm.unbroken_ofName
    (Scanner.clean_run _ _ (by simp) t ht hkind)

end Source
end BranchCover
