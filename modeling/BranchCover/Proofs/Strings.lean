import BranchCover.Proofs.Tables
import BranchCover.Source.Literal
import BranchCover.Text.Quoted
import Mathlib.Algebra.Group.Nat.Defs

/-! How the text of a string reads back. What is between the quotes is scanned up to the first quote that is
not escaped, and its escapes are read as in a program. Each code point is written in one of three forms,
which are scanned and read as a whole, whatever is behind them. -/
namespace BranchCover

namespace Quoted

def isControl (c : Char) : Bool :=
  c.toNat < 0x20 || (0x7F ≤ c.toNat && c.toNat ≤ 0x9F)

/-- The code points of printable characters. A surrogate is none. -/
def isPoint (printable : Char → Bool) (n : Nat) : Bool :=
  decide n.isValidChar && printable (Char.ofNat n)

theorem isControl_of_test (c : Char) (h : Printable.test c.toNat = true) : isControl c = false := by
  have hplain := (Printable.isValidChar_of_test h (CodePoint.ofChar c).isLt).2
  rw [isControl, Bool.eq_false_iff]
  simpa using hplain

theorem literalWith_test (t : Text) :
    literalWith (isPoint fun c => Printable.test c.toNat) t = literal t := by
  have hpoint : ∀ p : CodePoint, isPoint (fun c => Printable.test c.toNat) p.val = Printable.test p.val := by
    intro p
    by_cases hvalid : p.val.isValidChar
    · have hvalue : (Char.ofNat p.val).toNat = p.val := by
        rw [Char.ofNat, dif_pos hvalid]
        rfl
      rw [isPoint, decide_eq_true hvalid, Bool.true_and, hvalue]
    · have hnot : Printable.test p.val = false := Bool.eq_false_iff.mpr fun h =>
        hvalid (Printable.isValidChar_of_test h p.isLt).1
      rw [isPoint, decide_eq_false hvalid, Bool.false_and, hnot]
  have hunit : ∀ q, unit (isPoint fun c => Printable.test c.toNat) q = unit Printable.test q := fun q =>
    funext fun p => by rw [unit, unit, hpoint]
  rw [literal, literalWith, literalWith, hunit]

end Quoted

namespace Reader

open Source

/-- Splits what is behind an opening quote at the closing one. -/
def quoted (q : Char) : List Char → Option (List Char × List Char)
  | [] => none
  | '\\' :: c :: cs => (quoted q cs).map (Prod.map (['\\', c] ++ ·) id)
  | c :: cs =>
    if c == q then some ([], cs)
    else if c == '\n' || c == '\r' || c == '\x00' then none
    else (quoted q cs).map (Prod.map ([c] ++ ·) id)

/-- A string from behind its opening quote. Three quotes in a row do not open one here. -/
def string? [Interpreter] (q : Char) (cs : List Char) : Option (Text × List Char) :=
  if cs.take 2 = [q, q] then none
  else
    match quoted q cs with
    | some (body, rest) => (Literal.unescape body).toOption.map fun t => (t, rest)
    | none => none

theorem length_of_quoted {q : Char} {cs body rest : List Char} (h : quoted q cs = some (body, rest)) :
    rest.length < cs.length := by
  fun_induction quoted q cs generalizing body with
  | case1 => cases h
  | case2 c cs ih =>
    obtain ⟨⟨b, r⟩, hr, hpair⟩ := Option.map_eq_some_iff.mp h
    obtain ⟨-, rfl⟩ := Prod.mk.inj hpair
    exact Nat.lt_succ_of_lt (Nat.lt_succ_of_lt (ih hr))
  | case3 c cs hslash hq =>
    obtain ⟨-, rfl⟩ := Prod.mk.inj (Option.some.inj h)
    exact Nat.lt_succ_self _
  | case4 => cases h
  | case5 c cs hslash hq hline ih =>
    obtain ⟨⟨b, r⟩, hr, hpair⟩ := Option.map_eq_some_iff.mp h
    obtain ⟨-, rfl⟩ := Prod.mk.inj hpair
    exact Nat.lt_succ_of_lt (ih hr)

theorem length_of_string? [Interpreter] {q : Char} {cs rest : List Char} {t : Text} (h : string? q cs = some (t, rest)) :
    rest.length < cs.length := by
  unfold string? at h
  split at h
  · cases h
  · split at h
    · rename_i body tail hquoted
      obtain ⟨u, -, hpair⟩ := Option.map_eq_some_iff.mp h
      obtain ⟨-, rfl⟩ := Prod.mk.inj hpair
      exact length_of_quoted hquoted
    · cases h

/-- A character that a string holds as it is. -/
def isBody (q c : Char) : Bool :=
  c != '\\' && c != q && c != '\n' && c != '\r' && c != '\x00'

/-- How a code point is written between quotes: by a letter or sign behind a backslash, as itself, or by its
number. -/
inductive Form (q : Char) (p : CodePoint) : List Char → Prop where
  | short {c : Char} (h : Literal.simpleEscape? c = some p.val) : Form q p ['\\', c]
  | plain {c : Char} (hc : isBody q c = true) (h : CodePoint.ofChar c = p) : Form q p [c]
  | hex {mark : Char} {count : Nat} (hmark : (mark, count) ∈ [('x', 2), ('u', 4), ('U', 8)])
      (h : p.val < 16 ^ count) : Form q p ('\\' :: mark :: Quoted.hex count p.val)

section

variable {printable : Char → Bool} {q c : Char} {cs rest xs : List Char} {p : CodePoint} {t : Text}

theorem isBody_of_printable (hcontrol : ∀ c, printable c = true → Quoted.isControl c = false)
    (hprintable : Quoted.isPoint printable p.val = true) (hq : p.val ≠ q.toNat) (hslash : p.val ≠ 0x5C) :
    isBody q (Char.ofNat p.val) = true ∧ CodePoint.ofChar (Char.ofNat p.val) = p := by
  obtain ⟨hvalid, hshown⟩ := Bool.and_eq_true_iff.mp hprintable
  have hvalue : (Char.ofNat p.val).toNat = p.val := by
    rw [Char.ofNat, dif_pos (of_decide_eq_true hvalid)]
    rfl
  have hne : ∀ c : Char, p.val ≠ c.toNat → Char.ofNat p.val ≠ c := by
    rintro c hc rfl
    exact hc hvalue.symm
  have hplain := hcontrol _ hshown
  have hnot : ∀ c : Char, Quoted.isControl c = true → Char.ofNat p.val ≠ c := by
    rintro c hc rfl
    rw [hplain] at hc
    cases hc
  refine ⟨?_, by cases p; simpa [CodePoint.ofChar] using hvalue⟩
  simp [isBody, hne '\\' hslash, hne q hq, hnot '\n' (by decide), hnot '\r' (by decide),
    hnot '\x00' (by decide)]

theorem form_unit (hcontrol : ∀ c, printable c = true → Quoted.isControl c = false)
    (hq : q = '\'' ∨ q = '"') (p : CodePoint) :
    Form q p (Quoted.unit (Quoted.isPoint printable) q p) := by
  have hquote : Literal.simpleEscape? q = some q.toNat := by
    rcases hq with rfl | rfl <;> rfl
  have hlt := p.isLt
  rw [Quoted.unit]
  split
  · rename_i hself
    refine .short ?_
    rcases Bool.or_eq_true_iff.mp hself with h | h
    · rw [eq_of_beq h, Char.ofNat_toNat, hquote]
    · rw [eq_of_beq h]
      rfl
  rename_i hself
  split
  · rename_i htab
    exact .short (by rw [eq_of_beq htab]; rfl)
  split
  · rename_i hfeed
    exact .short (by rw [eq_of_beq hfeed]; rfl)
  split
  · rename_i hreturn
    exact .short (by rw [eq_of_beq hreturn]; rfl)
  split
  · rename_i hprintable
    simp only [Bool.or_eq_true, beq_iff_eq, not_or] at hself
    obtain ⟨hbody, hpoint⟩ := isBody_of_printable hcontrol hprintable hself.1 hself.2
    exact .plain hbody hpoint
  split
  · rename_i hbyte
    exact .hex (by decide) hbyte
  split
  · rename_i hshort
    exact .hex (by decide) hshort
  · exact .hex (by decide) (by omega)

theorem quoted_cons_of_body (h : isBody q c = true) (cs : List Char) :
    quoted q (c :: cs) = (quoted q cs).map (Prod.map ([c] ++ ·) id) := by
  simp only [isBody, Bool.and_eq_true, bne_iff_ne] at h
  obtain ⟨⟨⟨⟨hslash, hq⟩, hfeed⟩, hreturn⟩, hzero⟩ := h
  rw [quoted]
  · simp [hq, hfeed, hreturn, hzero]
  · rintro d ds rfl
    exact absurd rfl hslash

/-- By induction on the characters. -/
theorem quoted_append_of_body (h : ∀ c ∈ xs, isBody q c = true) (cs : List Char) :
    quoted q (xs ++ cs) = (quoted q cs).map (Prod.map (xs ++ ·) id) := by
  induction xs with
  | nil => exact (congrFun Option.map_id (quoted q cs)).symm
  | cons c xs ih =>
    rw [List.cons_append, quoted_cons_of_body (h c List.mem_cons_self),
      ih fun d hd => h d (List.mem_cons_of_mem c hd), Option.map_map]
    rfl

theorem exists_of_mem_hex {count n : Nat} (h : c ∈ Quoted.hex count n) : ∃ d < 16, c = Quoted.hexDigit d := by
  induction count generalizing n with
  | zero => cases h
  | succ count ih =>
    rcases List.mem_append.mp h with h | h
    · exact ih h
    · exact ⟨n % 16, Nat.mod_lt n (by decide), List.mem_singleton.mp h⟩

theorem isBody_of_mem_hex (hq : q = '\'' ∨ q = '"') {count n : Nat} (h : c ∈ Quoted.hex count n) :
    isBody q c = true := by
  obtain ⟨d, hd, rfl⟩ := exists_of_mem_hex h
  rcases hq with rfl | rfl
  · exact (by decide : ∀ d < 16, isBody '\'' (Quoted.hexDigit d) = true) d hd
  · exact (by decide : ∀ d < 16, isBody '"' (Quoted.hexDigit d) = true) d hd

theorem digitValue?_hexDigit {d : Nat} (hd : d < 16) : Literal.digitValue? (Quoted.hexDigit d) = some d :=
  (by decide : ∀ d < 16, Literal.digitValue? (Quoted.hexDigit d) = some d) d hd

theorem quoted_form (hq : q = '\'' ∨ q = '"') (h : Form q p xs) (cs : List Char) :
    quoted q (xs ++ cs) = (quoted q cs).map (Prod.map (xs ++ ·) id) := by
  cases h with
  | short => rfl
  | plain hc => exact quoted_cons_of_body hc cs
  | hex hmark hlt =>
    rename_i mark count
    change (quoted q (Quoted.hex count p.val ++ cs)).map (Prod.map (['\\', mark] ++ ·) id) = _
    rw [quoted_append_of_body (fun c => isBody_of_mem_hex hq) cs, Option.map_map]
    rfl

theorem natOf_hex {count n : Nat} (h : n < 16 ^ count) : Literal.natOf 16 (Quoted.hex count n) = n := by
  induction count generalizing n with
  | zero =>
    rw [Nat.pow_zero] at h
    rw [Nat.lt_one_iff.mp h]
    rfl
  | succ count ih =>
    have hrest : n / 16 < 16 ^ count := Nat.div_lt_of_lt_mul (by rwa [Nat.pow_succ'] at h)
    have hdigit := digitValue?_hexDigit (Nat.mod_lt n (by decide : 16 > 0))
    rw [Literal.natOf, Quoted.hex, List.foldl_append, ← Literal.natOf, ih hrest, List.foldl_cons,
      List.foldl_nil, hdigit, Option.getD_some, Nat.div_add_mod]

theorem hexEscape_hex {count : Nat} (mark : Char) (h : p.val < 16 ^ count) (cs : List Char) :
    Literal.hexEscape mark count (Quoted.hex count p.val ++ cs) = .ok ([p], count + 1) := by
  have htake : (Quoted.hex count p.val ++ cs).take count = Quoted.hex count p.val :=
    List.take_left' (Quoted.length_hex count p.val)
  have hdigits : (Quoted.hex count p.val).takeWhile (fun c => (Literal.digitValue? c).isSome) =
      Quoted.hex count p.val := by
    have hall : ∀ c ∈ Quoted.hex count p.val, (Literal.digitValue? c).isSome = true := fun c hc => by
      obtain ⟨d, hd, rfl⟩ := exists_of_mem_hex hc
      rw [digitValue?_hexDigit hd]
      rfl
    rw [← List.append_nil (Quoted.hex count p.val), List.takeWhile_append_of_pos (by simpa using hall)]
    rfl
  have hpoint : Literal.point p.val = some p := dif_pos p.isLt
  simp only [Literal.hexEscape, htake, hdigits, Quoted.length_hex, Nat.lt_irrefl, if_false, natOf_hex h, hpoint]

section

variable [Interpreter]

theorem escape_hex {mark : Char} {count : Nat} (hmark : (mark, count) ∈ [('x', 2), ('u', 4), ('U', 8)])
    (h : p.val < 16 ^ count) (cs : List Char) :
    Literal.escape (mark :: (Quoted.hex count p.val ++ cs)) = .ok ([p], count + 1) := by
  simp only [List.mem_cons, Prod.mk.injEq, List.not_mem_nil, or_false] at hmark
  rcases hmark with ⟨rfl, rfl⟩ | ⟨rfl, rfl⟩ | ⟨rfl, rfl⟩
  all_goals
    unfold Literal.escape
    simp only [hexEscape_hex _ h]
    rfl

theorem unescapeFrom_skip (xs : List Char) (h : ∀ place, Literal.unescapeFrom 0 place cs = .ok t)
    (place : Nat) : Literal.unescapeFrom xs.length place (xs ++ cs) = .ok t := by
  induction xs generalizing place with
  | nil => exact h place
  | cons c xs ih =>
    rw [List.cons_append, Literal.unescapeFrom, List.length_cons, if_pos (by simp), Nat.add_sub_cancel]
    exact ih _

theorem unescapeFrom_escape (hxs : xs ≠ []) {s : Text} (hescape : Literal.escape (xs ++ cs) = .ok (s, xs.length))
    (h : ∀ place, Literal.unescapeFrom 0 place cs = .ok t) (place : Nat) :
    Literal.unescapeFrom 0 place ('\\' :: (xs ++ cs)) = .ok (s ++ t) := by
  have hsome : (xs ++ cs).isEmpty = false := by simp [hxs]
  rw [Literal.unescapeFrom, if_neg (by decide), hsome, Bool.and_false, if_neg Bool.false_ne_true,
    if_pos (by decide), hescape]
  simp only [unescapeFrom_skip xs h]
  rfl

theorem unescapeFrom_form (hform : Form q p xs) (h : ∀ place, Literal.unescapeFrom 0 place cs = .ok t)
    (place : Nat) : Literal.unescapeFrom 0 place (xs ++ cs) = .ok (p :: t) := by
  cases hform with
  | short hc =>
    rename_i c
    have hpoint : Literal.point p.val = some p := dif_pos p.isLt
    have hescape : Literal.escape ([c] ++ cs) = .ok ([p], [c].length) := by
      unfold Literal.escape
      simp only [List.singleton_append, hc, hpoint]
      rfl
    exact unescapeFrom_escape (List.cons_ne_nil _ _) hescape h place
  | plain hc hp =>
    rename_i c
    have hslash : (c == '\\') = false := by
      simp only [isBody, Bool.and_eq_true, bne_iff_ne] at hc
      exact beq_eq_false_iff_ne.mpr hc.1.1.1.1
    rw [List.singleton_append, Literal.unescapeFrom, if_neg (by decide), hslash, Bool.false_and,
      if_neg Bool.false_ne_true, if_neg Bool.false_ne_true, h, hp]
    rfl
  | hex hmark hlt =>
    rename_i mark count
    have hescape : Literal.escape (mark :: Quoted.hex count p.val ++ cs) =
        .ok ([p], (mark :: Quoted.hex count p.val).length) := by
      rw [List.cons_append, escape_hex hmark hlt, List.length_cons, Quoted.length_hex]
    exact unescapeFrom_escape (List.cons_ne_nil _ _) hescape h place

end

section

variable (hcontrol : ∀ c, printable c = true → Quoted.isControl c = false) (hq : q = '\'' ∨ q = '"')

include hcontrol hq

/-- By induction on the code points: what is written between quotes is scanned up to the closing one. -/
theorem quoted_units (t : Text) (rest : List Char) :
    quoted q (t.flatMap (Quoted.unit (Quoted.isPoint printable) q) ++ q :: rest) =
      some (t.flatMap (Quoted.unit (Quoted.isPoint printable) q), rest) := by
  induction t with
  | nil =>
    have hslash : q ≠ '\\' := by
      rcases hq with rfl | rfl <;> decide
    rw [List.flatMap_nil, List.nil_append, quoted]
    · rw [if_pos (beq_self_eq_true q)]
    · rintro c cs rfl
      exact absurd rfl hslash
  | cons p t ih =>
    rw [List.flatMap_cons, List.append_assoc, quoted_form hq (form_unit hcontrol hq p), ih]
    rfl

theorem unescape_units [Interpreter] (t : Text) :
    Literal.unescape (t.flatMap (Quoted.unit (Quoted.isPoint printable) q)) = .ok t := by
  have hall : ∀ place, Literal.unescapeFrom 0 place
      (t.flatMap (Quoted.unit (Quoted.isPoint printable) q)) = .ok t := by
    induction t with
    | nil => exact fun _ => rfl
    | cons p t ih => exact unescapeFrom_form (form_unit hcontrol hq p) ih
  exact hall 0

theorem take_units_ne (t : Text) (hrest : rest.head? ≠ some q) :
    (t.flatMap (Quoted.unit (Quoted.isPoint printable) q) ++ q :: rest).take 2 ≠ [q, q] := by
  cases t with
  | nil =>
    intro h
    obtain ⟨-, htail⟩ := List.cons.inj h
    cases rest with
    | nil => cases htail
    | cons c rest => exact hrest (congrArg some (List.cons.inj htail).1)
  | cons p t =>
    have hform := form_unit hcontrol hq p
    rw [List.flatMap_cons]
    intro h
    generalize Quoted.unit (Quoted.isPoint printable) q p = xs at h hform
    cases hform with
    | short | hex =>
      obtain ⟨hslash, -⟩ := List.cons.inj h
      rcases hq with rfl | rfl <;> cases hslash
    | plain hc =>
      obtain ⟨rfl, -⟩ := List.cons.inj h
      simp [isBody] at hc

/-- What is written between quotes is read up to the closing one, unless another such quote is next. -/
theorem string?_units [Interpreter] (t : Text) (hrest : rest.head? ≠ some q) :
    string? q (t.flatMap (Quoted.unit (Quoted.isPoint printable) q) ++ q :: rest) = some (t, rest) := by
  rw [string?, if_neg (take_units_ne hcontrol hq t hrest)]
  simp only [quoted_units hcontrol hq, unescape_units hcontrol hq]
  rfl

end

end

end Reader
end BranchCover
