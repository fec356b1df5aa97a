import BranchCover.Proofs.Unplaced

/-! The texts of quoted annotations, which are read as sources of their own. A text with a surrogate is no source,
nor is one with a null byte where that is no fault. An annotation that comes to such a text has no reading; any
other has. -/
namespace BranchCover

namespace Text

/-- Whether a text can be read as a source at all: it has an encoding, and null bytes are faults if it has any. -/
def IsSource [Interpreter] (t : Text) : Prop :=
  ∀ p ∈ t, p.isSurrogate = false ∧ (p.val = 0 → Interpreter.nullIsFault = true)

theorem toChar?_eq_none_iff (p : CodePoint) : p.toChar? = none ↔ p.isSurrogate := by
  have hlt := p.isLt
  have hvalid : p.val.isValidChar ↔ p.val < 0xD800 ∨ 0xDFFF < p.val ∧ p.val < 0x110000 := Iff.rfl
  simp only [CodePoint.toChar?, CodePoint.isSurrogate, ite_eq_right_iff, reduceCtorEq, imp_false, hvalid,
    Bool.and_eq_true, decide_eq_true_eq]
  omega

theorem toNat_of_toChar? {p : CodePoint} {c : Char} (h : p.toChar? = some c) : c.toNat = p.val := by
  unfold CodePoint.toChar? at h
  split at h
  · rename_i hvalid
    obtain rfl := Option.some.inj h
    rw [Char.ofNat, dif_pos hvalid]
    rfl
  · cases h

/-- A text is a string, of the same code points, if no surrogate is in it. -/
theorem exists_toString? {t : Text} (h : ∀ p ∈ t, p.isSurrogate = false) :
    ∃ s : String, t.toString? = some s ∧ s.toList.map Char.toNat = t.map CodePoint.val := by
  have hchars : ∃ cs, t.mapM CodePoint.toChar? = some cs ∧ cs.map Char.toNat = t.map CodePoint.val := by
    induction t with
    | nil => exact ⟨[], rfl, rfl⟩
    | cons p t ih =>
      obtain ⟨cs, hcs, hvals⟩ := ih fun q hq => h q (List.mem_cons_of_mem _ hq)
      cases hp : p.toChar? with
      | none => exact absurd ((toChar?_eq_none_iff p).mp hp) (by simp [h p List.mem_cons_self])
      | some c => exact ⟨c :: cs, by simp [hp, hcs], by simp [toNat_of_toChar? hp, hvals]⟩
  obtain ⟨cs, hcs, hvals⟩ := hchars
  exact ⟨String.ofList cs, by simp [toString?, hcs], by simp [hvals]⟩

theorem toString?_of_surrogate {t : Text} {p : CodePoint} (hp : p ∈ t) (h : p.isSurrogate) :
    t.toString? = none := by
  have hchars : t.mapM CodePoint.toChar? = none := by
    induction t with
    | nil => cases hp
    | cons q t ih =>
      cases hq : q.toChar? with
      | none => simp [hq]
      | some c =>
        rcases List.mem_cons.mp hp with rfl | hp
        · simp [(toChar?_eq_none_iff p).mpr h] at hq
        · simp [hq, ih hp]
  simp [toString?, hchars]

theorem null_mem_iff {t : Text} {s : String} (h : s.toList.map Char.toNat = t.map CodePoint.val) :
    '\x00' ∈ s.toList ↔ ∃ p ∈ t, p.val = 0 := by
  have hchars : '\x00' ∈ s.toList ↔ 0 ∈ s.toList.map Char.toNat := by
    constructor
    · exact fun hc => List.mem_map.mpr ⟨_, hc, rfl⟩
    · intro hzero
      obtain ⟨c, hc, hc0⟩ := List.mem_map.mp hzero
      obtain rfl : c = '\x00' := Char.toNat_inj.mp hc0
      exact hc
  rw [hchars, h, List.mem_map]

end Text

namespace Source

theorem exists_surrogates? {t : Text} {p : CodePoint} (hp : p ∈ t) (h : p.isSurrogate) :
    ∃ first last code, surrogates? t = some (first, last, code) := by
  have hsome : (t.findIdx? (·.isSurrogate)).isSome := by
    rw [List.findIdx?_isSome]
    exact List.any_eq_true.mpr ⟨p, hp, h⟩
  obtain ⟨i, hi⟩ := Option.isSome_iff_exists.mp hsome
  exact ⟨_, _, _, by rw [surrogates?, hi]⟩

variable [Interpreter]

theorem Refusal.ofNull_of_fault (h : Interpreter.nullIsFault = true) :
    Refusal.ofNull = .fault ⟨.nullByte, 0, 0⟩ :=
  if_pos h

theorem Refusal.ofNull_of_not_fault (h : Interpreter.nullIsFault = false) : Refusal.ofNull = .nullByte :=
  if_neg (by rw [h]; decide)

/-- A text that can be read as a source is an expression or has a fault. -/
theorem readExpression_of_isSource {t : Text} (h : t.IsSource) :
    (∃ e, readExpression t = .ok e) ∨ ∃ f, readExpression t = .error (.fault f) := by
  obtain ⟨s, hs, hvals⟩ := Text.exists_toString? fun p hp => (h p hp).1
  by_cases hnull : '\x00' ∈ s.toList
  · obtain ⟨p, hp, hp0⟩ := (Text.null_mem_iff hvals).mp hnull
    refine .inr ⟨⟨.nullByte, 0, 0⟩, ?_⟩
    simp only [readExpression, hs, List.contains_iff_mem.mpr hnull, if_true,
      Refusal.ofNull_of_fault ((h p hp).2 hp0)]
  · have hread : readExpression t =
        ((Grammar.loneExpression (rules (depthBound (unifyLineEnds false s.toList)))).run
          (Feed.ofChars (unifyLineEnds false s.toList))).mapError .fault := by
      simp only [readExpression, hs, List.contains_eq_mem, hnull, decide_false, Bool.false_eq_true, if_false]
    rw [hread]
    cases (Grammar.loneExpression (rules (depthBound (unifyLineEnds false s.toList)))).run
        (Feed.ofChars (unifyLineEnds false s.toList)) with
    | ok e => exact .inl ⟨e, rfl⟩
    | error f => exact .inr ⟨f, rfl⟩

/-- Any other text is refused as a whole, with no fault of it. -/
theorem readExpression_of_not_isSource {t : Text} (h : ¬ t.IsSource) :
    ∃ r, readExpression t = .error r ∧ ∀ f, r ≠ .fault f := by
  by_cases hsurrogate : ∃ p ∈ t, p.isSurrogate
  · obtain ⟨p, hp, hps⟩ := hsurrogate
    obtain ⟨first, last, code, hrange⟩ := exists_surrogates? hp hps
    refine ⟨.unencodable first last code, ?_, fun f hf => nomatch hf⟩
    simp only [readExpression, Text.toString?_of_surrogate hp hps, hrange]
  · have hplain : ∀ p ∈ t, p.isSurrogate = false := fun p hp =>
      Bool.eq_false_iff.mpr fun hps => hsurrogate ⟨p, hp, hps⟩
    obtain ⟨s, hs, hvals⟩ := Text.exists_toString? hplain
    obtain ⟨hzero, hfault⟩ : (∃ p ∈ t, p.val = 0) ∧ Interpreter.nullIsFault = false := by
      by_contra hnot
      refine h fun p hp => ⟨hplain p hp, fun hp0 => ?_⟩
      by_contra hfault
      exact hnot ⟨⟨p, hp, hp0⟩, Bool.eq_false_iff.mpr hfault⟩
    have hnull := List.contains_iff_mem.mpr ((Text.null_mem_iff hvals).mpr hzero)
    refine ⟨.nullByte, ?_, fun f hf => nomatch hf⟩
    simp only [readExpression, hs, hnull, if_true, Refusal.ofNull_of_not_fault hfault]

/-- A source with a null byte may be refused as a whole; any other is read or has a fault. -/
theorem readModule_refused_iff (source : String) (r : Refusal) (hr : ∀ f, r ≠ .fault f) :
    readModule source = .error r ↔
      ('\x00' ∈ source.toList ∧ Interpreter.nullIsFault = false) ∧ r = .nullByte := by
  unfold readModule
  by_cases hnull : '\x00' ∈ source.toList
  · cases hfault : Interpreter.nullIsFault with
    | true =>
      simp only [List.contains_iff_mem.mpr hnull, if_true, Refusal.ofNull_of_fault hfault]
      simpa using (hr _).symm
    | false => simp [hnull, Refusal.ofNull_of_not_fault hfault, eq_comm]
  · simp only [List.contains_eq_mem, hnull, decide_false, Bool.false_eq_true, if_false, false_and, iff_false]
    intro h
    cases hrun : (Grammar.module (rules (depthBound (unifyLineEnds true source.toList)))).run
        (Feed.ofChars (unifyLineEnds true source.toList)) with
    | ok body => rw [hrun] at h; cases h
    | error f =>
      rw [hrun] at h
      exact hr f (Except.error.inj h).symm

end Source

namespace Typing

open Source

variable {bound : Option Nat} {e : Expr}

theorem Reaches.eq_of_quoted {t u : Text} (h : Reaches e u) (he : Shape.ofExpr e = .quoted t) : u = t := by
  cases h with
  | quoted h => exact Shape.quoted.inj (h.symm.trans he)
  | through h _ =>
    rw [he] at h
    cases h

theorem Reaches.of_inner {inner : Expr} {t : Text} (h : Reaches e t)
    (he : (Shape.ofExpr e).inner? = some inner) : Reaches inner t := by
  cases h with
  | quoted h =>
    rw [h] at he
    cases he
  | through h ht =>
    obtain rfl := Option.some.inj (h.symm.trans he)
    exact ht

variable [Interpreter]

/-- An annotation that comes to a text that is no source at all, also from within another text that is an
expression. -/
inductive Spoiled : Option Nat → Expr → Prop where
  | text {bound : Option Nat} {e : Expr} {t : Text} (reaches : Reaches e t) (hfits : fits bound t)
      (h : ¬ t.IsSource) : Spoiled bound e
  | within {bound : Option Nat} {e inner : Expr} {t : Text} (reaches : Reaches e t) (hfits : fits bound t)
      (hread : readExpression t = .ok inner) (h : Spoiled (some t.length) inner) : Spoiled bound e

theorem Spoiled.exists_reaches (h : Spoiled bound e) : ∃ t, Reaches e t := by
  cases h with
  | text reaches => exact ⟨_, reaches⟩
  | within reaches => exact ⟨_, reaches⟩

theorem spoiled_iff_of_inner {inner : Expr} (he : (Shape.ofExpr e).inner? = some inner) :
    Spoiled bound e ↔ Spoiled bound inner := by
  constructor
  · rintro (⟨reaches, hfits, h⟩ | ⟨reaches, hfits, hread, h⟩)
    · exact .text (reaches.of_inner he) hfits h
    · exact .within (reaches.of_inner he) hfits hread h
  · rintro (⟨reaches, hfits, h⟩ | ⟨reaches, hfits, hread, h⟩)
    · exact .text (.through he reaches) hfits h
    · exact .within (.through he reaches) hfits hread h

theorem not_spoiled_of_none (he : (Shape.ofExpr e).inner? = none) (h : ∀ t, Shape.ofExpr e ≠ .quoted t) :
    ¬ Spoiled bound e := by
  intro hspoiled
  obtain ⟨t, ht⟩ := hspoiled.exists_reaches
  cases ht with
  | quoted hq => exact h t hq
  | through hi _ =>
    rw [he] at hi
    cases hi

theorem spoiled_iff_of_quoted {t : Text} (he : Shape.ofExpr e = .quoted t) (hfits : fits bound t) :
    Spoiled bound e ↔ ¬ t.IsSource ∨ ∃ inner, readExpression t = .ok inner ∧ Spoiled (some t.length) inner := by
  constructor
  · rintro (⟨reaches, -, h⟩ | ⟨reaches, -, hread, h⟩)
    · obtain rfl := reaches.eq_of_quoted he
      exact .inl h
    · obtain rfl := reaches.eq_of_quoted he
      exact .inr ⟨_, hread, h⟩
  · rintro (h | ⟨inner, hread, h⟩)
    · exact .text (.quoted he) hfits h
    · exact .within (.quoted he) hfits hread h

/-- The reading of an annotation ends with a node or with the refusal of a text; it ends with no fault. -/
theorem read_settled (bound : Option Nat) (e : Expr) :
    (¬ Spoiled bound e ∧ ∃ n, read readExpression bound e = .ok n) ∨
      (Spoiled bound e ∧ ∃ r, read readExpression bound e = .error r ∧ ∀ f, r ≠ .fault f) := by
  fun_induction read readExpression bound e with
  | case1 bound e he => exact .inl ⟨not_spoiled_of_none (by rw [he]; rfl) (by simp [he]), _, rfl⟩
  | case2 bound e name he => exact .inl ⟨not_spoiled_of_none (by rw [he]; rfl) (by simp [he]), _, rfl⟩
  | case3 bound e inner he hlt ih =>
    rw [spoiled_iff_of_inner (by rw [he]; rfl)]
    exact ih
  | case4 bound e he => exact .inl ⟨not_spoiled_of_none (by rw [he]; rfl) (by simp [he]), _, rfl⟩
  | case5 bound e element he hlt ih =>
    rw [spoiled_iff_of_inner (by rw [he]; rfl)]
    obtain ⟨hsound, n, hn⟩ | ⟨hspoiled, r, hr, hplace⟩ := ih
    · exact .inl ⟨hsound, _, by rw [hn]; rfl⟩
    · exact .inr ⟨hspoiled, r, by rw [hr]; rfl, hplace⟩
  | case6 bound e t he hfits inner hinner ih =>
    have hsource : t.IsSource := by
      by_contra h
      obtain ⟨r, hr, -⟩ := readExpression_of_not_isSource h
      rw [hinner] at hr
      cases hr
    have hiff : Spoiled bound e ↔ Spoiled (some t.length) inner := by
      rw [spoiled_iff_of_quoted he hfits, hinner]
      simp [hsource]
    rw [hiff]
    obtain ⟨hsound, n, hn⟩ | ⟨hspoiled, r, hr, hplace⟩ := ih
    · exact .inl ⟨hsound, _, by rw [hn]; rfl⟩
    · exact .inr ⟨hspoiled, r, by rw [hr]; rfl, hplace⟩
  | case7 bound e t he hfits fault hfault =>
    refine .inl ⟨?_, _, rfl⟩
    rw [spoiled_iff_of_quoted he hfits, hfault]
    rintro (h | ⟨inner, hread, -⟩)
    · obtain ⟨r, hr, hplace⟩ := readExpression_of_not_isSource h
      exact hplace fault (Except.error.inj (hr.symm.trans hfault))
    · cases hread
  | case8 bound e t he hfits r hr herror =>
    refine .inr ⟨(spoiled_iff_of_quoted he hfits).mpr (.inl fun h => ?_), r, rfl, hr⟩
    obtain ⟨i, hi⟩ | ⟨f, hf⟩ := readExpression_of_isSource h
    · rw [herror] at hi
      cases hi
    · exact hr f (Except.error.inj (herror.symm.trans hf))
  | case9 bound e t he hfits =>
    refine .inl ⟨?_, _, rfl⟩
    rintro (⟨reaches, hfits', -⟩ | ⟨reaches, hfits', -, -⟩) <;>
    · obtain rfl := reaches.eq_of_quoted he
      exact hfits hfits'

theorem exists_read_iff : (∃ n, read readExpression bound e = .ok n) ↔ ¬ Spoiled bound e := by
  obtain ⟨hsound, n, hn⟩ | ⟨hspoiled, r, hr, -⟩ := read_settled bound e
  · exact ⟨fun _ => hsound, fun _ => ⟨n, hn⟩⟩
  · rw [hr]
    exact ⟨fun h => (nomatch h), fun h => absurd hspoiled h⟩

end Typing
end BranchCover
