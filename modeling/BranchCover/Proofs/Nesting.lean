import BranchCover.Proofs.Lines

/-! A test module as nested blocks. A line that opens a block is followed by its block, one level
further in, and every other line by one that does not stand further in. Each scenario has a block of
its own that is tried, and these are the only ones. -/
namespace BranchCover

namespace Line

/-- The word that a text begins with. -/
def word (cs : List Char) : List Char :=
  cs.takeWhile Word.isInside

/-- The text begins with the word, and goes on behind it. -/
def Begins (w : String) (cs : List Char) : Prop :=
  word cs = w.toList ∧ ∃ c ∈ cs, Word.isInside c = false

instance (w : String) (cs : List Char) : Decidable (Begins w cs) :=
  decidable_of_iff (word cs = w.toList ∧ cs.any (!Word.isInside ·) = true) (by simp [Begins])

theorem word_append {cs ds : List Char} (h : ∃ c ∈ cs, Word.isInside c = false) :
    word (cs ++ ds) = word cs := by
  induction cs with
  | nil =>
    obtain ⟨c, hc, -⟩ := h
    cases hc
  | cons e es ih =>
    by_cases he : Word.isInside e = true
    · have hrest : ∃ c ∈ es, Word.isInside c = false := by
        obtain ⟨c, hc, hout⟩ := h
        rcases List.mem_cons.mp hc with rfl | hc
        · rw [he] at hout
          cases hout
        · exact ⟨c, hc, hout⟩
      have htail := ih hrest
      simp only [word] at htail
      simp [word, he, htail]
    · simp [word, he]

theorem Begins.append {w s t : String} (h : Begins w s.toList) : Begins w (s ++ t).toList := by
  obtain ⟨hword, c, hc, hout⟩ := h
  rw [String.toList_append]
  exact ⟨(word_append ⟨c, hc, hout⟩).trans hword, c, List.mem_append_left _ hc, hout⟩

end Line

namespace Row

/-- The line is neither blank nor a comment. -/
def IsStatement (r : Row) : Prop :=
  r.2 ≠ "" ∧ r.2.toList.head? ≠ some '#'

instance (r : Row) : Decidable r.IsStatement :=
  inferInstanceAs (Decidable (_ ∧ _))

/-- The line ends in a colon and begins with one of the words. -/
def Leads (words : List String) (r : Row) : Prop :=
  Line.EndsInColon r.2.toList ∧ String.ofList (Line.word r.2.toList) ∈ words

instance (words : List String) (r : Row) : Decidable (r.Leads words) :=
  inferInstanceAs (Decidable (_ ∧ _))

/-- The line opens a block. -/
def Opens : Row → Prop :=
  Leads ["class", "def", "try", "except"]

instance (r : Row) : Decidable r.Opens :=
  inferInstanceAs (Decidable (r.Leads _))

/-- The line opens a block that is tried or that handles an error. -/
def Guards : Row → Prop :=
  Leads ["try", "except"]

instance (r : Row) : Decidable r.Guards :=
  inferInstanceAs (Decidable (r.Leads _))

/-- The first line that is neither blank nor a comment. -/
def first (rs : List Row) : Option Row :=
  rs.find? (·.IsStatement)

/-- What comes after a line fits the line. -/
def Fits (r : Row) (after : List Row) : Prop :=
  (r.Opens → ∃ n, first after = some n ∧ n.1 = r.1 + 1) ∧
    (¬ r.Opens → ∀ n, first after = some n → n.1 ≤ r.1)

/-- Each line that is neither blank nor a comment is followed by what fits it. -/
def Nested (rs : List Row) : Prop :=
  ∀ before r after, rs = before ++ r :: after → r.IsStatement → r.Fits after

/-- The lines are nested, and the outermost level is theirs. -/
structure Laid (rs : List Row) : Prop where
  nested : Nested rs
  outer : ∀ n, first rs = some n → n.1 = 0

section Laying

variable {r : Row} {rs qs : List Row}

theorem nested_cons : Nested (r :: rs) ↔ (r.IsStatement → r.Fits rs) ∧ Nested rs := by
  constructor
  · intro h
    exact ⟨h [] r rs rfl, fun before q after heq => h (r :: before) q after (by simp [heq])⟩
  · rintro ⟨hr, hrs⟩ before q after heq
    cases before with
    | nil =>
      obtain ⟨rfl, rfl⟩ := List.cons.inj heq
      exact hr
    | cons p before =>
      obtain ⟨-, htail⟩ := List.cons.inj heq
      exact hrs before q after htail

theorem first_append : first (rs ++ qs) = (first rs).or (first qs) := by
  simp [first, List.find?_append]

/-- Lines after a line do not change what follows it, unless nothing did. -/
theorem Fits.append {r : Row} (h : r.Fits rs) (hqs : ∀ n, first qs = some n → n.1 = 0) :
    r.Fits (rs ++ qs) := by
  obtain ⟨hopens, hother⟩ := h
  rw [Fits, first_append]
  refine ⟨fun hr => ?_, fun hr n hn => ?_⟩
  · obtain ⟨n, hn, hlevel⟩ := hopens hr
    exact ⟨n, by simp [hn], hlevel⟩
  · cases hfirst : first rs with
    | none =>
      rw [hfirst, Option.none_or] at hn
      rw [hqs n hn]
      exact Nat.zero_le _
    | some m =>
      rw [hfirst, Option.some_or] at hn
      exact hother hr n (hfirst.trans hn)

theorem Nested.append (hrs : Nested rs) (hqs : Laid qs) : Nested (rs ++ qs) := by
  induction rs with
  | nil => exact hqs.nested
  | cons r rs ih =>
    obtain ⟨hr, hrest⟩ := nested_cons.mp hrs
    exact nested_cons.mpr ⟨fun hstatement => (hr hstatement).append hqs.outer, ih hrest⟩

namespace Laid

theorem nil : Laid [] where
  nested := by
    rintro before r after heq
    simp at heq
  outer := by simp [first]

theorem append (hrs : Laid rs) (hqs : Laid qs) : Laid (rs ++ qs) where
  nested := hrs.nested.append hqs
  outer n hn := by
    rw [first_append] at hn
    rcases Option.or_eq_some_iff.mp hn with h | ⟨-, h⟩
    · exact hrs.outer n h
    · exact hqs.outer n h

theorem skip (hr : ¬ r.IsStatement) (hrs : Laid rs) : Laid (r :: rs) where
  nested := nested_cons.mpr ⟨fun h => absurd h hr, hrs.nested⟩
  outer n hn := by
    rw [first, List.find?_cons_of_neg (by simpa using hr)] at hn
    exact hrs.outer n hn

theorem single {t : String} (ht : ¬ Row.Opens (0, t)) : Laid [(0, t)] where
  nested := by
    refine nested_cons.mpr ⟨fun _ => ⟨fun h => absurd h ht, fun _ n hn => ?_⟩, nil.nested⟩
    simp [first] at hn
  outer n hn := by
    obtain rfl := List.mem_singleton.mp (List.mem_of_find?_eq_some hn)
    rfl

end Laid

theorem first_inward : first (rs.map inward) = (first rs).map inward := by
  rw [first, List.find?_map]
  rfl

theorem Fits.inward {r : Row} (h : r.Fits rs) : r.inward.Fits (rs.map Row.inward) := by
  obtain ⟨hopens, hother⟩ := h
  rw [Fits, first_inward]
  refine ⟨fun hr => ?_, fun hr n hn => ?_⟩
  · obtain ⟨n, hn, hlevel⟩ := hopens hr
    exact ⟨n.inward, by simp [hn], by simp [Row.inward, hlevel]⟩
  · obtain ⟨m, hm, rfl⟩ := Option.map_eq_some_iff.mp hn
    exact Nat.succ_le_succ (hother hr m hm)

theorem Nested.inward (h : Nested rs) : Nested (rs.map Row.inward) := by
  induction rs with
  | nil => exact Laid.nil.nested
  | cons r rs ih =>
    obtain ⟨hr, hrest⟩ := nested_cons.mp h
    exact nested_cons.mpr ⟨fun hstatement => (hr hstatement).inward, ih hrest⟩

theorem Opens.isStatement (h : r.Opens) : r.IsStatement := by
  obtain ⟨hend, hword⟩ := h
  constructor
  · intro hempty
    simp [hempty, Line.EndsInColon] at hend
  · intro hhead
    obtain ⟨cs, hcs⟩ := List.head?_eq_some_iff.mp hhead
    have hnone : Line.word r.2.toList = [] := by
      have hhash : Word.isInside '#' = false := by decide
      simp [hcs, Line.word, hhash]
    rw [hnone] at hword
    revert hword
    decide

theorem Laid.block {t : String} (ht : Row.Opens (0, t)) (hrs : Laid rs)
    (hfull : ∃ r ∈ rs, r.IsStatement) : Laid ((0, t) :: rs.map Row.inward) where
  nested := by
    refine nested_cons.mpr ⟨fun _ => ⟨fun _ => ?_, fun h => absurd ht h⟩, hrs.nested.inward⟩
    obtain ⟨r, hr, hstatement⟩ := hfull
    obtain ⟨n, hn⟩ : ∃ n, first rs = some n :=
      Option.isSome_iff_exists.mp (List.find?_isSome.mpr ⟨r, hr, by simpa using hstatement⟩)
    refine ⟨n.inward, by rw [first_inward, hn]; rfl, ?_⟩
    simp [Row.inward, hrs.outer n hn]
  outer n hn := by
    rw [first, List.find?_cons_of_pos (by simpa using ht.isStatement)] at hn
    obtain rfl := Option.some.inj hn
    rfl

end Laying

section Leading

variable {words : List String} {d : Nat}

theorem leads_append {w s t : String} (hs : Line.Begins w s.toList) (hw : w ∈ words)
    (ht : t.toList ≠ [] ∧ Line.EndsInColon t.toList) : Leads words (d, s ++ t) := by
  constructor
  · rw [String.toList_append, Line.endsInColon_append ht.1]
    exact ht.2
  · rw [(hs.append (t := t)).1, String.ofList_toList]
    exact hw

theorem not_leads_of_begins {w t : String} (ht : Line.Begins w t.toList) (hw : w ∉ words) :
    ¬ Leads words (d, t) := by
  rintro ⟨-, hword⟩
  rw [ht.1, String.ofList_toList] at hword
  exact hw hword

theorem not_leads_of_end {t : String} (h : ¬ Line.EndsInColon t.toList) : ¬ Leads words (d, t) :=
  fun hleads => h hleads.1

theorem Leads.opens {r : Row} (h : r.Leads ["class", "def"]) : r.Opens := by
  have hwords : ∀ w ∈ ["class", "def"], w ∈ ["class", "def", "try", "except"] := by decide
  exact ⟨h.1, hwords _ h.2⟩

theorem Leads.not_guards {r : Row} (h : r.Leads ["class", "def"]) : ¬ r.Guards := by
  rintro ⟨-, hguards⟩
  have hapart : ∀ w ∈ ["class", "def"], w ∉ ["try", "except"] := by decide
  exact hapart _ h.2 hguards

theorem Guards.opens {r : Row} (h : r.Guards) : r.Opens := by
  have hwords : ∀ w ∈ ["try", "except"], w ∈ ["class", "def", "try", "except"] := by decide
  exact ⟨h.1, hwords _ h.2⟩

theorem Guards.isStatement {r : Row} (h : r.Guards) : r.IsStatement :=
  h.opens.isStatement

theorem not_leads_append {s t : String} (ht : t.toList ≠ [] ∧ ¬ Line.EndsInColon t.toList) :
    ¬ Leads words (d, s ++ t) := by
  apply not_leads_of_end
  rw [String.toList_append, Line.endsInColon_append ht.1]
  exact ht.2

theorem isStatement_of_cons {t : String} {c : Char} {cs : List Char} (ht : t.toList = c :: cs)
    (hc : c ≠ '#') : IsStatement (d, t) := by
  constructor
  · rintro rfl
    cases ht
  · simpa [ht] using hc

theorem isStatement_append {s t : String} (hs : IsStatement (d, s)) : IsStatement (d, s ++ t) := by
  obtain ⟨hne, hhead⟩ := hs
  obtain ⟨c, cs, hcs⟩ := List.exists_cons_of_ne_nil (mt String.toList_eq_nil_iff.mp hne)
  have hc : c ≠ '#' := by simpa [hcs] using hhead
  have hst : (s ++ t).toList = c :: (cs ++ t.toList) := by simp [hcs]
  exact isStatement_of_cons hst hc

end Leading
end Row

section Layout

variable {o : Options} {P : Prop}

/-- The lines hold the scenarios one after the other. Each is tried: it sets its fields and makes its
call in a block, which is followed by the line that handles its errors, on the same level. No other
line tries or handles anything. -/
inductive Tries (o : Options) : List Scenario → List Row → Prop where
  | nil : Tries o [] []
  | other {xs : List Scenario} {r : Row} {rs : List Row} :
      ¬ r.Guards → Tries o xs rs → Tries o xs (r :: rs)
  | scenario {xs : List Scenario} {rs : List Row} {x : Scenario} (level : Nat) :
      (∀ r ∈ x.inside o x.invocation.rendered, ¬ r.Guards) → Tries o xs rs →
      Tries o (x :: xs) ((level, "try:") ::
        (x.inside o x.invocation.rendered).map (fun r => (r.1 + (level + 1), r.2)) ++
        (level, "except Exception as err:") :: rs)

namespace Tries

variable {xs ys : List Scenario} {rs qs : List Row}

theorem append (hrs : Tries o xs rs) (hqs : Tries o ys qs) : Tries o (xs ++ ys) (rs ++ qs) := by
  induction hrs with
  | nil => exact hqs
  | other hr _ ih => exact .other hr ih
  | scenario level hinside _ ih =>
    rw [List.append_assoc]
    exact .scenario level hinside ih

theorem inward (h : Tries o xs rs) : Tries o xs (rs.map Row.inward) := by
  induction h with
  | nil => exact .nil
  | other hr _ ih => exact .other hr ih
  | @scenario xs rs x level hinside _ ih =>
    have hdeeper : ((x.inside o x.invocation.rendered).map
        fun r : Row => (r.1 + (level + 1), r.2)).map Row.inward =
        (x.inside o x.invocation.rendered).map fun r => (r.1 + (level + 1 + 1), r.2) := by
      rw [List.map_map]
      rfl
    rw [List.map_append, List.map_cons, hdeeper]
    exact .scenario (level + 1) hinside ih

theorem not_guards (h : Tries o [] rs) : ∀ r ∈ rs, ¬ r.Guards := by
  generalize hxs : ([] : List Scenario) = xs at h
  induction h with
  | nil => exact fun _ hr => nomatch hr
  | other hr _ ih => exact List.forall_mem_cons.mpr ⟨hr, ih hxs⟩
  | scenario => cases hxs

end Tries

/-- The lines are nested and try the scenarios, and under the condition each of them is one line. -/
structure Layout (o : Options) (P : Prop) (xs : List Scenario) (rs : List Row) : Prop where
  laid : Row.Laid rs
  tries : Tries o xs rs
  single : P → ∀ r ∈ rs, Line.Single r.2.toList

namespace Layout

variable {xs ys : List Scenario} {rs qs : List Row}

theorem nil : Layout o P [] [] :=
  ⟨.nil, .nil, fun _ _ hr => nomatch hr⟩

theorem append (hrs : Layout o P xs rs) (hqs : Layout o P ys qs) :
    Layout o P (xs ++ ys) (rs ++ qs) :=
  ⟨hrs.laid.append hqs.laid, hrs.tries.append hqs.tries, fun h =>
    List.forall_mem_append.mpr ⟨hrs.single h, hqs.single h⟩⟩

theorem flatMap {α : Type} {zs : List α} {f : α → List Row} {g : α → List Scenario}
    (h : ∀ z ∈ zs, Layout o P (g z) (f z)) : Layout o P (zs.flatMap g) (zs.flatMap f) := by
  induction zs with
  | nil => exact nil
  | cons z zs ih =>
    exact (h z List.mem_cons_self).append (ih fun y hy => h y (List.mem_cons_of_mem z hy))

theorem parts {α : Type} {zs : List α} {f : α → List Row} (h : ∀ z ∈ zs, Layout o P [] (f z)) :
    Layout o P [] (zs.flatMap f) := by
  have hnone : zs.flatMap (fun _ => ([] : List Scenario)) = [] := by simp
  rw [← hnone]
  exact flatMap h

theorem skip {t : String} (ht : ¬ Row.IsStatement (0, t)) (hsingle : P → Line.Single t.toList) :
    Layout o P [] [(0, t)] :=
  ⟨.skip ht .nil, .other (fun h => ht h.isStatement) .nil, fun h =>
    List.forall_mem_singleton.mpr (hsingle h)⟩

theorem comment {s t : String} (hs : s.toList.head? = some '#') (hsingle : Line.Single s.toList)
    (ht : Line.Single t.toList) : Layout o P [] [(0, s ++ t)] := by
  refine skip (fun hstatement => hstatement.2 ?_) fun _ => ?_
  · rw [String.toList_append, List.head?_append, hs, Option.some_or]
  · rw [String.toList_append]
    exact Line.single_append.mpr ⟨hsingle, ht⟩

theorem blank (h : Layout o P xs rs) : Layout o P xs ((0, "") :: rs) := by
  have hblank : Layout o P [] [(0, "")] := skip (by decide) fun _ => by decide
  exact hblank.append h

theorem line {t : String} (ht : ¬ Row.Opens (0, t)) (hsingle : P → Line.Single t.toList) :
    Layout o P [] [(0, t)] :=
  ⟨.single ht, .other (fun h => ht h.opens) .nil, fun h =>
    List.forall_mem_singleton.mpr (hsingle h)⟩

theorem lines {ts : List String} (h : ∀ t ∈ ts, ¬ Row.Opens (0, t))
    (hsingle : P → ∀ t ∈ ts, Line.Single t.toList) : Layout o P [] (ts.map (0, ·)) := by
  rw [List.map_eq_flatMap]
  exact parts fun t ht => line (h t ht) fun hP => hsingle hP t ht

theorem block {t : String} (ht : Row.Leads ["class", "def"] (0, t))
    (hsingle : P → Line.Single t.toList) (hrs : Layout o P xs rs) (hfull : ∃ r ∈ rs, r.IsStatement) :
    Layout o P xs ((0, t) :: rs.map Row.inward) where
  laid := .block ht.opens hrs.laid hfull
  tries := .other ht.not_guards hrs.tries.inward
  single h := by
    refine List.forall_mem_cons.mpr ⟨hsingle h, fun r hr => ?_⟩
    obtain ⟨q, hq, rfl⟩ := List.mem_map.mp hr
    exact hrs.single h q hq

end Layout

end Layout
end BranchCover
