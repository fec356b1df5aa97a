import BranchCover.Proofs.Columns

/-! Places as they are recorded: lines end at every kind of line end, and columns count bytes. An exact reading of
the place of a text gives the text; an excerpt gives it where both kinds of columns are the same. -/
namespace BranchCover
namespace Excerpt

open Blank (collapse)

/-- Whether a character ends a line, alone or with the one behind it. -/
def isEnd (c : Char) : Bool :=
  c == '\n' || c == '\r'

/-- The number of line ends: line feeds, carriage returns, and both together as one. -/
def lineEnds : List Char → Nat
  | [] => 0
  | '\r' :: '\n' :: cs => lineEnds cs + 1
  | c :: cs => (if isEnd c then 1 else 0) + lineEnds cs

/-- What stands behind the last line end. -/
def openLine (cs : List Char) : List Char :=
  (cs.reverse.takeWhile (!isEnd ·)).reverse

def bytes : List Char → Nat
  | [] => 0
  | c :: cs => c.utf8Size + bytes cs

/-- The place of a text behind another, as places are recorded: lines end at every kind of line end, and columns
count bytes. -/
def placed (before text : List Char) : Span :=
  ⟨lineEnds before + 1, bytes (openLine before), lineEnds (before ++ text) + 1,
    bytes (openLine (before ++ text))⟩

/-- No line end of two characters begins in the first text and ends in the second. -/
def Unsplit (cs more : List Char) : Prop :=
  ¬ (cs.getLast? = some '\r' ∧ more.head? = some '\n')

theorem byEnds {P : List Char → Prop} (line : ∀ l : List Char, l.all (!isEnd ·) → P l)
    (single : ∀ (l : List Char) (e : Char) (rest : List Char), l.all (!isEnd ·) → isEnd e →
      Unsplit [e] rest → P rest → P (l ++ e :: rest))
    (pair : ∀ (l rest : List Char), l.all (!isEnd ·) → P rest → P (l ++ '\r' :: '\n' :: rest))
    (cs : List Char) : P cs := by
  have hcs := List.takeWhile_append_dropWhile (p := (!isEnd ·)) (l := cs)
  have hl : (cs.takeWhile (!isEnd ·)).all (!isEnd ·) := List.all_takeWhile
  generalize cs.takeWhile (!isEnd ·) = l at hcs hl
  cases hdrop : cs.dropWhile (!isEnd ·) with
  | nil =>
    rw [hdrop, List.append_nil] at hcs
    exact hcs ▸ line l hl
  | cons e rest =>
    have he : isEnd e := by
      have hhead := List.head_dropWhile_not (!isEnd ·) (l := cs) (by simp [hdrop])
      simpa [hdrop] using hhead
    rw [hdrop] at hcs
    have hlength : l.length + (rest.length + 1) = cs.length := by
      rw [← hcs, List.length_append, List.length_cons]
    by_cases hunsplit : Unsplit [e] rest
    · have hshorter : rest.length < cs.length := by omega
      exact hcs ▸ single l e rest hl he hunsplit (byEnds line single pair rest)
    · obtain ⟨hreturn, hfeed⟩ := not_not.mp hunsplit
      obtain rfl : e = '\r' := by simpa using hreturn
      obtain ⟨rest, rfl⟩ : ∃ rest', rest = '\n' :: rest' := by
        cases rest with
        | nil => cases hfeed
        | cons x rest => exact ⟨rest, by rw [Option.some.inj hfeed]⟩
      have hshorter : rest.length < cs.length := by
        rw [List.length_cons] at hlength
        omega
      exact hcs ▸ pair l rest hl (byEnds line single pair rest)
termination_by cs.length

theorem openLine_of_all {l : List Char} (h : l.all (!isEnd ·)) : openLine l = l := by
  have hall : ∀ c ∈ l.reverse, (!isEnd c) = true := fun c hc =>
    List.all_eq_true.mp h c (List.mem_reverse.mp hc)
  rw [openLine, List.takeWhile_eq_self_iff.mpr hall, List.reverse_reverse]

theorem openLine_append_end (l : List Char) {e : Char} (h : isEnd e) (rest : List Char) :
    openLine (l ++ e :: rest) = openLine rest := by
  have hstop : (e :: l.reverse).takeWhile (!isEnd ·) = [] := List.takeWhile_cons_of_neg (by simp [h])
  have hrev : (l ++ e :: rest).reverse = rest.reverse ++ e :: l.reverse := by simp
  rw [openLine, openLine, hrev, List.takeWhile_append, hstop]
  split
  · rename_i hlength
    rw [List.append_nil, (List.takeWhile_prefix _).eq_of_length hlength]
  · rfl

theorem all_openLine (cs : List Char) : (openLine cs).all (!isEnd ·) := by
  rw [openLine, List.all_reverse]
  exact List.all_takeWhile

theorem lineEnds_append {l : List Char} (h : l.all (!isEnd ·)) (rest : List Char) :
    lineEnds (l ++ rest) = lineEnds rest := by
  induction l with
  | nil => rfl
  | cons c l ih =>
    rw [List.all_cons, Bool.and_eq_true] at h
    have hc : isEnd c = false := by simpa using h.1
    rw [List.cons_append, lineEnds, hc, ih h.2]
    · simp
    · rintro cs rfl
      cases hc

theorem lineEnds_end {e : Char} (he : isEnd e) {rest : List Char} (h : Unsplit [e] rest) :
    lineEnds (e :: rest) = lineEnds rest + 1 := by
  rw [lineEnds, if_pos he, Nat.add_comm]
  rintro cs rfl rfl
  exact h ⟨rfl, rfl⟩

theorem fullLines_append {l : List Char} (h : l.all (!isEnd ·)) {cs m : List Char} {ls : List (List Char)}
    (hcs : fullLines cs = m :: ls) : fullLines (l ++ cs) = (l ++ m) :: ls := by
  induction l with
  | nil => exact hcs
  | cons c l ih =>
    rw [List.all_cons, Bool.and_eq_true] at h
    have hc : (c == '\n' || c == '\r') = false := by simpa [isEnd] using h.1
    rw [List.cons_append, fullLines, hc, ih h.2]
    · rfl
    · rintro cs rfl
      cases hc

theorem fullLines_end {e : Char} (he : isEnd e) {rest : List Char} (h : Unsplit [e] rest) :
    fullLines (e :: rest) = [e] :: fullLines rest := by
  rw [fullLines]
  · simp only [isEnd] at he
    rw [he, if_pos rfl]
  · rintro cs rfl rfl
    exact h ⟨rfl, rfl⟩

theorem Unsplit.append {e : Char} {rest more : List Char} (h : Unsplit [e] rest)
    (hmore : Unsplit (e :: rest) more) : Unsplit [e] (rest ++ more) := by
  cases rest with
  | nil => exact hmore
  | cons x rest => exact h

theorem Unsplit.tail {l rest more : List Char} (h : Unsplit (l ++ rest) more) : Unsplit rest more := by
  rintro ⟨hlast, hhead⟩
  exact h ⟨by rw [List.getLast?_append, hlast]; rfl, hhead⟩

/-- The lines that have ended stay, and make up the text before the open one. -/
theorem exists_fullRows (cs : List Char) :
    ∃ rows : List (List Char), rows.length = lineEnds cs ∧ rows.flatten ++ openLine cs = cs ∧
      ∀ more, Unsplit cs more → fullLines (cs ++ more) = rows ++ fullLines (openLine cs ++ more) := by
  induction cs using byEnds with
  | line l hl =>
    have hnone := lineEnds_append hl []
    rw [List.append_nil] at hnone
    exact ⟨[], hnone.symm, by rw [openLine_of_all hl]; rfl, fun more _ => by rw [openLine_of_all hl]; rfl⟩
  | single l e rest hl he hunsplit ih =>
    obtain ⟨rows, hrows, hflat, hlines⟩ := ih
    refine ⟨(l ++ [e]) :: rows, ?_, ?_, fun more hmore => ?_⟩
    · rw [lineEnds_append hl, lineEnds_end he hunsplit, List.length_cons, hrows]
    · rw [openLine_append_end l he, List.flatten_cons, List.append_assoc, hflat, List.append_assoc]
      rfl
    · have hrest : Unsplit (e :: rest) more := hmore.tail
      have hend := fullLines_end he (hunsplit.append hrest)
      have htail : Unsplit rest more := Unsplit.tail (l := [e]) hrest
      rw [openLine_append_end l he, List.append_assoc, List.cons_append, fullLines_append hl hend,
        hlines more htail]
      rfl
  | pair l rest hl ih =>
    obtain ⟨rows, hrows, hflat, hlines⟩ := ih
    have hopen : openLine (l ++ '\r' :: '\n' :: rest) = openLine rest := by
      rw [openLine_append_end l rfl, ← List.nil_append ('\n' :: rest), openLine_append_end [] rfl]
    refine ⟨(l ++ ['\r', '\n']) :: rows, ?_, ?_, fun more hmore => ?_⟩
    · rw [lineEnds_append hl, lineEnds, List.length_cons, hrows]
    · rw [hopen, List.flatten_cons, List.append_assoc, hflat, List.append_assoc]
      rfl
    · have htail : Unsplit rest more := Unsplit.tail (l := l ++ ['\r', '\n']) (by simpa using hmore)
      have hpair : fullLines ('\r' :: '\n' :: (rest ++ more)) = ['\r', '\n'] :: fullLines (rest ++ more) := by
        rw [fullLines]
      rw [hopen, List.append_assoc, List.cons_append, List.cons_append, fullLines_append hl hpair,
        hlines more htail]
      rfl

theorem bytes_append (a b : List Char) : bytes (a ++ b) = bytes a + bytes b := by
  induction a with
  | nil => rw [List.nil_append, bytes, Nat.zero_add]
  | cons c a ih => rw [List.cons_append, bytes, bytes, ih, Nat.add_assoc]

theorem takeBytes_append (l : List Char) (n : Nat) (cs : List Char) :
    takeBytes (bytes l + n) (l ++ cs) = l ++ takeBytes n cs := by
  induction l with
  | nil => simp [bytes]
  | cons c l ih =>
    have hpos := c.utf8Size_pos
    obtain ⟨m, hm⟩ : ∃ m, bytes (c :: l) + n = m + 1 := ⟨bytes (c :: l) + n - 1, by simp [bytes]; omega⟩
    have hrest : m + 1 - c.utf8Size = bytes l + n := by
      rw [bytes] at hm
      omega
    rw [hm, List.cons_append, takeBytes, hrest, ih, List.cons_append]

theorem dropBytes_append (l cs : List Char) : dropBytes (bytes l) (l ++ cs) = cs := by
  induction l with
  | nil => cases cs <;> rfl
  | cons c l ih =>
    have hpos := c.utf8Size_pos
    obtain ⟨m, hm⟩ : ∃ m, bytes (c :: l) = m + 1 := ⟨bytes (c :: l) - 1, by simp [bytes]; omega⟩
    have hrest : m + 1 - c.utf8Size = bytes l := by
      rw [bytes] at hm
      omega
    rw [hm, List.cons_append, dropBytes, hrest, ih]

theorem takeBytes_self (l cs : List Char) : takeBytes (bytes l) (l ++ cs) = l := by
  have h := takeBytes_append l 0 cs
  rwa [Nat.add_zero, takeBytes, List.append_nil] at h

theorem flatten_fullLines (cs : List Char) : (fullLines cs).flatten = cs := by
  fun_induction fullLines cs with
  | case1 => rfl
  | case2 cs ih => rw [List.flatten_cons, ih]; rfl
  | case3 c cs hpair hc ih => rw [List.flatten_cons, ih]; rfl
  | case4 c cs hpair hc hcs ih =>
    rw [hcs] at ih
    rw [← ih]
    rfl
  | case5 c cs hpair hc l ls hcs ih =>
    rw [hcs] at ih
    rw [← ih]
    rfl

theorem head_fullLines {l : List Char} (h : l.all (!isEnd ·)) : (fullLines l)[0]?.getD [] = l := by
  induction l with
  | nil => rfl
  | cons c l ih =>
    rw [List.all_cons, Bool.and_eq_true] at h
    have hflat := flatten_fullLines l
    cases hl : fullLines l with
    | nil =>
      rw [hl] at hflat
      obtain rfl : l = [] := hflat.symm
      have hc : (c == '\n' || c == '\r') = false := by simpa [isEnd] using h.1
      rw [fullLines, hc]
      · rfl
      · rintro cs - hcs
        cases hcs
    | cons m ms =>
      have hm := ih h.2
      rw [hl] at hm
      obtain rfl : m = l := hm
      have hc : [c].all (!isEnd ·) := by simpa using h.1
      have happend := fullLines_append hc hl
      rw [List.singleton_append] at happend
      rw [happend]
      rfl

/-- A place of a source in its lines: the lines before it and what is before it in its own make up the text before
it. -/
theorem exists_at {cs more : List Char} (h : Unsplit cs more) :
    ∃ l, (fullLines (cs ++ more)).getD (lineEnds cs) [] = openLine cs ++ l ∧
      ((fullLines (cs ++ more)).take (lineEnds cs)).flatten ++ openLine cs = cs ∧
      lineEnds cs ≤ (fullLines (cs ++ more)).length := by
  obtain ⟨rows, hrows, hflat, hlines⟩ := exists_fullRows cs
  rw [hlines more h, ← hrows, List.take_left, List.getD_eq_getElem?_getD,
    List.getElem?_append_right (Nat.le_refl _), Nat.sub_self]
  suffices hline : ∃ l, (fullLines (openLine cs ++ more))[0]?.getD [] = openLine cs ++ l by
    obtain ⟨l, hl⟩ := hline
    exact ⟨l, hl, hflat, by simp⟩
  cases hmore : fullLines more with
  | nil =>
    have hempty := flatten_fullLines more
    rw [hmore] at hempty
    rw [← hempty]
    exact ⟨[], by rw [List.flatten_nil, List.append_nil, head_fullLines (all_openLine cs)]⟩
  | cons m ms => exact ⟨m, by rw [fullLines_append (all_openLine cs) hmore]; rfl⟩

theorem lineEnds_le_append {cs more : List Char} (h : Unsplit cs more) :
    lineEnds cs ≤ lineEnds (cs ++ more) := by
  induction cs using byEnds with
  | line l hl =>
    have hnone := lineEnds_append hl []
    rw [List.append_nil] at hnone
    rw [hnone]
    exact Nat.zero_le _
  | single l e rest hl he hunsplit ih =>
    have hrest : Unsplit (e :: rest) more := h.tail
    have htail : Unsplit rest more := Unsplit.tail (l := [e]) hrest
    rw [List.append_assoc, List.cons_append, lineEnds_append hl, lineEnds_append hl, lineEnds_end he hunsplit,
      lineEnds_end he (hunsplit.append hrest)]
    exact Nat.succ_le_succ (ih htail)
  | pair l rest hl ih =>
    have htail : Unsplit rest more := Unsplit.tail (l := l ++ ['\r', '\n']) (by simpa using h)
    rw [List.append_assoc, List.cons_append, List.cons_append, lineEnds_append hl, lineEnds_append hl, lineEnds,
      lineEnds]
    exact Nat.succ_le_succ (ih htail)

theorem Unsplit.of_append {cs text more : List Char} (h : Unsplit cs (text ++ more)) (hne : text ≠ []) :
    Unsplit cs text := by
  obtain ⟨x, text, rfl⟩ := List.exists_cons_of_ne_nil hne
  exact h

/-- The lines up to a later one: those up to an earlier one, that, and those between. -/
theorem take_eq_between {ls : List (List Char)} {m n : Nat} (h : m < n) (hn : n ≤ ls.length) :
    (ls.take n).flatten = (ls.take m).flatten ++ (ls.getD m [] ++ ((ls.take n).drop (m + 1)).flatten) := by
  have hm : m < (ls.take n).length := by
    rw [List.length_take]
    omega
  have hget : ls.getD m [] = (ls.take n)[m] := by
    rw [List.getElem_take, List.getD_eq_getElem?_getD, List.getElem?_eq_getElem (by omega)]
    rfl
  have hsplit : ls.take n = ls.take m ++ (ls.take n)[m] :: (ls.take n).drop (m + 1) := by
    rw [← List.drop_eq_getElem_cons hm]
    conv_lhs => rw [← List.take_append_drop m (ls.take n), List.take_take, Nat.min_eq_left (Nat.le_of_lt h)]
  conv_lhs => rw [hsplit, List.flatten_append, List.flatten_cons, ← hget]

/-- An exact reading of the recorded place of a text gives the text, blanks and line ends included. -/
theorem exact_placed {before text after : List Char} (hstart : Unsplit before (text ++ after))
    (hend : Unsplit (before ++ text) after) :
    exact (fullLines (before ++ text ++ after)) (placed before text) = text := by
  obtain ⟨l₀, hline₀, hflat₀, -⟩ := exists_at hstart
  obtain ⟨l₁, hline₁, hflat₁, hlength⟩ := exists_at hend
  rw [← List.append_assoc] at hline₀ hflat₀
  have hle : lineEnds before ≤ lineEnds (before ++ text) := by
    by_cases hne : text = []
    · simp [hne]
    · exact lineEnds_le_append (hstart.of_append hne)
  generalize fullLines (before ++ text ++ after) = ls at *
  by_cases hsame : lineEnds (before ++ text) = lineEnds before
  · -- both ends stand in one line
    rw [hsame] at hline₁ hflat₁
    have hopen : openLine (before ++ text) = openLine before ++ text := by
      have hcancel : (ls.take (lineEnds before)).flatten ++ openLine (before ++ text) =
          (ls.take (lineEnds before)).flatten ++ (openLine before ++ text) := by
        rw [hflat₁, ← List.append_assoc, hflat₀]
      exact List.append_cancel_left hcancel
    rw [hopen, List.append_assoc] at hline₁
    have hrest : l₀ = text ++ l₁ := List.append_cancel_left (hline₀.symm.trans hline₁)
    simp only [exact, placed, hsame, Nat.add_sub_cancel, beq_self_eq_true, if_true]
    rw [hline₀, hrest, dropBytes_append, hopen, bytes_append, Nat.add_sub_cancel_left, takeBytes_self]
  · have hlt : lineEnds before < lineEnds (before ++ text) := by omega
    have hbetween := take_eq_between hlt hlength
    simp only [exact, placed, Nat.add_sub_cancel]
    rw [if_neg (by simpa using hsame), hline₀, hline₁, dropBytes_append, takeBytes_self]
    have hall : before ++ text = before ++ (l₀ ++ ((ls.take (lineEnds (before ++ text))).drop
        (lineEnds before + 1)).flatten ++ openLine (before ++ text)) := by
      calc before ++ text
          = (ls.take (lineEnds (before ++ text))).flatten ++ openLine (before ++ text) := hflat₁.symm
        _ = (ls.take (lineEnds before)).flatten ++ openLine before ++ (l₀ ++ ((ls.take (lineEnds
              (before ++ text))).drop (lineEnds before + 1)).flatten ++ openLine (before ++ text)) := by
            rw [hbetween, hline₀]
            simp only [List.append_assoc]
        _ = _ := by rw [hflat₀]
    exact (List.append_cancel_left hall).symm

/-- How many more bytes than characters there are. -/
def excess (cs : List Char) : Nat :=
  bytes cs - cs.length

theorem bytes_eq (cs : List Char) : bytes cs = cs.length + excess cs := by
  have hle : cs.length ≤ bytes cs := by
    induction cs with
    | nil => exact Nat.le_refl _
    | cons c cs ih =>
      have hc := c.utf8Size_pos
      rw [bytes, List.length_cons]
      omega
  rw [excess]
  omega

/-- Every carriage return stands before a line feed. -/
def Paired (cs : List Char) : Prop :=
  ∀ a b, cs = a ++ '\r' :: b → b.head? = some '\n'

theorem Paired.tail {c : Char} {cs : List Char} (h : Paired (c :: cs)) : Paired cs :=
  fun a b hcs => h (c :: a) b (by rw [hcs, List.cons_append])

theorem lineEnds_of_paired {cs : List Char} (h : Paired cs) : lineEnds cs = cs.count '\n' := by
  fun_induction lineEnds cs with
  | case1 => rfl
  | case2 cs ih =>
    rw [ih h.tail.tail, List.count_cons_of_ne (by decide), List.count_cons_self]
  | case3 c cs hpair ih =>
    rw [ih h.tail, List.count_cons]
    by_cases hr : c = '\r'
    · subst hr
      obtain ⟨cs', rfl⟩ : ∃ cs', cs = '\n' :: cs' := by
        have hhead := h [] cs rfl
        cases cs with
        | nil => cases hhead
        | cons x cs' => exact ⟨cs', by rw [Option.some.inj hhead]⟩
      exact absurd rfl (hpair cs' rfl)
    · have hend : isEnd c = (c == '\n') := by simp [isEnd, hr]
      rw [hend, Nat.add_comm]

theorem exists_behind (cs : List Char) :
    ∃ a, cs = a ++ lastLine cs ∧ (a = [] ∨ ∃ a', a = a' ++ ['\n']) := by
  induction cs using byLines with
  | line l hl => exact ⟨[], by rw [lastLine_of_not_mem hl]; rfl, .inl rfl⟩
  | newline l rest hl ih =>
    obtain ⟨a, hrest, ha⟩ := ih
    refine ⟨l ++ '\n' :: a, ?_, .inr ?_⟩
    · rw [lastLine_append_newline hl, List.append_assoc, List.cons_append, ← hrest]
    · rcases ha with rfl | ⟨a', rfl⟩
      · exact ⟨l, rfl⟩
      · exact ⟨l ++ '\n' :: a', by simp⟩

theorem openLine_of_paired {cs : List Char} (h : Paired cs) : openLine cs = lastLine cs := by
  obtain ⟨a, hcs, ha⟩ := exists_behind cs
  have hreturn : '\r' ∉ lastLine cs := by
    intro hmem
    obtain ⟨x, y, hxy⟩ := List.append_of_mem hmem
    have hhead := h (a ++ x) y (by rw [List.append_assoc, ← hxy, ← hcs])
    have hline : '\n' ∈ lastLine cs := by
      rw [hxy, List.mem_append]
      exact .inr (List.mem_cons_of_mem _ (List.mem_of_mem_head? hhead))
    exact not_mem_lastLine cs hline
  have hall : ∀ c ∈ (lastLine cs).reverse, (!isEnd c) = true := by
    intro c hc
    have hc := List.mem_reverse.mp hc
    have hn : c ≠ '\n' := fun he => not_mem_lastLine cs (he ▸ hc)
    have hr : c ≠ '\r' := fun he => hreturn (he ▸ hc)
    simp [isEnd, hn, hr]
  have hstop : a.reverse.takeWhile (!isEnd ·) = [] := by
    rcases ha with rfl | ⟨a', rfl⟩
    · rfl
    · simp [isEnd]
  rw [openLine]
  conv_lhs => rw [hcs, List.reverse_append, List.takeWhile_append_of_pos hall, hstop, List.append_nil,
    List.reverse_reverse]

theorem placed_eq_counted {before text : List Char} (hbefore : Paired before)
    (htext : Paired (before ++ text)) :
    placed before text =
      counted before text (excess (openLine before)) (excess (openLine (before ++ text))) := by
  rw [placed, counted, lineEnds_of_paired hbefore, lineEnds_of_paired htext, bytes_eq, bytes_eq,
    openLine_of_paired hbefore, openLine_of_paired htext]

/-- An excerpt at a counted place is the text there with its blanks collapsed, for any text. At a place as
places are recorded, both ends are moved on by the bytes that are no characters of their own; so the excerpt
is the text if its line has no such bytes before it and blanks behind it, as far as its end is moved. -/
theorem within_placed_iff (before text after : List Char) :
    (∀ lead trail, within (lines (before ++ text ++ after)) (counted before text lead trail) =
      collapse (dropInLine lead (text ++ (firstLine after).take trail))) ∧
    within (lines (before ++ text ++ after)) (counted before text 0 0) = collapse text ∧
    (Paired before → Paired (before ++ text) →
      let passed := excess (openLine before)
      let beyond := (firstLine after).take (excess (openLine (before ++ text)))
      let excerpt := within (lines (before ++ text ++ after)) (placed before text)
      excerpt = collapse (dropInLine passed (text ++ beyond)) ∧
      (passed = 0 → (excerpt = collapse text ↔ ∀ c ∈ beyond, Blank.test c)) ∧
      ((∀ c ∈ beyond, Blank.test c) →
        (excerpt = collapse text ↔ ∀ c ∈ (firstLine (text ++ beyond)).take passed, Blank.test c))) := by
  refine ⟨fun lead trail => within_counted before after lead trail text, ?_, ?_⟩
  · rw [within_counted, List.take_zero, List.append_nil, dropInLine, Nat.zero_min, List.drop_zero]
  · intro hbefore htext passed beyond excerpt
    have hexcerpt : excerpt = collapse (dropInLine passed (text ++ beyond)) := by
      rw [← within_counted, ← placed_eq_counted hbefore htext]
    refine ⟨hexcerpt, fun hpassed => ?_, fun hblank => ?_⟩
    · rw [hexcerpt, hpassed, dropInLine, Nat.zero_min, List.drop_zero, collapse_append_iff]
    · rw [hexcerpt, ← (collapse_append_iff text beyond).mpr hblank, collapse_dropInLine_iff]

/-! A condition that is a name of five letters and seven bytes. -/
namespace Wide

def before : List Char := "if ".toList

def text : List Char := "größe".toList

theorem paired_of_not_mem {cs : List Char} (h : '\r' ∉ cs) : Paired cs := by
  rintro a b rfl
  exact absurd (List.mem_append_right a List.mem_cons_self) h

theorem paired_before : Paired before := paired_of_not_mem (by decide +kernel)

theorem paired_text : Paired (before ++ text) := paired_of_not_mem (by decide +kernel)

end Wide

/-- With two blanks behind it the condition is read as it stands. -/
theorem within_placed_iff_blanks :
    within (lines (Wide.before ++ Wide.text ++ "  :".toList))
      (placed Wide.before Wide.text) = collapse Wide.text :=
  (((within_placed_iff Wide.before Wide.text "  :".toList).2.2 Wide.paired_before
    Wide.paired_text).2.1 (by decide +kernel)).mpr (List.all_eq_true.mp (by decide +kernel))

/-- Without blanks behind it the excerpt takes in what follows. -/
theorem excerpt_beyond_text :
    ¬ ∀ before text after : List Char, Unsplit before (text ++ after) → Unsplit (before ++ text) after →
      within (lines (before ++ text ++ after)) (placed before text) = collapse text := by
  intro h
  have hexcerpt := h Wide.before Wide.text ":".toList
    (by unfold Unsplit; decide +kernel) (by unfold Unsplit; decide +kernel)
  revert hexcerpt
  decide +kernel

end Excerpt
end BranchCover
