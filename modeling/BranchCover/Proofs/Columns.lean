import BranchCover.Outline.Excerpt
import BranchCover.Proofs.Words

/-! What an excerpt of a source holds. Its columns are read as counts of characters and its lines as ending at
line feeds only, while places are recorded in bytes and with every kind of line end. -/
namespace BranchCover
namespace Excerpt

open Blank (collapse words solid)

theorem lines_newline (cs : List Char) : lines ('\n' :: cs) = [] :: lines cs := rfl

theorem lines_cons {c : Char} (h : c ≠ '\n') {cs l : List Char} {ls : List (List Char)}
    (hcs : lines cs = l :: ls) : lines (c :: cs) = (c :: l) :: ls := by
  rw [lines, if_neg (by simpa using h), hcs]

theorem lines_of_not_mem {l : List Char} (h : '\n' ∉ l) : lines l = [l] := by
  induction l with
  | nil => rfl
  | cons c l ih =>
    rw [List.mem_cons, not_or] at h
    exact lines_cons (Ne.symm h.1) (ih h.2)

theorem lines_append {l : List Char} (h : '\n' ∉ l) {cs m : List Char} {ls : List (List Char)}
    (hcs : lines cs = m :: ls) : lines (l ++ cs) = (l ++ m) :: ls := by
  induction l with
  | nil => exact hcs
  | cons c l ih =>
    rw [List.mem_cons, not_or] at h
    exact lines_cons (Ne.symm h.1) (ih h.2)

theorem lines_append_newline {l : List Char} (h : '\n' ∉ l) (cs : List Char) :
    lines (l ++ '\n' :: cs) = l :: lines cs := by
  rw [lines_append h (lines_newline cs), List.append_nil]

theorem byLines {P : List Char → Prop} (line : ∀ l, '\n' ∉ l → P l)
    (newline : ∀ l rest, '\n' ∉ l → P rest → P (l ++ '\n' :: rest)) (cs : List Char) : P cs := by
  by_cases h : '\n' ∈ cs
  · obtain ⟨l, rest, hcs, hl⟩ := List.eq_append_cons_of_mem h
    have hshorter : rest.length < cs.length := by
      rw [hcs, List.length_append, List.length_cons]
      omega
    exact hcs ▸ newline l rest hl (byLines line newline rest)
  · exact line cs h
termination_by cs.length

theorem words_lines (cs : List Char) : (lines cs).flatMap words = words cs := by
  induction cs using byLines with
  | line l hl => simp [lines_of_not_mem hl]
  | newline l rest hl ih =>
    rw [lines_append_newline hl, List.flatMap_cons, ih, Blank.words_append_blank l (by decide)]

/-- What stands behind the last line feed. -/
def lastLine (cs : List Char) : List Char :=
  (lines cs).getLastD []

theorem lastLine_of_not_mem {l : List Char} (h : '\n' ∉ l) : lastLine l = l := by
  rw [lastLine, lines_of_not_mem h]
  rfl

theorem lastLine_append_newline {l : List Char} (h : '\n' ∉ l) (rest : List Char) :
    lastLine (l ++ '\n' :: rest) = lastLine rest := by
  obtain ⟨m, ms, hrest⟩ := List.exists_cons_of_ne_nil (lines_ne_nil rest)
  rw [lastLine, lastLine, lines_append_newline h, hrest]
  rfl

theorem not_mem_lastLine (cs : List Char) : '\n' ∉ lastLine cs := by
  induction cs using byLines with
  | line l hl => rwa [lastLine_of_not_mem hl]
  | newline l rest hl ih => rwa [lastLine_append_newline hl]

/-- The lines that a line feed has ended stay; the last one goes on with what follows. -/
theorem exists_rows (cs : List Char) :
    ∃ rows : List (List Char), rows.length = cs.count '\n' ∧
      ∀ more, lines (cs ++ more) = rows ++ lines (lastLine cs ++ more) := by
  induction cs using byLines with
  | line l hl => exact ⟨[], by simp [List.count_eq_zero.mpr hl], by simp [lastLine_of_not_mem hl]⟩
  | newline l rest hl ih =>
    obtain ⟨rows, hrows, hlines⟩ := ih
    refine ⟨l :: rows, by simp [hrows, List.count_eq_zero.mpr hl], fun more => ?_⟩
    rw [lastLine_append_newline hl, List.append_assoc, List.cons_append, lines_append_newline hl, hlines]
    rfl

/-- The rest of the first line. -/
def firstLine (cs : List Char) : List Char :=
  cs.takeWhile (· != '\n')

theorem firstLine_of_not_mem {l : List Char} (h : '\n' ∉ l) : firstLine l = l := by
  rw [firstLine, List.takeWhile_eq_self_iff]
  intro c hc
  simpa using fun hn : c = '\n' => h (hn ▸ hc)

theorem firstLine_append_newline {l : List Char} (h : '\n' ∉ l) (rest : List Char) :
    firstLine (l ++ '\n' :: rest) = l := by
  rw [firstLine, List.takeWhile_append_of_pos]
  · simp
  · intro c hc
    simpa using fun hn : c = '\n' => h (hn ▸ hc)

theorem not_mem_firstLine (cs : List Char) : '\n' ∉ firstLine cs := by
  intro h
  have hne := List.all_eq_true.mp List.all_takeWhile _ h
  simp at hne

theorem exists_lines_firstLine (cs : List Char) : ∃ ls, lines cs = firstLine cs :: ls := by
  induction cs using byLines with
  | line l hl => exact ⟨[], by rw [lines_of_not_mem hl, firstLine_of_not_mem hl]⟩
  | newline l rest hl ih => exact ⟨lines rest, by rw [lines_append_newline hl, firstLine_append_newline hl]⟩

/-- The text without some characters of its first line. -/
def dropInLine (n : Nat) (cs : List Char) : List Char :=
  cs.drop (min n (firstLine cs).length)

theorem dropInLine_of_not_mem {l : List Char} (h : '\n' ∉ l) (n : Nat) : dropInLine n l = l.drop n := by
  rw [dropInLine, firstLine_of_not_mem h]
  rcases Nat.le_total n l.length with hn | hn
  · rw [Nat.min_eq_left hn]
  · rw [Nat.min_eq_right hn, List.drop_length, List.drop_eq_nil_of_le hn]

theorem dropInLine_append_newline {l : List Char} (h : '\n' ∉ l) (n : Nat) (rest : List Char) :
    dropInLine n (l ++ '\n' :: rest) = l.drop n ++ '\n' :: rest := by
  rw [dropInLine, firstLine_append_newline h, List.drop_append_of_le_length (Nat.min_le_right ..)]
  congr 1
  have hline := dropInLine_of_not_mem h n
  rwa [dropInLine, firstLine_of_not_mem h] at hline

/-- The place of a text behind another, as an excerpt reads places: lines end at line feeds, and columns count
characters. Both ends may be moved on in their lines. -/
def counted (before text : List Char) (lead trail : Nat) : Span :=
  ⟨before.count '\n' + 1, (lastLine before).length + lead, (before ++ text).count '\n' + 1,
    (lastLine (before ++ text)).length + trail⟩

/-- Joined pieces hold the words of the text that they are the lines of. -/
theorem collapse_pieces {ls : List (List Char)} {cs : List Char} (h : ls.flatMap words = words cs) :
    collapse (Blank.unwords (ls.map Blank.trim)) = collapse cs := by
  apply Blank.collapse_eq_of_words
  rw [Blank.words_unwords, List.flatMap_map, ← h]
  simp only [Blank.words_trim]

theorem within_line (rows : List (List Char)) (l : List Char) (more : List (List Char)) (col endCol : Nat) :
    within (rows ++ l :: more) ⟨rows.length + 1, col, rows.length + 1, endCol⟩ =
      collapse ((l.take endCol).drop col) := by
  simp [within]

theorem within_lines (rows : List (List Char)) (l : List Char) (between : List (List Char)) (m : List Char)
    (more : List (List Char)) (col endCol : Nat) :
    within (rows ++ l :: (between ++ m :: more))
        ⟨rows.length + 1, col, rows.length + 1 + between.length + 1, endCol⟩ =
      collapse (Blank.unwords ((l.drop col :: (between ++ [m.take endCol])).map Blank.trim)) := by
  have hlines : rows ++ l :: (between ++ m :: more) = (rows ++ l :: between) ++ m :: more := by simp
  have hstop : rows.length + 1 + between.length = (rows ++ l :: between).length := by
    rw [List.length_append, List.length_cons]
    omega
  have hbetween : ((rows ++ l :: (between ++ m :: more)).take (rows.length + 1 + between.length)).drop
      (rows.length + 1) = between := by
    rw [hlines, hstop, List.take_left]
    have hrows : rows ++ l :: between = (rows ++ [l]) ++ between := by simp
    rw [hrows, List.drop_left' (by simp)]
  have hlast : (rows ++ l :: (between ++ m :: more))[rows.length + 1 + between.length]? = some m := by
    rw [hlines, hstop, List.getElem?_append_right (Nat.le_refl _)]
    simp
  have hpieces : pieces (rows ++ l :: (between ++ m :: more))
      ⟨rows.length + 1, col, rows.length + 1 + between.length + 1, endCol⟩ =
        l.drop col :: (between ++ [m.take endCol]) := by
    simp [pieces, hbetween, hlast]
  have hends : rows.length + 1 + between.length ≠ rows.length := by omega
  rw [within, hpieces]
  simp [hends]

theorem lastLine_append (before text : List Char) :
    lastLine (before ++ text) = lastLine (lastLine before ++ text) := by
  obtain ⟨rows, -, hlines⟩ := exists_rows before
  obtain ⟨m, ms, hm⟩ := List.exists_cons_of_ne_nil (lines_ne_nil (lastLine before ++ text))
  rw [lastLine, lastLine, hlines, hm, List.getLastD_eq_getLast?, List.getLastD_eq_getLast?,
    List.getLast?_append, List.getLast?_cons]
  rfl

variable (before after : List Char) (lead trail : Nat)

theorem within_counted_of_not_mem {text : List Char} (h : '\n' ∉ text) :
    within (lines (before ++ text ++ after)) (counted before text lead trail) =
      collapse (dropInLine lead (text ++ (firstLine after).take trail)) := by
  obtain ⟨rows, hrows, hbefore⟩ := exists_rows before
  obtain ⟨rest, hafter⟩ := exists_lines_firstLine after
  have hlast : '\n' ∉ lastLine before ++ text := by simp [not_mem_lastLine, h]
  have hlines : lines (before ++ text ++ after) = rows ++ (lastLine before ++ text ++ firstLine after) :: rest := by
    rw [List.append_assoc, hbefore, ← List.append_assoc, lines_append hlast hafter]
  have hspan : counted before text lead trail = ⟨rows.length + 1, (lastLine before).length + lead,
      rows.length + 1, (lastLine before ++ text).length + trail⟩ := by
    rw [counted, lastLine_append, lastLine_of_not_mem hlast, List.count_append, List.count_eq_zero.mpr h,
      Nat.add_zero, hrows]
  have hnewline : '\n' ∉ text ++ (firstLine after).take trail := by
    rw [List.mem_append, not_or]
    exact ⟨h, fun hmem => not_mem_firstLine after (List.mem_of_mem_take hmem)⟩
  have hslice : (lastLine before ++ text ++ firstLine after).take ((lastLine before ++ text).length + trail) =
      lastLine before ++ (text ++ (firstLine after).take trail) := by
    rw [List.take_length_add_append, List.append_assoc]
  rw [hlines, hspan, dropInLine_of_not_mem hnewline, within_line, hslice, List.drop_length_add_append]

theorem within_counted_of_newline {r : List Char} (h : '\n' ∉ r) (text : List Char) :
    within (lines (before ++ (r ++ '\n' :: text) ++ after)) (counted before (r ++ '\n' :: text) lead trail) =
      collapse (dropInLine lead (r ++ '\n' :: text ++ (firstLine after).take trail)) := by
  obtain ⟨rows, hrows, hbefore⟩ := exists_rows before
  obtain ⟨between, hbetween, htext⟩ := exists_rows text
  obtain ⟨rest, hafter⟩ := exists_lines_firstLine after
  have hfirst : '\n' ∉ lastLine before ++ r := by simp [not_mem_lastLine, h]
  have hlines : lines (before ++ (r ++ '\n' :: text) ++ after) =
      rows ++ (lastLine before ++ r) :: (between ++ (lastLine text ++ firstLine after) :: rest) := by
    have hmore : lastLine before ++ (r ++ '\n' :: text) ++ after =
        (lastLine before ++ r) ++ '\n' :: (text ++ after) := by simp
    rw [List.append_assoc, hbefore, ← List.append_assoc, hmore, lines_append_newline hfirst, htext,
      lines_append (not_mem_lastLine text) hafter]
  have hspan : counted before (r ++ '\n' :: text) lead trail = ⟨rows.length + 1,
      (lastLine before).length + lead, rows.length + 1 + between.length + 1,
      (lastLine text).length + trail⟩ := by
    have hlast : lastLine (before ++ (r ++ '\n' :: text)) = lastLine text := by
      rw [lastLine_append, ← List.append_assoc, lastLine_append_newline hfirst]
    have hcount : (before ++ (r ++ '\n' :: text)).count '\n' = rows.length + 1 + between.length := by
      rw [List.count_append, List.count_append, List.count_cons_self, List.count_eq_zero.mpr h, hrows,
        hbetween]
      omega
    rw [counted, hlast, hcount, hrows]
  have hend : (lastLine text ++ firstLine after).take ((lastLine text).length + trail) =
      lastLine text ++ (firstLine after).take trail := List.take_length_add_append ..
  have hwords : (r.drop lead :: (between ++ [lastLine text ++ (firstLine after).take trail])).flatMap words =
      words (dropInLine lead (r ++ '\n' :: text ++ (firstLine after).take trail)) := by
    have htail : '\n' ∉ lastLine text ++ (firstLine after).take trail := by
      rw [List.mem_append, not_or]
      exact ⟨not_mem_lastLine text, fun hmem => not_mem_firstLine after (List.mem_of_mem_take hmem)⟩
    have hrest := words_lines (text ++ (firstLine after).take trail)
    rw [htext, lines_of_not_mem htail] at hrest
    rw [List.append_assoc, List.cons_append, dropInLine_append_newline h,
      Blank.words_append_blank _ (by decide), List.flatMap_cons, hrest]
  rw [hlines, hspan, within_lines, List.drop_length_add_append, hend, collapse_pieces hwords]

/-- An excerpt at a counted place, with its ends moved on in their lines: it lacks the characters that its start
has passed, and has those of the rest of its last line that its end has passed. -/
theorem within_counted (text : List Char) :
    within (lines (before ++ text ++ after)) (counted before text lead trail) =
      collapse (dropInLine lead (text ++ (firstLine after).take trail)) := by
  by_cases h : '\n' ∈ text
  · obtain ⟨r, text, rfl, hr⟩ := List.eq_append_cons_of_mem h
    exact within_counted_of_newline before after lead trail hr text
  · exact within_counted_of_not_mem before after lead trail h

theorem collapse_append_iff (cs more : List Char) :
    collapse (cs ++ more) = collapse cs ↔ ∀ c ∈ more, Blank.test c := by
  constructor
  · intro h
    have hsolid := congrArg solid h
    rw [Blank.solid_collapse, Blank.solid_collapse, Blank.solid_append, List.append_right_eq_self] at hsolid
    exact Blank.solid_eq_nil_iff.mp hsolid
  · exact fun h => Blank.collapse_eq_of_words (Blank.words_append_of_blank_right cs h)

theorem take_append_dropInLine (n : Nat) (cs : List Char) :
    (firstLine cs).take n ++ dropInLine n cs = cs := by
  have htake : (firstLine cs).take n = cs.take (min n (firstLine cs).length) := by
    have hstart : firstLine cs = cs.take (firstLine cs).length :=
      List.prefix_iff_eq_take.mp (List.takeWhile_prefix _)
    conv_lhs => rw [hstart, List.take_take]
  rw [htake, dropInLine, List.take_append_drop]

theorem collapse_dropInLine_iff (n : Nat) (cs : List Char) :
    collapse (dropInLine n cs) = collapse cs ↔ ∀ c ∈ (firstLine cs).take n, Blank.test c := by
  have hcs := take_append_dropInLine n cs
  constructor
  · intro h
    have hsolid := congrArg solid h
    rw [Blank.solid_collapse, Blank.solid_collapse] at hsolid
    have hparts := congrArg solid hcs
    rw [Blank.solid_append, hsolid, List.append_left_eq_self] at hparts
    exact Blank.solid_eq_nil_iff.mp hparts
  · intro h
    apply Blank.collapse_eq_of_words
    conv_rhs => rw [← hcs, Blank.words_append_of_blank_left h]

end Excerpt
end BranchCover
