import BranchCover.Proofs.Lines
import BranchCover.Source.Literal
import BranchCover.Source.Scan

/-! Strings between triple quotes at the front of a source. What stands between the quotes is read from
one character to the next until three quotes in a row are met, none of them behind a backslash. A source
whose first line is such a string has it as its first token exactly if these quotes are the last
characters of the line. -/
namespace BranchCover
namespace Source

/-- How far a string between triple quotes is read: the quotes in a row that were met last, or behind a
backslash, or to the end. -/
inductive Quoting where
  | inside (quotes : Nat)
  | escaped
  | closed
  deriving DecidableEq

namespace Quoting

def next : Quoting → Char → Quoting
  | inside n, c =>
    if c == '"' then (if n == 2 then closed else inside (n + 1))
    else if c == '\\' then escaped
    else inside 0
  | escaped, _ => inside 0
  | closed, _ => closed

def after (s : Quoting) (cs : List Char) : Quoting :=
  cs.foldl next s

@[simp] theorem after_nil (s : Quoting) : s.after [] = s := rfl

@[simp] theorem after_cons (s : Quoting) (c : Char) (cs : List Char) :
    s.after (c :: cs) = (s.next c).after cs := rfl

theorem after_append (s : Quoting) (cs ds : List Char) : s.after (cs ++ ds) = (s.after cs).after ds :=
  List.foldl_append

@[simp] theorem after_closed (cs : List Char) : closed.after cs = closed := by
  induction cs with
  | nil => rfl
  | cons c cs ih => exact ih

theorem after_of_plain {cs : List Char} (h : ∀ c ∈ cs, c ≠ '"' ∧ c ≠ '\\') :
    (inside 0).after cs = inside 0 := by
  induction cs with
  | nil => rfl
  | cons c cs ih =>
    obtain ⟨hquote, hslash⟩ := h c List.mem_cons_self
    have hnext : (inside 0).next c = inside 0 := by simp [next, hquote, hslash]
    rw [after_cons, hnext]
    exact ih fun d hd => h d (List.mem_cons_of_mem c hd)

end Quoting

namespace Cursor

@[simp] theorem rest_settle (b : Bool) (c : Cursor) : (c.settle b).rest = c.rest := by
  unfold settle
  split <;> rfl

@[simp] theorem pos_settle (b : Bool) (c : Cursor) : (c.settle b).pos = c.pos := by
  unfold settle
  split <;> rfl

theorem rest_advance {c : Cursor} {x : Char} {xs : List Char} (h : c.rest = x :: xs) :
    c.advance.rest = xs ∧ c.advance.pos = c.pos + 1 := by
  unfold advance
  simp [h]

/-- What lies between two places that are as far apart as a text at the first of them. -/
theorem text_of_rest {c d : Cursor} {w tail : List Char} (hrest : c.rest = w ++ tail)
    (hpos : d.pos = c.pos + w.length) : c.text d = String.ofList w := by
  rw [text, hpos, Nat.add_sub_cancel_left, hrest, List.take_left' rfl]

end Cursor

namespace Scanner

open Quoting

variable {c : Cursor} {n m fuel : Nat} {x : Char} {cs tail : List Char}

/-- Reading one character of a string, which ends no line unless there are three quotes around it. -/
theorem stringBody_step {size : Nat} (fuel : Nat) (hn : n < size) (hline : size = 1 → x ≠ '\n')
    (hc : c.rest = x :: tail) :
    stringBody '"' size (fuel + 1) n c =
      if x == '"' then stringBody '"' size fuel (n + 1) (c.settle true).advance
      else if x == '\\' then
        stringBody '"' size fuel 0 (((c.settle true).advance).settle true).advance
      else stringBody '"' size fuel 0 (c.settle true).advance := by
  have hsize : (n == size) = false := by simpa using Nat.ne_of_lt hn
  have hpeek : (c.settle true).peek = some x := by simp [Cursor.peek, hc]
  have hends : (x == '\n' && size == 1) = false := by
    rw [Bool.and_eq_false_imp, beq_iff_eq, beq_eq_false_iff_ne]
    exact fun hx hone => hline hone hx
  rw [stringBody]
  simp only [hsize, Bool.false_eq_true, if_false, hpeek, hends]

/-- What has been read of a string after some of its characters, starting after so many quotes in a row:
it goes on, it stands behind a backslash, or it was closed on the way. -/
def Reads (n fuel : Nat) (c : Cursor) (cs tail : List Char) : Prop :=
  match (inside n).after cs with
  | .inside m => ∃ fuel' c', m < 3 ∧ stringBody '"' 3 fuel n c = stringBody '"' 3 fuel' m c' ∧
      c'.rest = tail ∧ c'.pos = c.pos + cs.length ∧ fuel ≤ fuel' + cs.length
  | .escaped => True
  | .closed => ∃ c', stringBody '"' 3 fuel n c = .ok c' ∧ c'.pos ≤ c.pos + cs.length

theorem Reads.cons {n' fuel' : Nat} {c' : Cursor} {w : List Char} (h : Reads n' fuel' c' cs tail)
    (hafter : (inside n).after (w ++ cs) = (inside n').after cs)
    (hbody : stringBody '"' 3 (fuel' + 1) n c = stringBody '"' 3 fuel' n' c')
    (hpos : c'.pos = c.pos + w.length) (hw : w ≠ []) :
    Reads n (fuel' + 1) c (w ++ cs) tail := by
  have hlength : 0 < w.length := List.length_pos_iff.mpr hw
  unfold Reads at h ⊢
  rw [hafter, hbody, List.length_append]
  split
  · rename_i m hm
    rw [hm] at h
    obtain ⟨f, d, hm, hd, hrest, hd', hf⟩ := h
    exact ⟨f, d, hm, hd, hrest, by omega, by omega⟩
  · trivial
  · rename_i hclosed
    rw [hclosed] at h
    obtain ⟨d, hd, hd'⟩ := h
    exact ⟨d, hd, by omega⟩

/-- By the characters that are read, of which a backslash takes the next one along. -/
theorem reads (tail : List Char) : ∀ (cs : List Char) {n fuel : Nat} {c : Cursor}, n < 3 →
    c.rest = cs ++ tail → cs.length < fuel → Reads n fuel c cs tail
  | [], n, fuel, c, hn, hc, _ => ⟨fuel, c, hn, rfl, hc, rfl, Nat.le_refl _⟩
  | x :: xs, n, 0, c, _, _, hfuel => absurd hfuel (Nat.not_lt_zero _)
  | x :: xs, n, fuel + 1, c, hn, hc, hfuel => by
    have hstep := stringBody_step fuel hn (fun h => nomatch h) hc
    obtain ⟨hrest, hpos⟩ := Cursor.rest_advance (c := c.settle true) (by simpa using hc)
    rw [Cursor.pos_settle] at hpos
    have hlength : xs.length < fuel := Nat.lt_of_succ_lt_succ hfuel
    by_cases hquote : x = '"'
    · rw [if_pos (by simpa using hquote)] at hstep
      by_cases hlast : n = 2
      · subst hquote hlast
        have hclosed : (inside 2).after ('"' :: xs) = closed := by simp [next]
        unfold Reads
        rw [hclosed, hstep]
        obtain ⟨fuel, rfl⟩ : ∃ f, fuel = f + 1 := ⟨fuel - 1, by omega⟩
        exact ⟨_, by rw [stringBody]; rfl, by simp [hpos]⟩
      · have hnext : (inside n).next x = inside (n + 1) := by simp [next, hquote, hlast]
        have hn' : n + 1 < 3 := by omega
        exact (reads tail xs hn' hrest hlength).cons (w := [x]) (by simp [hnext]) hstep hpos (by simp)
    · rw [if_neg (by simpa using hquote)] at hstep
      by_cases hslash : x = '\\'
      · rw [if_pos (by simpa using hslash)] at hstep
        have hnext : (inside n).next x = escaped := by simp [next, hslash]
        cases xs with
        | nil =>
          unfold Reads
          simp [hnext]
        | cons y ys =>
          have hsettled : ((c.settle true).advance.settle true).rest = y :: (ys ++ tail) := by
            simpa using hrest
          obtain ⟨hrest', hpos'⟩ := Cursor.rest_advance hsettled
          rw [Cursor.pos_settle, hpos] at hpos'
          have hlength' : ys.length < fuel := Nat.lt_of_succ_lt hlength
          have hnext' : escaped.next y = inside 0 := rfl
          exact (reads tail ys (by decide) hrest' hlength').cons (w := [x, y])
            (by simp [hnext, hnext']) hstep (by simp [hpos']) (by simp)
      · rw [if_neg (by simpa using hslash)] at hstep
        have hnext : (inside n).next x = inside 0 := by simp [next, hquote, hslash]
        exact (reads tail xs (by decide) hrest hlength).cons (w := [x]) (by simp [hnext]) hstep hpos
          (by simp)

theorem stringBody_quotes (fuel : Nat) (hc : c.rest = '"' :: '"' :: '"' :: tail) (hfuel : 4 ≤ fuel) :
    ∃ c', stringBody '"' 3 fuel 0 c = .ok c' ∧ c'.rest = tail ∧ c'.pos = c.pos + 3 := by
  obtain ⟨fuel, rfl⟩ : ∃ f, fuel = f + 4 := ⟨fuel - 4, by omega⟩
  obtain ⟨hrest, hpos⟩ := Cursor.rest_advance (c := c.settle true) (by simpa using hc)
  obtain ⟨hrest', hpos'⟩ := Cursor.rest_advance (c := (c.settle true).advance.settle true)
    (by simpa using hrest)
  obtain ⟨hrest'', hpos''⟩ := Cursor.rest_advance
    (c := ((c.settle true).advance.settle true).advance.settle true) (by simpa using hrest')
  rw [Cursor.pos_settle] at hpos hpos' hpos''
  have hfirst : stringBody '"' 3 (fuel + 4) 0 c = stringBody '"' 3 (fuel + 3) 1 _ :=
    stringBody_step _ (by decide) (by decide) hc
  have hsecond : stringBody '"' 3 (fuel + 3) 1 _ = stringBody '"' 3 (fuel + 2) 2 _ :=
    stringBody_step _ (by decide) (by decide) hrest
  have hthird : stringBody '"' 3 (fuel + 2) 2 _ = stringBody '"' 3 (fuel + 1) 3 _ :=
    stringBody_step _ (by decide) (by decide) hrest'
  refine ⟨_, ?_, hrest'', by omega⟩
  rw [hfirst, hsecond, hthird, stringBody]
  rfl

/-- A text between triple quotes, read up to the first three quotes in a row. -/
theorem string_tripled (s : Scanner) {u : List Char}
    (hc : c.rest = '"' :: '"' :: '"' :: (u ++ '"' :: '"' :: '"' :: tail)) :
    ((inside 0).after u = inside 0 → ∃ c', s.string 0 c = s.emit .string c c' ∧ c'.rest = tail ∧
      c'.pos = c.pos + (u.length + 6)) ∧
    ((inside 0).after u = closed → ∃ c', s.string 0 c = s.emit .string c c' ∧
      c'.pos ≤ c.pos + (u.length + 3)) := by
  obtain ⟨hrest, hpos⟩ := Cursor.rest_advance hc
  obtain ⟨hrest', hpos'⟩ := Cursor.rest_advance hrest
  obtain ⟨hrest'', hpos''⟩ := Cursor.rest_advance hrest'
  have hstring {c'} (h : stringBody '"' 3 (c.advance.rest.length + 1) 0
      c.advance.advance.advance = .ok c') : s.string 0 c = s.emit .string c c' := by
    have hpeek : c.peek = some '"' := by simp [Cursor.peek, hc]
    have hpeek' : c.advance.peek = some '"' := by simp [Cursor.peek, hrest]
    have hpeek'' : c.advance.advance.peek = some '"' := by simp [Cursor.peek, hrest']
    simp [string, Nat.repeat, hpeek, hpeek', hpeek'', h]
  have hlength : c.advance.rest.length + 1 = u.length + (tail.length + 6) := by
    simp [hrest]
    omega
  have hread : Reads 0 (c.advance.rest.length + 1) c.advance.advance.advance u _ :=
    reads _ u (by decide) hrest'' (by omega)
  constructor
  · intro hinside
    unfold Reads at hread
    rw [hinside] at hread
    obtain ⟨fuel, d, -, hbody, hd, hdpos, hfuel⟩ := hread
    obtain ⟨c', hc', hc'rest, hc'pos⟩ := stringBody_quotes fuel hd (by omega)
    exact ⟨c', hstring (hbody.trans hc'), hc'rest, by omega⟩
  · intro hclosed
    unfold Reads at hread
    rw [hclosed] at hread
    obtain ⟨c', hc', hc'pos⟩ := hread
    exact ⟨c', hstring hc', by omega⟩

theorem run_extends : ∀ (fuel : Nat) (s : Scanner) (out : Array Token),
    ∃ ts, (run fuel s out).1.toList = out.toList ++ ts
  | 0, _, out => ⟨[], by simp [run]⟩
  | fuel + 1, s, out => by
    unfold run
    split
    · rename_i t next _
      split
      · exact ⟨[t], by simp⟩
      · obtain ⟨ts, hts⟩ := run_extends fuel next (out.push t)
        exact ⟨t :: ts, by simp [hts]⟩
    · exact run_extends fuel _ out
    · exact ⟨[], by simp⟩

theorem run_skip {s s' : Scanner} {out : Array Token} (h : s.step = .skip s') :
    run (fuel + 1) s out = run fuel s' out := by
  rw [run, h]

theorem run_token {s s' : Scanner} {out : Array Token} {t : Token} (h : s.step = .token t s')
    (ht : t.kind ≠ .finish) : run (fuel + 1) s out = run fuel s' (out.push t) := by
  rw [run, h]
  simp [ht]

/-- Inside a line that is not indented, outside of brackets. -/
def midLine (c : Cursor) : Scanner :=
  ⟨c, false, [(0, 0)], 0, []⟩

theorem start_step (line : Nat) (cs : List Char) (h : cs.head? = some '"') :
    ∃ c, (start line cs).step = .skip (midLine c) ∧ c.rest = cs := by
  refine ⟨(Cursor.ofLine line cs).settle false, ?_, by simp [Cursor.ofLine]⟩
  have hpeek : ((Cursor.ofLine line cs).settle false).peek = some '"' := by
    simpa [Cursor.peek, Cursor.ofLine] using h
  simp [step, start, lineStart, indentation, hpeek, applyIndentation, midLine]

theorem midLine_string (h : c.rest = '"' :: tail) :
    ∃ d, (midLine c).step = (midLine c).string 0 d ∧ d.rest = c.rest := by
  let d := (c.settle false).skipWhile fun x => x == ' ' || x == '\t' || x == '\x0c'
  have hrest : d.rest = '"' :: tail := by simp [d, Cursor.skipWhile, h]
  have hpeek : d.peek = some '"' := by simp [Cursor.peek, hrest]
  have hprefix : stringPrefix? ('"' :: tail) = some 0 := by simp [stringPrefix?]
  refine ⟨d, ?_, hrest.trans h.symm⟩
  change inLine (midLine c) = _
  unfold inLine
  simp [midLine, d, hpeek, hrest, hprefix]

theorem midLine_newline (h : c.rest = '\n' :: tail) :
    ∃ t s, (midLine c).step = .token t s ∧ t.kind = .newline ∧ t.text = "" := by
  let d := (c.settle false).skipWhile fun x => x == ' ' || x == '\t' || x == '\x0c'
  have hrest : d.rest = '\n' :: tail := by simp [d, Cursor.skipWhile, h]
  have hpeek : d.peek = some '\n' := by simp [Cursor.peek, hrest]
  have hprefix : stringPrefix? ('\n' :: tail) = none := by simp [stringPrefix?]
  have hname : isNameStart '\n' = false := by decide
  refine ⟨⟨.newline, "", d.line, some d.col, d.line, d.col, 0, d.advance.reach⟩,
    { midLine d.advance with atLineStart := true }, ?_, rfl, rfl⟩
  change inLine (midLine c) = _
  unfold inLine
  simp [midLine, d, hpeek, hrest, hprefix, hname]

theorem run_string (fuel : Nat) {d d' : Cursor} (h : (midLine c).step = (midLine c).emit .string d d') :
    ∃ t, run (fuel + 1) (midLine c) #[] = run fuel (midLine d') #[t] ∧ t.kind = .string ∧
      t.text = d.text d' :=
  ⟨_, run_token h (by simp), rfl, rfl⟩

end Scanner

/-- A source whose first line is the given string and no other token. -/
def OpensWith (text : String) (cs : List Char) : Prop :=
  ((scan 1 cs).1.toList.take 2).map (fun t => (t.kind, t.text)) = [(.string, text), (.newline, "")]

/-- A text between triple quotes at the front of a source, on a line of its own. -/
theorem opensWith_iff {u tail : List Char} {text : String}
    (htext : text.toList = ['"', '"', '"'] ++ (u ++ ['"', '"', '"']))
    (hu : (Quoting.inside 0).after u = .inside 0 ∨ (Quoting.inside 0).after u = .closed) :
    OpensWith text (text.toList ++ '\n' :: tail) ↔ (Quoting.inside 0).after u ≠ .closed := by
  have hcs : text.toList ++ '\n' :: tail =
      '"' :: '"' :: '"' :: (u ++ '"' :: '"' :: '"' :: '\n' :: tail) := by
    simp [htext]
  rw [hcs]
  generalize hfuel : 8 * (('"' :: '"' :: '"' :: (u ++ '"' :: '"' :: '"' :: '\n' :: tail)).length + 2) =
    fuel
  obtain ⟨fuel, rfl⟩ : ∃ f, fuel = f + 3 := ⟨fuel - 3, by simp at hfuel; omega⟩
  obtain ⟨c, hstart, hc⟩ := Scanner.start_step 1
    ('"' :: '"' :: '"' :: (u ++ '"' :: '"' :: '"' :: '\n' :: tail)) rfl
  obtain ⟨d, hstring, hd⟩ := Scanner.midLine_string hc
  have hscan : scan 1 ('"' :: '"' :: '"' :: (u ++ '"' :: '"' :: '"' :: '\n' :: tail)) =
      Scanner.run (fuel + 2) (Scanner.midLine c) #[] := by
    unfold scan
    rw [hfuel]
    exact Scanner.run_skip hstart
  obtain ⟨hwhole, hcut⟩ := Scanner.string_tripled (Scanner.midLine c) (hd.trans hc)
  unfold OpensWith
  rw [hscan]
  rcases hu with hu | hu
  · obtain ⟨d', hd', hrest, hpos⟩ := hwhole hu
    obtain ⟨t, hfirst, hkind, htoken⟩ := Scanner.run_string (fuel + 1) (hstring.trans hd')
    obtain ⟨t', s, hsecond, hkind', htoken'⟩ := Scanner.midLine_newline hrest
    obtain ⟨ts, hts⟩ := Scanner.run_extends fuel s #[t, t']
    have hrun : Scanner.run (fuel + 2) (Scanner.midLine c) #[] = Scanner.run fuel s #[t, t'] :=
      hfirst.trans (Scanner.run_token hsecond (by simp [hkind']))
    have hwhole : d.text d' = text := by
      have hend : d'.pos = d.pos + text.toList.length := by simpa [htext] using hpos
      rw [Cursor.text_of_rest ((hd.trans hc).trans hcs.symm) hend, String.ofList_toList]
    rw [hrun, hts]
    simp [hu, hkind, hkind', htoken, htoken', hwhole]
  · obtain ⟨d', hd', hpos⟩ := hcut hu
    obtain ⟨t, hfirst, -, htoken⟩ := Scanner.run_string (fuel + 1) (hstring.trans hd')
    obtain ⟨ts, hts⟩ := Scanner.run_extends (fuel + 1) (Scanner.midLine d') #[t]
    have hshort : d.text d' ≠ text := by
      intro h
      have hlength : (d.text d').toList.length = u.length + 6 := by simp [h, htext]
      unfold Cursor.text at hlength
      rw [String.toList_ofList, List.length_take] at hlength
      omega
    rw [hfirst, hts]
    simp [hu, htoken, hshort]

/-- A first line of one line stays as it is when line ends are unified. -/
theorem exists_unifyLineEnds_append (closed : Bool) {l : List Char} (hl : Line.Single l)
    (rest : List Char) :
    ∃ tail, unifyLineEnds closed (l ++ '\n' :: rest) = l ++ '\n' :: tail := by
  induction l with
  | nil =>
    cases rest with
    | nil => exact ⟨[], rfl⟩
    | cons c cs => exact ⟨unifyLineEnds closed (c :: cs), by simp [unifyLineEnds]⟩
  | cons c cs ih =>
    obtain ⟨hc, hcs⟩ := List.forall_mem_cons.mp hl
    obtain ⟨tail, htail⟩ := ih hcs
    have hne : c ≠ '\n' ∧ c ≠ '\r' := by simpa [Line.isBreak] using hc
    refine ⟨tail, ?_⟩
    rw [List.cons_append, unifyLineEnds, htail, List.cons_append]
    all_goals simp [hne]

namespace Literal

theorem body_tripled {u : List Char} {text : String}
    (htext : text.toList = ['"', '"', '"'] ++ (u ++ ['"', '"', '"'])) :
    (body text).chars = u := by
  simp [body, htext]

variable [Interpreter]

/-- The place only shows in what is said about a fault. -/
theorem unescapeFrom_place : ∀ {cs : List Char} {skip place : Nat} {t : Text} (place' : Nat),
    unescapeFrom skip place cs = .ok t → unescapeFrom skip place' cs = .ok t
  | [], _, _, _, _, h => h
  | c :: cs, skip, place, t, place', h => by
    unfold unescapeFrom at h ⊢
    split at h
    · rename_i hskip
      rw [if_pos hskip]
      exact unescapeFrom_place _ h
    · rename_i hskip
      rw [if_neg hskip]
      split at h
      · rename_i hlast
        rwa [if_pos hlast]
      · rename_i hlast
        rw [if_neg hlast]
        split at h
        · rename_i hslash
          rw [if_pos hslash]
          split at h
          · obtain ⟨rest, hrest, h⟩ := bind_eq_ok.mp h
            exact bind_eq_ok.mpr ⟨rest, unescapeFrom_place _ hrest, h⟩
          · split at h <;> cases h
        · rename_i hslash
          rw [if_neg hslash]
          obtain ⟨rest, hrest, h⟩ := bind_eq_ok.mp h
          exact bind_eq_ok.mpr ⟨rest, unescapeFrom_place _ hrest, h⟩

theorem unescapeFrom_cons {c : Char} {cs : List Char} {place : Nat} (hc : c ≠ '\\') :
    unescapeFrom 0 place (c :: cs) =
      (unescapeFrom 0 (place + units c) cs).map (CodePoint.ofChar c :: ·) := by
  have hslash : (c == '\\') = false := by simpa using hc
  rw [unescapeFrom]
  simp only [bne_self_eq_false, Bool.false_eq_true, if_false, hslash, Bool.false_and]
  rfl

theorem unescape_append {w cs : List Char} (hw : ∀ c ∈ w, c ≠ '\\') :
    (∃ t, unescape (w ++ cs) = .ok t) ↔ ∃ t, unescape cs = .ok t := by
  suffices h : ∀ place, (∃ t, unescapeFrom 0 place (w ++ cs) = .ok t) ↔
      ∃ t, unescapeFrom 0 place cs = .ok t from h 0
  intro place
  induction w generalizing place with
  | nil => rfl
  | cons c w ih =>
    obtain ⟨hc, hw⟩ := List.forall_mem_cons.mp hw
    rw [List.cons_append, unescapeFrom_cons hc]
    constructor
    · rintro ⟨t, ht⟩
      cases hread : unescapeFrom 0 (place + units c) (w ++ cs) with
      | error e => simp [hread, Except.map] at ht
      | ok rest =>
        obtain ⟨t, ht⟩ := (ih hw _).mp ⟨rest, hread⟩
        exact ⟨t, unescapeFrom_place _ ht⟩
    · rintro ⟨t, ht⟩
      obtain ⟨rest, hrest⟩ := (ih hw (place + units c)).mpr ⟨t, unescapeFrom_place _ ht⟩
      exact ⟨_, by rw [hrest]; rfl⟩

end Literal

end Source
end BranchCover
