import BranchCover.Proofs.Docstring
import BranchCover.Proofs.Strings
import Mathlib.Algebra.Ring.Parity
import Mathlib.Data.List.DropRight

/-! Text that is prepared for a place between double quotes. Five characters are written behind a backslash,
each wherever it stands: first the backslash itself, so that what is written for the others stays as it is.
A string that holds such a text is read to the quote behind it, and what is between the quotes reads back. -/
namespace BranchCover

namespace Quoted

variable {c : Char} {cs before after : List Char}

/-! One character in turn, or all in one pass. -/

/-- Writes a mark for its character wherever that stands. -/
def replace (cs : List Char) (e : Char × Char) : List Char :=
  cs.flatMap fun c => if c = e.1 then ['\\', e.2] else [c]

/-- What is written for a character by the first entry of a table that has it. -/
def markOf : (table : List (Char × Char)) → Char → List Char
  | [], c => [c]
  | e :: table, c => if c = e.1 then ['\\', e.2] else markOf table c

theorem markOf_of_ne {table : List (Char × Char)} (h : ∀ e ∈ table, c ≠ e.1) : markOf table c = [c] := by
  induction table with
  | nil => rfl
  | cons e table ih =>
    rw [markOf, if_neg (h e List.mem_cons_self)]
    exact ih fun f hf => h f (List.mem_cons_of_mem e hf)

/-- By induction on the table. No replacement finds what an earlier one has written, so that all of them in
turn write what one pass writes. -/
theorem foldl_replace {table : List (Char × Char)}
    (h : table.Pairwise fun e f => '\\' ≠ f.1 ∧ e.2 ≠ f.1) (cs : List Char) :
    table.foldl replace cs = cs.flatMap (markOf table) := by
  induction table generalizing cs with
  | nil => exact (List.flatMap_singleton' cs).symm
  | cons e table ih =>
    obtain ⟨hlater, htable⟩ := List.pairwise_cons.mp h
    have hslash : markOf table '\\' = ['\\'] := markOf_of_ne fun f hf => (hlater f hf).1
    have hmark : markOf table e.2 = [e.2] := markOf_of_ne fun f hf => (hlater f hf).2
    rw [List.foldl_cons, ih htable, replace, List.flatMap_assoc]
    refine List.flatMap_congr fun c _ => ?_
    rw [markOf]
    split
    · simp [hslash, hmark]
    · simp

theorem markOf_marks (c : Char) : markOf marks c = escapeChar c := by
  rcases escapeChar_forms c with ⟨m, hm, hc⟩ | ⟨hc, hself⟩
  · have hall : ∀ e ∈ marks, markOf marks e.1 = ['\\', e.2] := by decide
    rw [hc, hall _ hm]
  · rw [hself, markOf_of_ne hc]

theorem foldl_replace_marks (cs : List Char) : marks.foldl replace cs = cs.flatMap escapeChar := by
  rw [foldl_replace (by decide), funext markOf_marks]

theorem ne_of_mem_flatMap (h : c ∈ cs.flatMap escapeChar) : c ≠ '\n' ∧ c ≠ '\r' ∧ c ≠ '\t' := by
  have hmarks : ∀ e ∈ marks, e.2 ≠ '\n' ∧ e.2 ≠ '\r' ∧ e.2 ≠ '\t' := by decide
  obtain ⟨d, -, hd⟩ := List.mem_flatMap.mp h
  rcases escapeChar_forms d with ⟨m, hm, hd'⟩ | ⟨hne, hself⟩
  · rw [hd', List.mem_cons, List.mem_singleton] at hd
    rcases hd with rfl | rfl
    · decide
    · exact hmarks _ hm
  · rw [hself, List.mem_singleton] at hd
    subst hd
    exact ⟨hne ('\n', 'n') (by decide), hne ('\r', 'r') (by decide), hne ('\t', 't') (by decide)⟩

/-! Backslashes before a quote. -/

/-- How many backslashes a text ends with. -/
def slashes (cs : List Char) : Nat :=
  (cs.rtakeWhile (· == '\\')).length

theorem slashes_append (before after : List Char) : slashes (before ++ after) =
    if slashes after = after.length then after.length + slashes before else slashes after := by
  simp only [slashes, List.rtakeWhile, List.reverse_append, List.takeWhile_append, List.length_reverse]
  split
  · rw [List.length_append, List.length_reverse]
  · rfl

theorem odd_slashes_append (h : Even (slashes before)) (after : List Char) :
    Odd (slashes (before ++ after)) ↔ Odd (slashes after) := by
  rw [slashes_append]
  split
  · rename_i hall
    rw [hall, Nat.odd_add]
    exact iff_true_right h
  · rfl

theorem even_slashes_escapeChar (c : Char) : Even (slashes (escapeChar c)) := by
  have hmarks : ∀ e ∈ marks, Even (slashes ['\\', e.2]) := by decide
  rcases escapeChar_forms c with ⟨m, hm, hc⟩ | ⟨hc, hself⟩
  · rw [hc]
    exact hmarks _ hm
  · have hslash : (c == '\\') = false := by simpa using hc ('\\', '\\') (by decide)
    rw [hself]
    simp [slashes, List.rtakeWhile, hslash]

theorem before_quote_of_escapeChar (h : escapeChar c = before ++ '"' :: after) : before = ['\\'] := by
  rcases escapeChar_forms c with ⟨m, hm, hc⟩ | ⟨hc, hself⟩
  · rw [hc] at h
    match before, h with
    | [], h => cases h
    | [d], h =>
      obtain ⟨rfl, -⟩ := List.cons.inj h
      rfl
    | _ :: _ :: _, h => simp at h
  · rw [hself] at h
    match before, h with
    | [], h =>
      obtain ⟨rfl, -⟩ := List.cons.inj h
      exact absurd rfl (hc ('"', '"') (by decide))
    | _ :: _, h => simp at h

/-- By induction on the characters. The quote stands in what is written for the first one, or behind it. -/
theorem odd_slashes_of_quote (h : cs.flatMap escapeChar = before ++ '"' :: after) :
    Odd (slashes before) := by
  induction cs generalizing before with
  | nil => simp at h
  | cons c cs ih =>
    rw [List.flatMap_cons] at h
    rcases List.append_eq_append_iff.mp h with ⟨rest, rfl, hrest⟩ | ⟨rest, hhead, hrest⟩
    · exact (odd_slashes_append (even_slashes_escapeChar c) rest).mpr (ih hrest)
    · cases rest with
      | nil =>
        have hfirst : Odd (slashes []) := ih hrest.symm
        exact absurd hfirst (by decide)
      | cons d rest =>
        obtain ⟨rfl, -⟩ := List.cons.inj hrest
        rw [before_quote_of_escapeChar hhead]
        decide

/-! Reading the marks back. -/

/-- Reads each mark as its character. A backslash before anything else is refused. -/
def decode : List Char → Option (List Char)
  | [] => some []
  | '\\' :: m :: cs => (marks.find? (·.2 == m)).bind fun e => (decode cs).map (e.1 :: ·)
  | c :: cs => if c = '\\' then none else (decode cs).map (c :: ·)

theorem decode_escapeChar (c : Char) (cs : List Char) :
    decode (escapeChar c ++ cs) = (decode cs).map (c :: ·) := by
  have hmarks : ∀ e ∈ marks, marks.find? (·.2 == e.2) = some e := by decide
  rcases escapeChar_forms c with ⟨m, hm, hc⟩ | ⟨hc, hself⟩
  · rw [hc, List.cons_append, List.cons_append, List.nil_append, decode, hmarks _ hm]
    rfl
  · have hslash : c ≠ '\\' := hc ('\\', '\\') (by decide)
    rw [hself, List.singleton_append, decode, if_neg hslash]
    rintro m cs rfl
    exact absurd rfl hslash

theorem decode_flatMap (cs : List Char) : decode (cs.flatMap escapeChar) = some cs := by
  induction cs with
  | nil => rfl
  | cons c cs ih => rw [List.flatMap_cons, decode_escapeChar, ih, Option.map_some]

theorem unescape_flatMap [Interpreter] (cs : List Char) :
    Source.Literal.unescape (cs.flatMap escapeChar) = .ok (cs.map CodePoint.ofChar) := by
  have hmarks : ∀ e ∈ marks, Source.Literal.simpleEscape? e.2 = some e.1.toNat := by decide
  suffices h : ∀ place, Source.Literal.unescapeFrom 0 place (cs.flatMap escapeChar) =
      .ok (cs.map CodePoint.ofChar) from h 0
  induction cs with
  | nil => exact fun _ => rfl
  | cons c cs ih =>
    intro place
    rw [List.flatMap_cons]
    rcases escapeChar_forms c with ⟨m, hm, hc⟩ | ⟨hc, hself⟩
    · rw [hc]
      exact Reader.unescapeFrom_form (q := '"') (.short (hmarks _ hm)) ih place
    · rw [hself, List.singleton_append,
        Source.Literal.unescapeFrom_cons (hc ('\\', '\\') (by decide)), ih]
      rfl

end Quoted

namespace Source

/-- What may stand between double quotes on one line: a character that is none of these quotes, no backslash and
no line end, or any character behind a backslash. -/
inductive Held : List Char → Prop where
  | nil : Held []
  | plain {x : Char} {w : List Char} (hx : x ≠ '"' ∧ x ≠ '\\' ∧ x ≠ '\n') (hw : Held w) : Held (x :: w)
  | escaped (x : Char) {w : List Char} (hw : Held w) : Held ('\\' :: x :: w)

section

variable {v w tail : List Char}

theorem Held.append (hv : Held v) (hw : Held w) : Held (v ++ w) := by
  induction hv with
  | nil => exact hw
  | plain hx _ ih => exact .plain hx ih
  | escaped x _ ih => exact .escaped x ih

theorem Held.head?_ne (hw : Held w) : w.head? ≠ some '"' := by
  cases hw with
  | nil => exact fun h => nomatch h
  | plain hx => exact fun h => hx.1 (Option.some.inj h)
  | escaped => exact fun h => absurd (Option.some.inj h) (by decide)

theorem held_of_plain (h : ∀ c ∈ w, c ≠ '"' ∧ c ≠ '\\' ∧ c ≠ '\n') : Held w := by
  induction w with
  | nil => exact .nil
  | cons c w ih => exact .plain (h c List.mem_cons_self) (ih fun d hd => h d (List.mem_cons_of_mem c hd))

theorem held_escape (s : String) : Held (Quoted.escape s).toList := by
  rw [Quoted.toList_escape]
  induction s.toList with
  | nil => exact .nil
  | cons c cs ih =>
    rw [List.flatMap_cons]
    rcases Quoted.escapeChar_forms c with ⟨m, -, hc⟩ | ⟨hc, hself⟩
    · rw [hc]
      exact .escaped m ih
    · rw [hself]
      exact .plain ⟨hc ('"', '"') (by decide), hc ('\\', '\\') (by decide), hc ('\n', 'n') (by decide)⟩ ih

namespace Scanner

/-- By induction on what is held: reading goes on behind it. -/
theorem stringBody_held (hw : Held w) {fuel : Nat} {c : Cursor} (hc : c.rest = w ++ tail)
    (hfuel : w.length ≤ fuel) :
    ∃ fuel' c', stringBody '"' 1 fuel 0 c = stringBody '"' 1 fuel' 0 c' ∧ c'.rest = tail ∧
      c'.pos = c.pos + w.length ∧ fuel ≤ fuel' + w.length := by
  induction hw generalizing fuel c with
  | nil => exact ⟨fuel, c, rfl, hc, rfl, Nat.le_refl _⟩
  | plain hx _ ih =>
    obtain ⟨fuel, rfl⟩ : ∃ f, fuel = f + 1 := ⟨fuel - 1, by simp at hfuel; omega⟩
    have hstep := stringBody_step fuel Nat.zero_lt_one (fun _ => hx.2.2) hc
    rw [if_neg (by simpa using hx.1), if_neg (by simpa using hx.2.1)] at hstep
    obtain ⟨hrest, hpos⟩ := Cursor.rest_advance (c := c.settle true) (by simpa using hc)
    obtain ⟨fuel', c', hbody, htail, hpos', hleft⟩ := ih hrest (Nat.le_of_succ_le_succ hfuel)
    rw [Cursor.pos_settle] at hpos
    exact ⟨fuel', c', hstep.trans hbody, htail, by simp; omega, by simp; omega⟩
  | @escaped x w _ ih =>
    obtain ⟨fuel, rfl⟩ : ∃ f, fuel = f + 1 := ⟨fuel - 1, by simp at hfuel; omega⟩
    have hstep := stringBody_step fuel Nat.zero_lt_one (by decide) hc
    rw [if_neg (by decide), if_pos (by decide)] at hstep
    obtain ⟨hrest, hpos⟩ := Cursor.rest_advance (c := c.settle true) (by simpa using hc)
    obtain ⟨hrest', hpos'⟩ := Cursor.rest_advance (c := (c.settle true).advance.settle true)
      (by simpa using hrest)
    rw [Cursor.pos_settle] at hpos hpos'
    have hlength : w.length ≤ fuel := Nat.le_of_succ_le (Nat.le_of_succ_le_succ hfuel)
    obtain ⟨fuel', c', hbody, htail, hpos'', hleft⟩ := ih hrest' hlength
    exact ⟨fuel', c', hstep.trans hbody, htail, by simp; omega, by simp; omega⟩

/-- A string ends at the quote behind what it holds, unless two quotes in a row open one of another sort. -/
theorem string_held (s : Scanner) (hw : Held w) {c : Cursor} (hc : c.rest = '"' :: (w ++ '"' :: tail))
    (hthree : w = [] → tail.head? ≠ some '"') :
    ∃ c', s.string 0 c = s.emit .string c c' ∧ c'.rest = tail ∧
      c.text c' = String.ofList ('"' :: (w ++ ['"'])) := by
  have hpeek : c.peek = some '"' := by simp [Cursor.peek, hc]
  obtain ⟨hrest, hpos⟩ := Cursor.rest_advance hc
  suffices h : ∃ c', s.string 0 c = s.emit .string c c' ∧ c'.rest = tail ∧
      c'.pos = c.pos + (w.length + 2) by
    obtain ⟨c', hstring, htail, hend⟩ := h
    have hwhole : c.rest = '"' :: (w ++ ['"']) ++ tail := by simp [hc]
    exact ⟨c', hstring, htail, Cursor.text_of_rest hwhole (by simpa using hend)⟩
  by_cases hempty : w = []
  · subst hempty
    obtain ⟨hrest', hpos'⟩ := Cursor.rest_advance hrest
    have hpeek' : c.advance.peek = some '"' := by simp [Cursor.peek, hrest]
    have hpeek'' : (c.advance.advance.peek == some '"') = false := by
      simpa [Cursor.peek, hrest'] using hthree rfl
    refine ⟨c.advance.advance, ?_, hrest', by simp; omega⟩
    simp [string, Nat.repeat, hpeek, hpeek', hpeek'']
  · obtain ⟨x, w', rfl⟩ := List.exists_cons_of_ne_nil hempty
    have hsingle : (c.advance.peek == some '"') = false := by
      simpa [Cursor.peek, hrest] using hw.head?_ne
    obtain ⟨fuel, d, hbody, hd, hdpos, hfuel⟩ := stringBody_held hw hrest
      (Nat.le_trans (by simp [hrest]) (Nat.le_succ c.advance.rest.length))
    obtain ⟨fuel, rfl⟩ : ∃ f, fuel = f + 2 := ⟨fuel - 2, by simp [hrest] at hfuel; omega⟩
    have hclose : stringBody '"' 1 (fuel + 2) 0 d = .ok (d.settle true).advance :=
      stringBody_step (fuel + 1) Nat.zero_lt_one (by decide) hd
    obtain ⟨htail, hend⟩ := Cursor.rest_advance (c := d.settle true) (by simpa using hd)
    rw [Cursor.pos_settle] at hend
    refine ⟨(d.settle true).advance, ?_, htail, by omega⟩
    simp [string, Nat.repeat, hpeek, hsingle, hbody, hclose]

end Scanner

end

end Source

namespace Quoted

open Source

/-- The characters are written behind backslashes as they would be one after the other, the backslash first. No
line end and no tab is left, and each double quote stands behind an odd run of backslashes, so that a string
between double quotes that holds such a text, with other text that may stand there before and behind it, ends
at its closing quote. The marks read back to the text, one by one as well as in a program, so no two texts
are written alike. -/
theorem escape_reads_back [Interpreter] :
    (∀ s : String,
      (escape s).toList = marks.foldl replace s.toList ∧
      (∀ c ∈ (escape s).toList, c ≠ '\n' ∧ c ≠ '\r' ∧ c ≠ '\t') ∧
      (∀ before after, (escape s).toList = before ++ '"' :: after → Odd (slashes before)) ∧
      (∀ u v, Held u → Held v → ∀ (scanner : Scanner) (c : Cursor) (tail : List Char),
        let held := u ++ (escape s).toList ++ v
        c.rest = '"' :: (held ++ '"' :: tail) → (held = [] → tail.head? ≠ some '"') →
          ∃ c', scanner.string 0 c = scanner.emit .string c c' ∧ c'.rest = tail ∧
            c.text c' = String.ofList ('"' :: (held ++ ['"']))) ∧
      decode (escape s).toList = some s.toList ∧
      Literal.unescape (escape s).toList = .ok (Text.ofString s)) ∧
    Function.Injective escape := by
  refine ⟨fun s => ⟨?turns, ?clean, ?odd, ?ends, ?marks, ?program⟩, ?injective⟩
  case turns => rw [toList_escape, foldl_replace_marks]
  case clean => exact fun c hc => ne_of_mem_flatMap (by rwa [toList_escape] at hc)
  case odd => exact fun before after h => odd_slashes_of_quote (by rwa [toList_escape] at h)
  case ends =>
    intro u v hu hv scanner c tail held hc hthree
    exact scanner.string_held ((hu.append (held_escape s)).append hv) hc hthree
  case marks => rw [toList_escape, decode_flatMap]
  case program =>
    rw [toList_escape, unescape_flatMap]
    rfl
  case injective =>
    intro s t hst
    have hread : ∀ s, decode (escape s).toList = some s.toList := fun s => by
      rw [toList_escape, decode_flatMap]
    have hsame : some s.toList = some t.toList := by rw [← hread s, hst, hread t]
    exact String.toList_inj.mp (Option.some.inj hsame)

/-- What a test prints for a label of a backslash, a quote and a line end, from the opening quote on. -/
def printed : List Char :=
  "\"Error in \\\\\\\"\\n: \" + str(err))".toList

open scoped Interpreter in
theorem escape_reads_back_printed :
    (escape "\\\"\n").toList = ['\\', '\\', '\\'] ++ '"' :: ['\\', 'n'] ∧ Odd (slashes ['\\', '\\', '\\']) ∧
      ∃ c', (Scanner.start 1 printed).string 0 (Cursor.ofLine 1 printed) =
          (Scanner.start 1 printed).emit .string (Cursor.ofLine 1 printed) c' ∧
        c'.rest = " + str(err))".toList := by
  obtain ⟨hall, -⟩ := escape_reads_back
  obtain ⟨-, -, hodd, hends, -, -⟩ := hall "\\\"\n"
  have hwritten : (escape "\\\"\n").toList = ['\\', '\\', '\\'] ++ '"' :: ['\\', 'n'] := by decide
  have hopening : Held "Error in ".toList := held_of_plain (by simp)
  have hclosing : Held ": ".toList := held_of_plain (by simp)
  obtain ⟨c', hstring, hrest, -⟩ := hends _ _ hopening hclosing (Scanner.start 1 printed)
    (Cursor.ofLine 1 printed) " + str(err))".toList (by decide) (by decide)
  exact ⟨hwritten, hodd _ _ hwritten, c', hstring, hrest⟩

end Quoted
end BranchCover
