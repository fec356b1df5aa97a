import BranchCover.Suite.Name

/-! What the names of test modules keep of the names of classes. The words of a name are set apart in one
pass, which gives what two substitutions one after the other give. Nothing is added but underscores, and in
ASCII each letter keeps its place, so that a class is known by its test module up to case and underscores. -/
namespace BranchCover
namespace Name

/-- The first substitution: an underscore behind any character that a capital and small letters follow. What
was matched is passed over as a whole. -/
def splitTitles : List Char → List Char
  | c :: u :: rest =>
    if c != '\n' && isCapital u && rest.head?.any isSmall then
      c :: '_' :: u :: (rest.takeWhile isSmall ++ splitTitles (rest.dropWhile isSmall))
    else c :: splitTitles (u :: rest)
  | cs => cs
termination_by cs => cs.length
decreasing_by
  · have hlength := (List.dropWhile_sublist (l := rest) isSmall).length_le
    simp only [List.length_cons]
    omega
  · simp only [List.length_cons]
    omega

/-- The second substitution: an underscore between a small letter or digit and a capital. -/
def splitHumps : List Char → List Char
  | c :: u :: rest =>
    if (isSmall c || isDigit c) && isCapital u then c :: '_' :: u :: splitHumps rest
    else c :: splitHumps (u :: rest)
  | cs => cs

/-- A name up to case and underscores. -/
def bare (name : String) : List Char :=
  (Case.lower name.toList).filter (· != '_')

section Words

variable {c u : Char} {cs xs ys : List Char}

theorem not_isWord_of_isCapital (h : isCapital c = true) : (isSmall c || isDigit c) = false := by
  simp only [isCapital, isSmall, isDigit, Bool.and_eq_true, decide_eq_true_eq] at h ⊢
  have hcapital : 'A'.toNat ≤ c.toNat ∧ c.toNat ≤ 'Z'.toNat := h
  have hsmall : ¬ 'a' ≤ c := fun hc => by
    have hle : 'a'.toNat ≤ c.toNat := hc
    exact absurd (Nat.le_trans hle hcapital.2) (by decide)
  have hdigit : ¬ c ≤ '9' := fun hc => by
    have hle : c.toNat ≤ '9'.toNat := hc
    exact absurd (Nat.le_trans hcapital.1 hle) (by decide)
  simp [hsmall, hdigit]

theorem not_isCapital_of_isSmall (h : isSmall c = true) : isCapital c = false := by
  cases hc : isCapital c with
  | false => rfl
  | true => simpa [h] using not_isWord_of_isCapital hc

/-- Nothing is set apart behind a character that is no small letter or digit. -/
theorem splitHumps_cons_of_not_word (h : (isSmall c || isDigit c) = false) (cs : List Char) :
    splitHumps (c :: cs) = c :: splitHumps cs := by
  cases cs with
  | nil => rfl
  | cons u rest => rw [splitHumps, h, Bool.false_and, if_neg Bool.false_ne_true]

theorem splitHumps_cons_cons (c u : Char) (rest : List Char) :
    splitHumps (c :: u :: rest) =
      if (isSmall c || isDigit c) && isCapital u then c :: '_' :: splitHumps (u :: rest)
      else c :: splitHumps (u :: rest) := by
  rw [splitHumps]
  by_cases h : ((isSmall c || isDigit c) && isCapital u) = true
  · have hu := not_isWord_of_isCapital (Bool.and_eq_true_iff.mp h).2
    rw [if_pos h, if_pos h, splitHumps_cons_of_not_word hu]
  · rw [if_neg h, if_neg h]

@[simp] theorem head?_splitTitles (cs : List Char) : (splitTitles cs).head? = cs.head? := by
  fun_cases splitTitles cs <;> rfl

@[simp] theorem head?_splitWords (cs : List Char) : (splitWords cs).head? = cs.head? := by
  fun_cases splitWords cs <;> rfl

/-- Both ways agree on a name if they do behind its first character, and the first substitution sets nothing
apart there. -/
theorem splitHumps_cons_eq (hhead : xs.head? = ys.head?) (h : splitHumps xs = splitWords ys)
    (hfirst : ∀ u rest, ys = u :: rest →
      beginsWord c u rest = ((isSmall c || isDigit c) && isCapital u)) :
    splitHumps (c :: xs) = splitWords (c :: ys) := by
  cases ys with
  | nil =>
    obtain rfl : xs = [] := List.head?_eq_none_iff.mp hhead
    rfl
  | cons u rest =>
    obtain ⟨rest', rfl⟩ := List.head?_eq_some_iff.mp hhead
    rw [splitHumps_cons_cons, splitWords, hfirst u rest rfl, h]

/-- By induction on the small letters. -/
theorem splitHumps_append_eq {s : List Char} (hs : ∀ c ∈ s, isSmall c = true) (hhead : xs.head? = ys.head?)
    (h : splitHumps xs = splitWords ys) : splitHumps (s ++ xs) = splitWords (s ++ ys) := by
  induction s with
  | nil => exact h
  | cons c s ih =>
    have hrest := ih fun d hd => hs d (List.mem_cons_of_mem c hd)
    have hheads : (s ++ xs).head? = (s ++ ys).head? := by
      rw [List.head?_append, List.head?_append, hhead]
    refine splitHumps_cons_eq hheads hrest fun u rest _ => ?_
    simp [beginsWord, hs c List.mem_cons_self]

theorem splitWords_cons_of_isSmall (h : cs.head?.any isSmall = true) (c : Char) :
    splitWords (c :: cs) = c :: splitWords cs := by
  cases cs with
  | nil => rfl
  | cons u rest =>
    rw [splitWords, beginsWord, not_isCapital_of_isSmall (by simpa using h), Bool.false_and,
      if_neg Bool.false_ne_true]

/-- One pass gives what the two substitutions give. -/
theorem splitHumps_splitTitles (cs : List Char) : splitHumps (splitTitles cs) = splitWords cs := by
  fun_induction splitTitles cs with
  | case1 c u rest h ih =>
    obtain ⟨⟨hline, hu⟩, hsmall⟩ : ((c != '\n') = true ∧ isCapital u = true) ∧
      rest.head?.any isSmall = true := by simpa only [Bool.and_eq_true] using h
    have hrun : splitHumps (rest.takeWhile isSmall ++ splitTitles (rest.dropWhile isSmall)) =
        splitWords (rest.takeWhile isSmall ++ rest.dropWhile isSmall) :=
      splitHumps_append_eq (List.all_eq_true.mp List.all_takeWhile) (head?_splitTitles _) ih
    rw [List.takeWhile_append_dropWhile] at hrun
    have hbegins : beginsWord c u rest = true := by simp [beginsWord, hu, hline, hsmall]
    have hmark : isCapital '_' = false := by decide
    rw [splitWords, if_pos hbegins, splitWords_cons_of_isSmall hsmall, splitHumps_cons_cons, hmark,
      Bool.and_false, if_neg Bool.false_ne_true, splitHumps_cons_of_not_word (by decide),
      splitHumps_cons_of_not_word (not_isWord_of_isCapital hu), hrun]
  | case2 c u rest h ih =>
    refine splitHumps_cons_eq (head?_splitTitles _) ih fun v rest' hv => ?_
    obtain ⟨rfl, rfl⟩ := List.cons.inj hv
    have hnone : (isCapital u && (c != '\n' && rest.head?.any isSmall)) = false := by
      rw [Bool.and_left_comm, ← Bool.and_assoc]
      exact Bool.eq_false_iff.mpr h
    rw [beginsWord, Bool.and_or_distrib_left, hnone, Bool.or_false, Bool.and_comm]
  | case3 cs hshort =>
    match cs, hshort with
    | [], _ => rfl
    | [c], _ => rfl
    | c :: u :: rest, hshort => exact absurd rfl (hshort c u rest)

theorem filter_splitWords (cs : List Char) :
    (splitWords cs).filter (· != '_') = cs.filter (· != '_') := by
  fun_induction splitWords cs with
  | case1 c u rest h ih => simp only [List.filter_cons, ih, bne_self_eq_false, Bool.false_eq_true, if_false]
  | case2 c u rest h ih => rw [List.filter_cons, List.filter_cons, ih]
  | case3 cs hshort => rfl

theorem splitWords_eq_self (h : ∀ c ∈ cs, isCapital c = false) : splitWords cs = cs := by
  fun_induction splitWords cs with
  | case1 c u rest hbegins ih => simp [beginsWord, h u (by simp)] at hbegins
  | case2 c u rest hbegins ih => rw [ih fun d hd => h d (List.mem_cons_of_mem c hd)]
  | case3 cs hshort => rfl

end Words

theorem filter_dropWhile (cs : List Char) :
    (cs.dropWhile (· == '_')).filter (· != '_') = cs.filter (· != '_') := by
  induction cs with
  | nil => rfl
  | cons c cs ih =>
    rw [List.dropWhile_cons]
    by_cases h : (c == '_') = true
    · have hmark : ¬ (c != '_') = true := by simp [bne, h]
      rw [if_pos h, ih, List.filter_cons, if_neg hmark]
    · rw [if_neg h]

theorem head?_dropWhile_ne (cs : List Char) : (cs.dropWhile (· == '_')).head? ≠ some '_' := fun h => by
  have hnot := List.head?_dropWhile_not (· == '_') cs
  rw [h] at hnot
  exact absurd hnot (by decide)

/-- The words of a name before its letters are made small: nothing is added or lost but underscores, and
none leads. -/
theorem exists_snakeChars_eq_lower (name : List Char) :
    ∃ words, snakeChars name = Case.lower words ∧ words.head? ≠ some '_' ∧
      words.filter (· != '_') = name.filter (· != '_') := by
  rw [snakeChars]
  split
  · exact ⟨_, rfl, head?_dropWhile_ne name, filter_dropWhile name⟩
  · refine ⟨_, rfl, ?_, ?_⟩
    · rw [head?_splitWords]
      exact head?_dropWhile_ne name
    · rw [filter_splitWords, filter_dropWhile]

section Ascii

variable {c : Char} {cs : List Char}

theorem ascii_induction {p : Char → Prop} (h : ∀ n < 0x80, p (Char.ofNat n)) (hc : c.toNat < 0x80) : p c := by
  rw [← Char.ofNat_toNat c]
  exact h c.toNat hc

theorem toNat_toLower_lt (hc : c.toNat < 0x80) : c.toLower.toNat < 0x80 :=
  ascii_induction (p := fun c => c.toLower.toNat < 0x80) (by decide) hc

theorem isUpper_toLower (hc : c.toNat < 0x80) : Case.isUpper c.toLower = false := by
  have hcapital : c.toLower.isUpper = false :=
    ascii_induction (p := fun c => c.toLower.isUpper = false) (by decide) hc
  rw [Case.isUpper, if_pos (toNat_toLower_lt hc), hcapital]

theorem toLower_bne_mark (hc : c.toNat < 0x80) : (c.toLower != '_') = (c != '_') :=
  ascii_induction (p := fun c => (c.toLower != '_') = (c != '_')) (by decide) hc

theorem toLower_of_isUpper_eq_false (hc : c.toNat < 0x80) (h : Case.isUpper c = false) :
    isCapital c = false ∧ c.toLower = c := by
  rw [Case.isUpper, if_pos hc] at h
  exact ascii_induction (p := fun c => c.isUpper = false → isCapital c = false ∧ c.toLower = c)
    (by decide) hc h

theorem lowerFrom_of_ascii (before : List Char) (h : ∀ c ∈ cs, c.toNat < 0x80) :
    Case.lowerFrom before cs = cs.map Char.toLower := by
  induction cs generalizing before with
  | nil => rfl
  | cons c cs ih =>
    have hc : c.toNat < 0x80 := h c List.mem_cons_self
    have hsigma : (c.toNat == 0x3A3) = false := by
      rw [beq_eq_false_iff_ne]
      omega
    rw [Case.lowerFrom, hsigma, Bool.false_and, Bool.false_and, if_neg Bool.false_ne_true, Case.lowerChar,
      if_pos hc, ih _ fun d hd => h d (List.mem_cons_of_mem c hd)]
    rfl

theorem lower_of_ascii (h : ∀ c ∈ cs, c.toNat < 0x80) : Case.lower cs = cs.map Char.toLower :=
  lowerFrom_of_ascii [] h

theorem filter_lower_of_ascii (h : ∀ c ∈ cs, c.toNat < 0x80) :
    (Case.lower cs).filter (· != '_') = (cs.filter (· != '_')).map Char.toLower := by
  rw [lower_of_ascii h, List.filter_map]
  congr 1
  exact List.filter_congr fun c hc => toLower_bne_mark (h c hc)

/-- Small letters are written as they are. -/
theorem snakeChars_eq_self (hascii : ∀ c ∈ cs, c.toNat < 0x80) (hsmall : ∀ c ∈ cs, Case.isUpper c = false)
    (hhead : cs.head? ≠ some '_') : snakeChars cs = cs := by
  have hdrop : cs.dropWhile (· == '_') = cs := by
    cases cs with
    | nil => rfl
    | cons c cs =>
      have hc : ¬ (c == '_') = true := fun h => hhead (congrArg some (eq_of_beq h))
      rw [List.dropWhile_cons, if_neg hc]
  have hlower : Case.lower cs = cs := by
    have hsame : ∀ c ∈ cs, c.toLower = id c := fun c hc =>
      (toLower_of_isUpper_eq_false (hascii c hc) (hsmall c hc)).2
    rw [lower_of_ascii hascii, List.map_congr_left hsame, List.map_id]
  have hwords : splitWords cs = cs :=
    splitWords_eq_self fun c hc => (toLower_of_isUpper_eq_false (hascii c hc) (hsmall c hc)).1
  simp only [snakeChars, hdrop, hwords, hlower, ite_self]

end Ascii

/-- A name in small letters is the lower case of words in ASCII that hold what the name holds. -/
theorem exists_toSnake_eq (name : String) (hascii : ∀ c ∈ name.toList, c.toNat < 0x80) :
    ∃ words : List Char, (toSnake name).toList = words.map Char.toLower ∧ words.head? ≠ some '_' ∧
      words.filter (· != '_') = name.toList.filter (· != '_') ∧ ∀ c ∈ words, c.toNat < 0x80 := by
  obtain ⟨words, hsnake, hhead, hfilter⟩ := exists_snakeChars_eq_lower name.toList
  have hwords : ∀ c ∈ words, c.toNat < 0x80 := by
    intro c hc
    by_cases hmark : c = '_'
    · rw [hmark]
      decide
    · have hkept : c ∈ words.filter (· != '_') := List.mem_filter.mpr ⟨hc, by simpa using hmark⟩
      rw [hfilter] at hkept
      exact hascii c (List.mem_filter.mp hkept).1
  refine ⟨words, ?_, hhead, hfilter, hwords⟩
  rw [toSnake, String.toList_ofList, hsnake, lower_of_ascii hwords]

theorem filter_toSnake (name : String) (hascii : ∀ c ∈ name.toList, c.toNat < 0x80) :
    (toSnake name).toList.filter (· != '_') = bare name := by
  obtain ⟨words, hsnake, -, hfilter, hwords⟩ := exists_toSnake_eq name hascii
  rw [hsnake, ← lower_of_ascii hwords, filter_lower_of_ascii hwords, hfilter, bare,
    filter_lower_of_ascii hascii]

theorem toSnake_of_outputFile_eq {a b : String} (h : outputFile a = outputFile b) : toSnake a = toSnake b := by
  have hchars := congrArg String.toList h
  simp only [outputFile, String.toList_append, List.append_cancel_left_eq, List.append_cancel_right_eq,
    String.toList_inj] at hchars
  exact hchars

/-- A name in small letters is what two substitutions make of it. It has no capital and no leading
underscore, it is its own name in small letters, and without its underscores it is the lower case of the
name without its own. So test modules of one name are of classes that differ in case and underscores only. -/
theorem toSnake_keeps_bare (name : String) (hascii : ∀ c ∈ name.toList, c.toNat < 0x80) :
    (snakeChars name.toList =
      let cs := name.toList.dropWhile (· == '_')
      if cs.contains '_' || Case.isAllLower cs then Case.lower cs
      else Case.lower (splitHumps (splitTitles cs))) ∧
    (∀ c ∈ (toSnake name).toList, Case.isUpper c = false) ∧
    (toSnake name).toList.head? ≠ some '_' ∧
    toSnake (toSnake name) = toSnake name ∧
    (toSnake name).toList.filter (· != '_') = bare name ∧
    ∀ other : String, (∀ c ∈ other.toList, c.toNat < 0x80) → outputFile other = outputFile name →
      bare other = bare name := by
  obtain ⟨words, hsnake, hhead, -, hwords⟩ := exists_toSnake_eq name hascii
  have hsmall : ∀ c ∈ (toSnake name).toList, Case.isUpper c = false := by
    rw [hsnake]
    intro c hc
    obtain ⟨d, hd, rfl⟩ := List.mem_map.mp hc
    exact isUpper_toLower (hwords d hd)
  have hsnakeAscii : ∀ c ∈ (toSnake name).toList, c.toNat < 0x80 := by
    rw [hsnake]
    intro c hc
    obtain ⟨d, hd, rfl⟩ := List.mem_map.mp hc
    exact toNat_toLower_lt (hwords d hd)
  have hsnakeHead : (toSnake name).toList.head? ≠ some '_' := by
    rw [hsnake, List.head?_map]
    intro h
    obtain ⟨c, hc, hmark⟩ := Option.map_eq_some_iff.mp h
    have hbne := toLower_bne_mark (hwords c (List.mem_of_head? hc))
    rw [hmark, bne_self_eq_false] at hbne
    rw [hc, bne_eq_false_iff_eq.mp hbne.symm] at hhead
    exact hhead rfl
  refine ⟨?_, hsmall, hsnakeHead, ?_, filter_toSnake name hascii, ?_⟩
  · simp only [snakeChars, splitHumps_splitTitles]
  · rw [toSnake, snakeChars_eq_self hsnakeAscii hsmall hsnakeHead, String.ofList_toList]
  · intro other hother hfile
    rw [← filter_toSnake other hother, toSnake_of_outputFile_eq hfile, filter_toSnake name hascii]

/-- Two classes whose names differ in case have one test module between them. -/
theorem toSnake_keeps_bare_acronym :
    toSnake "HTTPServer" = "http_server" ∧ bare "HTTPServer" = "httpserver".toList ∧
      toSnake "http_server" = "http_server" ∧ outputFile "HttpServer" = outputFile "HTTPServer" ∧
      bare "HttpServer" = bare "HTTPServer" := by
  have hascii : ∀ c ∈ "HTTPServer".toList, c.toNat < 0x80 := by simp
  have hfile : outputFile "HttpServer" = outputFile "HTTPServer" := by decide
  have hsnake : toSnake "HTTPServer" = "http_server" := by decide
  obtain ⟨-, -, -, hagain, -, hbare⟩ := toSnake_keeps_bare "HTTPServer" hascii
  rw [hsnake] at hagain
  exact ⟨hsnake, by decide, hagain, hfile, hbare "HttpServer" (by simp) hfile⟩

end Name
end BranchCover
