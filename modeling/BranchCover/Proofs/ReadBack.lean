import BranchCover.Proofs.Lines
import BranchCover.Proofs.Strings

/-! How the texts of values read back. A reader of literals goes through a text once, with the items of the
open arrays on a stack. Behind the text of a value it goes on with the value, whatever the text was, so that
the items of an array are read one after the other. -/
namespace BranchCover

namespace Value

/-- Values that are written as literals: an integer has no more digits than are written. -/
inductive IsLiteral : Value → Prop where
  | boolean (b : Bool) : IsLiteral (.boolean b)
  | null : IsLiteral .null
  | int {n : Int} (h : (Nat.toDigits 10 n.natAbs).length ≤ Numeral.digitLimit) : IsLiteral (.number (.int n))
  | text (t : Text) : IsLiteral (.text t)
  | arrayOf {items : List Value} (h : ∀ v ∈ items, IsLiteral v) : IsLiteral (.arrayOf items)

mutual

/-- The source text of a value, for any notion of a printable character. -/
def sourceWith (printable : Char → Bool) : Value → Except Unrenderable (List Char)
  | text t => pure (Quoted.literalWith (Quoted.isPoint printable) t)
  | arrayOf items => do
    let ts ← sourcesWith printable items
    pure ('[' :: (Piece.join [',', ' '] ts ++ [']']))
  | v => v.source

def sourcesWith (printable : Char → Bool) : List Value → Except Unrenderable (List (List Char))
  | [] => pure []
  | v :: vs => do
    let t ← sourceWith printable v
    let ts ← sourcesWith printable vs
    pure (t :: ts)

end

end Value

namespace Reader

open Source

def integer? (cs : List Char) : Option Int :=
  if cs.isEmpty || !cs.all Char.isDigit then none
  else
    match Literal.number (String.ofList cs) with
    | .ok (.number (.int n)) => some n
    | _ => none

/-- A word that is a literal. -/
def word? (cs : List Char) : Option Value :=
  if cs = "True".toList then some (.boolean true)
  else if cs = "False".toList then some (.boolean false)
  else if cs = "None".toList then some .null
  else (integer? cs).map fun n => .number (.int n)

/-- A literal other than an array, with what is behind it. -/
def literal? [Interpreter] : List Char → Option (Value × List Char)
  | '\'' :: cs => (string? '\'' cs).map (Prod.map .text id)
  | '"' :: cs => (string? '"' cs).map (Prod.map .text id)
  | '-' :: cs =>
    (integer? (cs.takeWhile Word.isInside)).map fun n => (.number (.int (-n)), cs.dropWhile Word.isInside)
  | cs => (word? (cs.takeWhile Word.isInside)).map fun v => (v, cs.dropWhile Word.isInside)

theorem length_dropWhile_lt {p : Char → Bool} {cs : List Char} (h : cs.takeWhile p ≠ []) :
    (cs.dropWhile p).length < cs.length := by
  have hpos := List.length_pos_iff.mpr h
  have hsum := congrArg List.length (List.takeWhile_append_dropWhile (p := p) (l := cs))
  rw [List.length_append] at hsum
  omega

theorem length_of_literal? [Interpreter] {cs rest : List Char} {v : Value} (h : literal? cs = some (v, rest)) :
    rest.length < cs.length := by
  unfold literal? at h
  split at h
  · obtain ⟨⟨t, r⟩, hr, hpair⟩ := Option.map_eq_some_iff.mp h
    obtain ⟨-, rfl⟩ := Prod.mk.inj hpair
    exact Nat.lt_succ_of_lt (length_of_string? hr)
  · obtain ⟨⟨t, r⟩, hr, hpair⟩ := Option.map_eq_some_iff.mp h
    obtain ⟨-, rfl⟩ := Prod.mk.inj hpair
    exact Nat.lt_succ_of_lt (length_of_string? hr)
  · obtain ⟨n, -, hpair⟩ := Option.map_eq_some_iff.mp h
    obtain ⟨-, rfl⟩ := Prod.mk.inj hpair
    exact Nat.lt_succ_of_le (List.dropWhile_sublist _).length_le
  · obtain ⟨w, hw, hpair⟩ := Option.map_eq_some_iff.mp h
    obtain ⟨-, rfl⟩ := Prod.mk.inj hpair
    refine length_dropWhile_lt fun hnil => ?_
    rw [hnil] at hw
    cases hw

mutual

/-- Reads a value and what is in the open arrays behind it. -/
def value [Interpreter] (stack : List (List Value)) : List Char → Option (Value × List Char)
  | ' ' :: cs => value stack cs
  | '[' :: cs => value ([] :: stack) cs
  | ']' :: cs =>
    match stack with
    | items :: stack => behind stack (.arrayOf items.reverse) cs
    | [] => none
  | cs =>
    match _h : literal? cs with
    | some (v, rest) => behind stack v rest
    | none => none
termination_by cs => cs.length
decreasing_by
  · exact Nat.lt_succ_self _
  · exact Nat.lt_succ_self _
  · exact Nat.lt_succ_self _
  · exact length_of_literal? _h

/-- Goes on behind a value: it is the whole, or it is one of the innermost array. -/
def behind [Interpreter] (stack : List (List Value)) (v : Value) (cs : List Char) : Option (Value × List Char) :=
  match stack with
  | [] => some (v, cs)
  | items :: stack =>
    match cs with
    | ' ' :: cs => behind (items :: stack) v cs
    | ',' :: cs => value ((v :: items) :: stack) cs
    | ']' :: cs => behind stack (.arrayOf (v :: items).reverse) cs
    | _ => none
termination_by cs.length
decreasing_by all_goals exact Nat.lt_succ_self _

end

/-- Reads one literal from the start of a text, and returns it with what is left. -/
def read [Interpreter] (cs : List Char) : Option (Value × List Char) :=
  value [] cs

/-- Nothing of a word or string goes on in the text. -/
def Stops (rest : List Char) : Prop :=
  ∀ c ∈ rest.head?, c = ',' ∨ c = ']'

section

variable {q c : Char} {cs rest body : List Char} {v : Value} {t : Text}

theorem stops_nil : Stops [] :=
  fun _ h => nomatch h

theorem stops_comma (cs : List Char) : Stops (',' :: cs) :=
  fun _ h => .inl (Option.some.inj h).symm

theorem stops_bracket (cs : List Char) : Stops (']' :: cs) :=
  fun _ h => .inr (Option.some.inj h).symm

theorem Stops.head?_ne (h : Stops rest) (hc : c ≠ ',' ∧ c ≠ ']') : rest.head? ≠ some c :=
  fun hhead => (h c hhead).elim hc.1 hc.2

theorem Stops.word (h : Stops rest) (hcs : ∀ c ∈ cs, Word.isInside c = true) :
    (cs ++ rest).takeWhile Word.isInside = cs ∧ (cs ++ rest).dropWhile Word.isInside = rest := by
  rw [List.takeWhile_append_of_pos hcs, List.dropWhile_append_of_pos hcs]
  cases rest with
  | nil => exact ⟨List.append_nil cs, rfl⟩
  | cons c rest =>
    have hout : ¬ Word.isInside c = true := by
      rcases h c rfl with rfl | rfl <;> decide
    rw [List.takeWhile_cons_of_neg hout, List.dropWhile_cons_of_neg hout]
    exact ⟨List.append_nil cs, rfl⟩

/-! Numbers. -/

theorem natOf_of_digits (h : ∀ c ∈ cs, c.isDigit = true) (n : Nat) :
    cs.foldl (fun n c => 10 * n + (Literal.digitValue? c).getD 0) n = Nat.ofDigitChars 10 cs n := by
  induction cs generalizing n with
  | nil => rfl
  | cons c cs ih =>
    have hc := h c List.mem_cons_self
    rw [List.foldl_cons, ih fun d hd => h d (List.mem_cons_of_mem c hd), Literal.digitValue?, if_pos hc]
    rfl

theorem natOf_toDigits (n : Nat) : Literal.natOf 10 (Nat.toDigits 10 n) = n := by
  have hdigits : ∀ c ∈ Nat.toDigits 10 n, c.isDigit = true := fun c hc =>
    Nat.isDigit_of_mem_toDigits (by decide) (by decide) hc
  rw [Literal.natOf, natOf_of_digits hdigits]
  simp

theorem number_of_digits (h : ∀ c ∈ cs, c.isDigit = true) (hshort : cs.length ≤ Numeral.digitLimit) :
    Literal.number (String.ofList cs) = .ok (.number (.int (Literal.natOf 10 cs))) := by
  have hfilter : cs.filter (· != '_') = cs := List.filter_eq_self.mpr fun c hc => by
    refine bne_iff_ne.mpr fun hmark => ?_
    rw [hmark] at hc
    exact absurd (h '_' hc) (by decide)
  have hmark : ∀ c d ds, c.isDigit = false → cs ≠ d :: c :: ds := fun c d ds hc hcs => by
    have hdigit := h c (by simp [hcs])
    rw [hc] at hdigit
    cases hdigit
  have hlast : ∀ c, c.isDigit = false → (cs.getLast? == some c) = false := fun c hc => by
    refine beq_eq_false_iff_ne.mpr fun hcs => ?_
    have hdigit := h c (List.mem_of_getLast? hcs)
    rw [hc] at hdigit
    cases hdigit
  have hlimit : ¬ Numeral.digitLimit < cs.length := Nat.not_lt.mpr hshort
  unfold Literal.number
  rw [String.toList_ofList]
  simp only [hfilter]
  split
  case h_7 =>
    rw [hlast 'j' (by decide), hlast 'J' (by decide), if_neg (by decide), if_pos (List.all_eq_true.mpr h),
      decide_eq_false hlimit, Bool.false_and, if_neg Bool.false_ne_true]
  all_goals exact absurd rfl (hmark _ _ _ (by decide))

theorem integer?_toDigits {n : Nat} (h : (Nat.toDigits 10 n).length ≤ Numeral.digitLimit) :
    integer? (Nat.toDigits 10 n) = some (n : Int) := by
  have hdigits : ∀ c ∈ Nat.toDigits 10 n, c.isDigit = true := fun c hc =>
    Nat.isDigit_of_mem_toDigits (by decide) (by decide) hc
  have hsome : ¬ ((Nat.toDigits 10 n).isEmpty || !(Nat.toDigits 10 n).all Char.isDigit) = true := by
    simp [List.all_eq_true.mpr hdigits]
  rw [integer?, if_neg hsome, number_of_digits hdigits h, natOf_toDigits]

variable [Interpreter]

theorem literal?_of_isInside (hc : Word.isInside c = true) (cs : List Char) :
    literal? (c :: cs) = (word? ((c :: cs).takeWhile Word.isInside)).map fun v =>
      (v, (c :: cs).dropWhile Word.isInside) := by
  unfold literal?
  split
  case h_4 => rfl
  all_goals
    rename_i hhead
    obtain ⟨rfl, -⟩ := List.cons.inj hhead
    exact absurd hc (by decide)

theorem literal?_word (hne : cs ≠ []) (hcs : ∀ c ∈ cs, Word.isInside c = true) (hv : word? cs = some v)
    (hstops : Stops rest) : literal? (cs ++ rest) = some (v, rest) := by
  obtain ⟨htake, hdrop⟩ := hstops.word hcs
  cases cs with
  | nil => exact absurd rfl hne
  | cons c cs =>
    rw [List.cons_append, literal?_of_isInside (hcs c List.mem_cons_self), ← List.cons_append, htake, hdrop, hv]
    rfl

theorem literal?_int {n : Int} (h : (Nat.toDigits 10 n.natAbs).length ≤ Numeral.digitLimit)
    (hstops : Stops rest) : literal? (Numeral.intText n ++ rest) = some (.number (.int n), rest) := by
  have hdigits : ∀ c ∈ Nat.toDigits 10 n.natAbs, c.isDigit = true := fun c hc =>
    Nat.isDigit_of_mem_toDigits (by decide) (by decide) hc
  have hinside : ∀ c ∈ Nat.toDigits 10 n.natAbs, Word.isInside c = true := fun c hc => by
    simp [Word.isInside, Char.isAlphanum, hdigits c hc]
  have hvalue := integer?_toDigits h
  rw [Numeral.intText]
  split
  · rename_i hneg
    obtain ⟨htake, hdrop⟩ := hstops.word hinside
    have hn : -(n.natAbs : Int) = n := by omega
    rw [List.cons_append, literal?, htake, hdrop, hvalue, Option.map_some, hn]
  · rename_i hpos
    have hn : (n.natAbs : Int) = n := by omega
    have hword : word? (Nat.toDigits 10 n.natAbs) = some (.number (.int n)) := by
      have hne : ∀ w : List Char, w.all Char.isDigit = false → Nat.toDigits 10 n.natAbs ≠ w := by
        rintro w hw rfl
        rw [List.all_eq_true.mpr hdigits] at hw
        cases hw
      rw [word?, if_neg (hne _ (by decide)), if_neg (hne _ (by decide)), if_neg (hne _ (by decide)), hvalue,
        Option.map_some, hn]
    exact literal?_word (by simp) hinside hword hstops

theorem literal?_text {printable : Char → Bool}
    (hcontrol : ∀ c, printable c = true → Quoted.isControl c = false) (t : Text) (hstops : Stops rest) :
    literal? (Quoted.literalWith (Quoted.isPoint printable) t ++ rest) = some (.text t, rest) := by
  have hquote : Quoted.quoteFor t = '\'' ∨ Quoted.quoteFor t = '"' := by
    rw [Quoted.quoteFor]
    split
    · exact .inr rfl
    · exact .inl rfl
  have hstring : ∀ q, q = '\'' ∨ q = '"' →
      string? q (t.flatMap (Quoted.unit (Quoted.isPoint printable) q) ++ q :: rest) = some (t, rest) := by
    intro q hq
    have hrest : rest.head? ≠ some q := by
      rcases hq with rfl | rfl <;> exact hstops.head?_ne (by decide)
    exact string?_units hcontrol hq t hrest
  have hchosen := hstring _ hquote
  rw [Quoted.literalWith, List.cons_append, List.append_assoc, List.singleton_append]
  rcases hquote with hq | hq
  all_goals
    rw [hq] at hchosen ⊢
    rw [literal?, hchosen]
    rfl

end

/-! Values. -/

section

variable [Interpreter] {printable : Char → Bool} {cs rest : List Char} {v : Value} {stack : List (List Value)}

theorem value_of_literal? (h : literal? cs = some (v, rest)) (stack : List (List Value)) :
    value stack cs = behind stack v rest := by
  unfold value
  split
  · cases h
  · cases h
  · cases h
  · split
    · rename_i w rest' h'
      obtain ⟨rfl, rfl⟩ := Prod.mk.inj (Option.some.inj (h'.symm.trans h))
      rfl
    · rename_i h'
      cases h'.symm.trans h

/-- The text is that of a value: the reader goes on behind the value where the text ends. -/
def Reads (t : List Char) (v : Value) : Prop :=
  ∀ rest, Stops rest → ∀ stack, value stack (t ++ rest) = behind stack v rest

theorem reads_of_literal? {t : List Char} (h : ∀ rest, Stops rest → literal? (t ++ rest) = some (v, rest)) :
    Reads t v :=
  fun rest hstops stack => value_of_literal? (h rest hstops) stack

theorem reads_word (hne : cs ≠ []) (hcs : cs.all Word.isInside = true) (hv : word? cs = some v) :
    Reads cs v :=
  reads_of_literal? fun _ => literal?_word hne (List.all_eq_true.mp hcs) hv

/-- By induction on the items that are left to read. -/
theorem value_join {ts : List (List Char)} {items : List Value} (h : List.Forall₂ Reads ts items)
    (before : List Value) (stack : List (List Value)) (rest : List Char) :
    value (before :: stack) (Piece.join [',', ' '] ts ++ ']' :: rest) =
      behind stack (.arrayOf (before.reverse ++ items)) rest := by
  induction h generalizing before with
  | nil =>
    rw [Piece.join, List.nil_append, List.append_nil, value]
  | cons hread htail ih =>
    rename_i t v ts vs
    have hmore := ih (v :: before)
    rw [List.reverse_cons, List.append_assoc, List.singleton_append] at hmore
    cases htail with
    | nil =>
      rw [Piece.join, hread _ (stops_bracket rest), behind, List.reverse_cons]
    | cons hread' htail' =>
      rw [Piece.join, List.append_assoc, List.append_assoc, List.cons_append, List.singleton_append,
        hread _ (stops_comma _), behind, value, hmore]
      exact List.cons_ne_nil _ _

/-- By induction on the items. -/
theorem exists_sourcesWith {printable : Char → Bool} {items : List Value}
    (h : ∀ v ∈ items, ∃ t, v.sourceWith printable = .ok t ∧ Reads t v) :
    ∃ ts, Value.sourcesWith printable items = .ok ts ∧ List.Forall₂ Reads ts items := by
  induction items with
  | nil => exact ⟨[], rfl, .nil⟩
  | cons v vs ih =>
    obtain ⟨t, ht, hread⟩ := h v List.mem_cons_self
    obtain ⟨ts, hts, hreads⟩ := ih fun w hw => h w (List.mem_cons_of_mem v hw)
    refine ⟨t :: ts, ?_, .cons hread hreads⟩
    rw [Value.sourcesWith, ht, hts]
    rfl

/-- By induction on the value, with one case for each sort of literal. -/
theorem exists_sourceWith (hcontrol : ∀ c, printable c = true → Quoted.isControl c = false)
    (h : v.IsLiteral) : ∃ t, v.sourceWith printable = .ok t ∧ Reads t v := by
  induction h with
  | boolean b =>
    cases b with
    | true => exact ⟨"True".toList, rfl, reads_word (by decide) (by decide) (by simp [word?])⟩
    | false => exact ⟨"False".toList, rfl, reads_word (by decide) (by decide) (by simp [word?])⟩
  | null => exact ⟨"None".toList, rfl, reads_word (by decide) (by decide) (by simp [word?])⟩
  | int hdigits =>
    rename_i n
    have hshort : Numeral.tooLong n = false := by
      rw [← Bool.not_eq_true, Numeral.tooLong_iff]
      exact Nat.not_lt.mpr hdigits
    refine ⟨Numeral.intText n, ?_, reads_of_literal? fun _ => literal?_int hdigits⟩
    rw [Value.sourceWith, Value.source, Value.numberSource, hshort, if_neg Bool.false_ne_true]
    · rfl
    all_goals simp
  | text t => exact ⟨_, rfl, reads_of_literal? fun _ => literal?_text hcontrol t⟩
  | arrayOf _ ih =>
    obtain ⟨ts, hts, hreads⟩ := exists_sourcesWith ih
    refine ⟨'[' :: (Piece.join [',', ' '] ts ++ [']']), ?_, ?_⟩
    · rw [Value.sourceWith, hts]
      rfl
    · intro rest _ stack
      rw [List.cons_append, List.append_assoc, value]
      exact value_join hreads [] stack rest

end

end Reader

namespace Value

/-- By the structure of the value. -/
theorem sourceWith_test (v : Value) : v.sourceWith (fun c => Printable.test c.toNat) = v.source := by
  cases v with
  | text t => rw [sourceWith, source, Quoted.literalWith_test]
  | arrayOf items =>
    have hitems : ∀ vs : List Value, (∀ v ∈ vs, v ∈ items) →
        sourcesWith (fun c => Printable.test c.toNat) vs = sources vs := by
      intro vs hvs
      induction vs with
      | nil => rfl
      | cons v vs ih =>
        have hv : v ∈ items := hvs v List.mem_cons_self
        rw [sourcesWith, sources, sourceWith_test v, ih fun w hw => hvs w (List.mem_cons_of_mem v hw)]
    rw [sourceWith, source, hitems items fun _ => id]
  | number | boolean | null | objectStub | unspecified => rfl
termination_by sizeOf v
decreasing_by
  have := List.sizeOf_lt_of_mem hv
  simp
  omega

/-- The text of a literal reads back as the value, for any notion of a printable character that leaves out
the control characters: it is read to its end. So values of one text are the same, for the notion that is
used as well as for others. -/
theorem source_reads_back [Interpreter] (printable : Char → Bool)
    (hcontrol : ∀ c, printable c = true → Quoted.isControl c = false) :
    (∀ v : Value, v.IsLiteral → ∃ t, v.sourceWith printable = .ok t ∧ Reader.read t = some (v, [])) ∧
    (∀ v w : Value, v.IsLiteral → w.IsLiteral → v.sourceWith printable = w.sourceWith printable → v = w) ∧
    (∀ v : Value, v.IsLiteral → ∃ t, v.source = .ok t ∧ Reader.read t = some (v, [])) ∧
    ∀ v w : Value, v.IsLiteral → w.IsLiteral → v.source = w.source → v = w := by
  have hread : ∀ printable : Char → Bool, (∀ c, printable c = true → Quoted.isControl c = false) →
      ∀ v : Value, v.IsLiteral → ∃ t, v.sourceWith printable = .ok t ∧ Reader.read t = some (v, []) := by
    intro printable hcontrol v hv
    obtain ⟨t, ht, hreads⟩ := Reader.exists_sourceWith hcontrol hv
    refine ⟨t, ht, ?_⟩
    have hall := hreads [] Reader.stops_nil []
    rw [List.append_nil, Reader.behind] at hall
    exact hall
  have hinjective : ∀ printable : Char → Bool, (∀ c, printable c = true → Quoted.isControl c = false) →
      ∀ v w : Value, v.IsLiteral → w.IsLiteral → v.sourceWith printable = w.sourceWith printable →
        v = w := by
    intro printable hcontrol v w hv hw h
    obtain ⟨t, ht, hreadv⟩ := hread printable hcontrol v hv
    obtain ⟨u, hu, hreadw⟩ := hread printable hcontrol w hw
    obtain rfl : t = u := Except.ok.inj (ht.symm.trans (h.trans hu))
    exact (Prod.mk.inj (Option.some.inj (hreadv.symm.trans hreadw))).1
  have hused := hread _ Quoted.isControl_of_test
  have hdistinct := hinjective _ Quoted.isControl_of_test
  simp only [sourceWith_test] at hused hdistinct
  exact ⟨hread printable hcontrol, hinjective printable hcontrol, hused, hdistinct⟩

/-- A value with all sorts of literals; its text has quotes of both kinds, a line break and a bracket. -/
def nested : Value :=
  .arrayOf [.text (Text.ofString "it's \"1, 2]\"\n"), .number (.int (-12)), .arrayOf [],
    .arrayOf [.null, .boolean true]]

open scoped Interpreter in
/-- The nested value, between quotes of the kind that is escaped, for the notion that is used. -/
theorem source_reads_back_nested :
    (∀ c : Char, Printable.test c.toNat = true → Quoted.isControl c = false) ∧
      nested.sourceWith (fun c => Printable.test c.toNat) =
        .ok "['it\\'s \"1, 2]\"\\n', -12, [], [None, True]]".toList ∧
      Reader.read "['it\\'s \"1, 2]\"\\n', -12, [], [None, True]]".toList = some (nested, []) := by
  have hitems : nested.IsLiteral := by
    refine .arrayOf ?_
    simp only [List.forall_mem_cons, List.not_mem_nil, IsEmpty.forall_iff, implies_true, and_true]
    refine ⟨.text _, .int (by decide), .arrayOf (by simp), .arrayOf ?_⟩
    simp only [List.forall_mem_cons, List.not_mem_nil, IsEmpty.forall_iff, implies_true, and_true]
    exact ⟨.null, .boolean true⟩
  have htext : nested.sourceWith (fun c => Printable.test c.toNat) =
      .ok "['it\\'s \"1, 2]\"\\n', -12, [], [None, True]]".toList := by
    have hshort : Numeral.tooLong (-12) = false := by
      rw [← Bool.not_eq_true, Numeral.tooLong_iff]
      decide
    simp only [nested, sourceWith, sourcesWith, source, numberSource, hshort]
    rfl
  obtain ⟨hread, -⟩ := source_reads_back (fun c => Printable.test c.toNat) Quoted.isControl_of_test
  obtain ⟨t, ht, hvalue⟩ := hread nested hitems
  obtain rfl := Except.ok.inj (htext.symm.trans ht)
  exact ⟨Quoted.isControl_of_test, htext, hvalue⟩

end Value
end BranchCover
