import BranchCover.Proofs.Unbroken

/-! Texts as lines of source: which texts are names, that the text of a value stays on one line, and
that it does not end in a colon. -/
namespace BranchCover

namespace Word

/-- Whether a text is a name. -/
def isName (s : String) : Bool :=
  match s.toList with
  | [] => false
  | c :: cs => isStart c && cs.all isContinue

/-- Whether a character does not end a word: in the first half of a byte only letters, digits and
the underscore do not. -/
def isInside (c : Char) : Bool :=
  0x80 ≤ c.toNat || c.isAlphanum || c == '_'

theorem isInside_of_isStart {c : Char} (h : isStart c = true) : isInside c = true := by
  unfold isStart at h
  split at h
  · rcases Bool.or_eq_true_iff.mp h with h | h
    · simp [isInside, Char.isAlphanum, h]
    · simp [isInside, h]
  · rename_i hwide
    have hwide' : 0x80 ≤ c.toNat := Nat.le_of_not_lt hwide
    simp [isInside, hwide']

theorem isInside_of_isContinue {c : Char} (h : isContinue c = true) : isInside c = true := by
  unfold isContinue at h
  split at h
  · rcases Bool.or_eq_true_iff.mp h with h | h
    · simp [isInside, h]
    · simp [isInside, h]
  · rename_i hwide
    have hwide' : 0x80 ≤ c.toNat := Nat.le_of_not_lt hwide
    simp [isInside, hwide']

theorem exists_of_isName {s : String} (h : isName s = true) :
    ∃ c cs, s.toList = c :: cs ∧ ∀ d ∈ c :: cs, isInside d = true := by
  unfold isName at h
  split at h
  · cases h
  · rename_i c cs hcs
    obtain ⟨hc, hall⟩ := Bool.and_eq_true_iff.mp h
    refine ⟨c, cs, hcs, fun d hd => ?_⟩
    rcases List.mem_cons.mp hd with rfl | hd
    · exact isInside_of_isStart hc
    · exact isInside_of_isContinue (List.all_eq_true.mp hall d hd)

theorem isInside_of_mem {s : String} {c : Char} (h : isName s = true) (hc : c ∈ s.toList) :
    isInside c = true := by
  obtain ⟨d, ds, hds, hall⟩ := exists_of_isName h
  exact hall c (hds ▸ hc)

end Word

namespace Line

def isBreak (c : Char) : Bool :=
  c == '\n' || c == '\r'

/-- The text stays on one line. -/
def Single (cs : List Char) : Prop :=
  ∀ c ∈ cs, isBreak c = false

instance (cs : List Char) : Decidable (Single cs) :=
  List.decidableBAll (fun c => isBreak c = false) cs

/-- The text ends in a colon. -/
def EndsInColon (cs : List Char) : Prop :=
  cs.getLast? = some ':'

instance (cs : List Char) : Decidable (EndsInColon cs) :=
  inferInstanceAs (Decidable (_ = _))

variable {cs ds : List Char}

theorem isEnding_isBreak : IsEnding isBreak where
  feed := by decide
  isEnd c hc := by
    rcases Bool.or_eq_true_iff.mp hc with heq | heq <;> rw [eq_of_beq heq] <;> decide

theorem single_of_unbroken (h : Unbroken cs) : Single cs :=
  isEnding_isBreak.free h

@[simp] theorem single_nil : Single [] :=
  free_nil

@[simp] theorem single_cons {c : Char} : Single (c :: cs) ↔ isBreak c = false ∧ Single cs :=
  free_cons

@[simp] theorem single_append : Single (cs ++ ds) ↔ Single cs ∧ Single ds :=
  free_append

theorem Single.append {s t : String} (hs : Single s.toList) (ht : Single t.toList) :
    Single (s ++ t).toList :=
  Free.append hs ht

theorem single_intercalate {sep : String} {ts : List String} (hsep : Single sep.toList)
    (hts : ∀ t ∈ ts, Single t.toList) : Single (sep.intercalate ts).toList :=
  free_intercalate hsep hts

theorem endsInColon_append (h : ds ≠ []) : EndsInColon (cs ++ ds) ↔ EndsInColon ds := by
  rw [EndsInColon, EndsInColon, List.getLast?_append_of_ne_nil cs h]

theorem not_endsInColon_append (hcs : ¬ EndsInColon cs) (hds : ¬ EndsInColon ds) :
    ¬ EndsInColon (cs ++ ds) := by
  by_cases h : ds = []
  · simpa [h] using hcs
  · rwa [endsInColon_append h]

theorem not_endsInColon_of_forall (h : ∀ c ∈ cs, c ≠ ':') : ¬ EndsInColon cs :=
  fun hlast => h ':' (List.mem_of_getLast? hlast) rfl

theorem unbroken_of_isName {s : String} (h : Word.isName s = true) : Unbroken s.toList := by
  unfold Word.isName at h
  split at h
  · cases h
  · rename_i c cs hcs
    obtain ⟨hc, hall⟩ := Bool.and_eq_true_iff.mp h
    rw [hcs]
    exact free_cons.mpr ⟨Word.isEnd_of_isStart hc, fun d hd =>
      Word.isEnd_of_isContinue (List.all_eq_true.mp hall d hd)⟩

theorem single_of_isName {s : String} (h : Word.isName s = true) : Single s.toList :=
  single_of_unbroken (unbroken_of_isName h)

theorem not_endsInColon_of_isName {s : String} (h : Word.isName s = true) :
    ¬ EndsInColon s.toList := by
  apply not_endsInColon_of_forall
  rintro c hc rfl
  exact absurd (Word.isInside_of_mem h hc) (by decide)

end Line

namespace Numeral

theorem single_toString (n : Nat) : Line.Single (toString n).toList :=
  Line.single_of_unbroken (unbroken_toString n)

theorem not_endsInColon_of_characters {cs : List Char} (h : ∀ c ∈ cs, isCharacter c = true) :
    ¬ Line.EndsInColon cs := by
  apply Line.not_endsInColon_of_forall
  rintro c hc rfl
  exact absurd (h ':' hc) (by decide)

end Numeral

namespace Quoted

theorem not_endsInColon_literal (t : Text) : ¬ Line.EndsInColon (literal t) := by
  have hquote : quoteFor t ≠ ':' := by
    unfold quoteFor
    split <;> decide
  have hlast : (literal t).getLast? = some (quoteFor t) := by
    rw [literal, literalWith, ← List.cons_append, List.getLast?_concat]
  rw [Line.EndsInColon, hlast]
  exact fun h => hquote (Option.some.inj h)

theorem single_escape (s : String) : Line.Single (escape s).toList := by
  have hmarks : ∀ e ∈ marks, Line.Single ['\\', e.2] := by decide
  rw [toList_escape]
  refine Line.free_flatMap fun c _ => ?_
  rcases escapeChar_forms c with ⟨m, hm, hc⟩ | ⟨hc, hself⟩
  · rw [hc]
    exact hmarks _ hm
  · have hbreak : Line.isBreak c = false := by
      simp [Line.isBreak, hc ('\n', 'n') (by decide), hc ('\r', 'r') (by decide)]
    rw [hself]
    simpa using hbreak

end Quoted

theorem Name.single_testName {method : String} (h : Line.Single method.toList)
    (taken : List String) : Line.Single (Name.testName method taken).toList :=
  Name.free_testName Line.isEnding_isBreak h taken

namespace Value

def WellNamed (v : Value) : Prop :=
  ∀ name, (objectStub name).Within v → Word.isName name = true

theorem WellNamed.inLine {p : Char → Bool} (hp : Line.IsEnding p) {v : Value} (h : v.WellNamed) :
    v.InLine p :=
  fun name hname => hp.free (Line.unbroken_of_isName (h name hname))

theorem not_endsInColon_stubSource (name : String) : ¬ Line.EndsInColon (stubSource name) := by
  unfold stubSource
  split_ifs
  · decide
  · decide
  · decide
  · rw [Line.endsInColon_append (by simp)]
    decide

theorem not_endsInColon_numberSource {n : Numeral} {cs : List Char} (h : numberSource n = .ok cs) :
    ¬ Line.EndsInColon cs := by
  cases n with
  | int n =>
    rw [numberSource] at h
    split at h
    · cases h
    · obtain rfl := pure_eq_ok.mp h
      exact Numeral.not_endsInColon_of_characters fun _ => Numeral.isCharacter_of_mem_intText
  | real x =>
    rw [numberSource] at h
    split at h
    · obtain rfl := pure_eq_ok.mp h
      exact Numeral.not_endsInColon_of_characters fun _ => Numeral.isCharacter_of_mem_text
    · obtain rfl := pure_eq_ok.mp h
      rw [Line.endsInColon_append (by simp)]
      decide

/-- The text of a value ends in a bracket, a quote, a digit or a letter. -/
theorem not_endsInColon_source {v : Value} {cs : List Char} (h : v.source = .ok cs) :
    ¬ Line.EndsInColon cs := by
  cases v with
  | number n =>
    rw [source] at h
    exact not_endsInColon_numberSource h
  | text t =>
    obtain rfl := pure_eq_ok.mp h
    exact Quoted.not_endsInColon_literal t
  | boolean b =>
    obtain rfl := pure_eq_ok.mp h
    cases b <;> decide
  | null =>
    obtain rfl := pure_eq_ok.mp h
    decide
  | objectStub name =>
    obtain rfl := pure_eq_ok.mp h
    exact not_endsInColon_stubSource name
  | unspecified => cases h
  | arrayOf items =>
    rw [source] at h
    obtain ⟨ts, -, hcs⟩ := bind_eq_ok.mp h
    obtain rfl := pure_eq_ok.mp hcs
    rw [← List.cons_append, Line.endsInColon_append (by simp)]
    decide

theorem single_rendered {v : Value} (hrenders : v.Renders) (h : v.WellNamed) :
    Line.Single v.rendered.toList ∧ ¬ Line.EndsInColon v.rendered.toList := by
  refine ⟨free_rendered Line.isEnding_isBreak hrenders (h.inLine Line.isEnding_isBreak), ?_⟩
  obtain ⟨cs, hcs, hrendered⟩ := bind_eq_ok.mp hrenders.sourceText_eq
  rw [← pure_eq_ok.mp hrendered, String.toList_ofList]
  exact not_endsInColon_source hcs

end Value

namespace Invocation

structure WellNamed (i : Invocation) : Prop where
  receiver : Word.isName i.receiver = true
  method : i.method = "" ∨ Word.isName i.method = true
  args : ∀ a ∈ i.args, a.value.WellNamed

variable {i : Invocation}

theorem WellNamed.inLine {p : Char → Bool} (hp : Line.IsEnding p) (h : i.WellNamed)
    (hkeywords : ∀ a ∈ i.args, a.keyword = true → Line.Free p a.name.toList) : i.InLine p where
  receiver := hp.free (Line.unbroken_of_isName h.receiver)
  method := by
    rcases h.method with hnone | hname
    · rw [hnone]
      exact Line.free_nil
    · exact hp.free (Line.unbroken_of_isName hname)
  keywords := hkeywords
  values a ha := (h.args a ha).inLine hp

theorem WellNamed.target (h : i.WellNamed) :
    (∃ c cs, i.target.toList = c :: cs ∧ Word.isInside c = true) ∧
      ¬ Line.EndsInColon i.target.toList := by
  obtain ⟨c, cs, hcs, hinside⟩ := Word.exists_of_isName h.receiver
  have hc := hinside c List.mem_cons_self
  by_cases hmethod : i.method = ""
  · have htarget : i.target = i.receiver := by
      simp [Invocation.target, hmethod]
    rw [htarget]
    exact ⟨⟨c, cs, hcs, hc⟩, Line.not_endsInColon_of_isName h.receiver⟩
  · have hname := h.method.resolve_left hmethod
    have htarget : i.target = i.receiver ++ "." ++ i.method := by
      simp [Invocation.target, hmethod]
    obtain ⟨m, ms, hms, -⟩ := Word.exists_of_isName hname
    rw [htarget]
    refine ⟨⟨c, cs ++ '.' :: i.method.toList, by simp [hcs], hc⟩, ?_⟩
    rw [String.toList_append, Line.endsInColon_append (by simp [hms])]
    exact Line.not_endsInColon_of_isName hname

section Written

variable (h : i.WellNamed) (hrenders : ∀ a ∈ i.args, a.value.Renders)

include h

theorem WellNamed.begins_written :
    ∃ c cs, i.written.toList = c :: cs ∧ Word.isInside c = true := by
  obtain ⟨⟨c, cs, hcs, hc⟩, -⟩ := h.target
  have hstart : ∀ rest : String, ∃ e es, (i.target ++ rest).toList = e :: es ∧
      Word.isInside e = true := fun rest => ⟨c, cs ++ rest.toList, by simp [hcs], hc⟩
  unfold written
  split
  · rw [String.append_assoc, String.append_assoc]
    exact hstart _
  · exact ⟨c, cs, hcs, hc⟩
  · split
    · exact hstart _
    · rw [String.append_assoc]
      exact hstart _
  · exact ⟨'d', "el ".toList ++ i.target.toList, by simp, by decide⟩

include hrenders

theorem WellNamed.not_endsInColon_written : ¬ Line.EndsInColon i.written.toList := by
  obtain ⟨⟨c, cs, hcs, -⟩, hend⟩ := h.target
  unfold written
  split
  · rw [String.toList_append, Line.endsInColon_append (by decide)]
    decide
  · exact hend
  · split
    · rw [String.toList_append, Line.endsInColon_append (by decide)]
      decide
    · rename_i a ha
      have hmem : a ∈ i.args := List.mem_of_mem_head? ha
      rw [String.toList_append]
      refine Line.not_endsInColon_append ?_ (Value.single_rendered (hrenders a hmem) (h.args a hmem)).2
      rw [String.toList_append, Line.endsInColon_append (by decide)]
      decide
  · rwa [String.toList_append, Line.endsInColon_append (by simp [hcs])]

theorem WellNamed.single_written
    (hkeywords : ∀ a ∈ i.args, a.keyword = true → Line.Single a.name.toList) :
    Line.Single i.written.toList :=
  (h.inLine Line.isEnding_isBreak hkeywords).written Line.isEnding_isBreak hrenders

end Written

/-- The text of a use begins with a word, and it does not end in a colon. It stays on one line if the
names of its keywords do. -/
theorem WellNamed.rendered (h : i.WellNamed) (hrenders : ∀ a ∈ i.args, a.value.Renders) :
    (∃ c cs, i.rendered.toList = c :: cs ∧ Word.isInside c = true) ∧
      ¬ Line.EndsInColon i.rendered.toList ∧
      ((∀ a ∈ i.args, a.keyword = true → Line.Single a.name.toList) →
        Line.Single i.rendered.toList) := by
  rw [rendered_eq_written hrenders]
  exact ⟨h.begins_written, h.not_endsInColon_written hrenders, h.single_written hrenders⟩

end Invocation

end BranchCover
