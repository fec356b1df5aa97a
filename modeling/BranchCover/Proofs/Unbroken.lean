import BranchCover.Proofs.Importing
import BranchCover.Proofs.LineEnds

/-! Texts without line ends. A string literal has none, whatever the string holds, since no line end is
printable; the text of a number has none; and so the text of a value or of a use has none but those of the
names in it. -/
namespace BranchCover

open Line (Free Unbroken IsEnding isEnd)

namespace Numeral

/-- The characters of numbers. -/
def isCharacter (c : Char) : Bool :=
  c.isDigit || "+-.aefin".toList.contains c

theorem isCharacter_of_mem_toDigits {n : Nat} {c : Char} (h : c ∈ Nat.toDigits 10 n) :
    isCharacter c = true := by
  have hdigit := Nat.isDigit_of_mem_toDigits (by decide) (by decide) h
  simp [isCharacter, hdigit]

theorem isCharacter_of_mem_intText {n : Int} {c : Char} (h : c ∈ intText n) :
    isCharacter c = true := by
  unfold intText at h
  split at h
  · rcases List.mem_cons.mp h with rfl | h
    · decide
    · exact isCharacter_of_mem_toDigits h
  · exact isCharacter_of_mem_toDigits h

theorem isCharacter_of_mem_digits {x : Binary64} {c : Char} (h : c ∈ (Shortest.digits x).digits) :
    isCharacter c = true := by
  have hsub : ∀ cs : List Char, c ∈ Shortest.dropZeros cs → c ∈ cs := by
    intro cs hc
    have hc' := List.mem_reverse.mp hc
    exact List.mem_reverse.mp ((List.dropWhile_sublist _).mem hc')
  exact isCharacter_of_mem_toDigits (hsub _ h)

theorem isCharacter_of_mem_exponentText {f : RealFormat} {e : Int} {c : Char}
    (h : c ∈ (f.exponentText e).toList) : isCharacter c = true := by
  have hsign : ∀ c ∈ (if e < 0 then "e-" else "e+").toList, isCharacter c = true := by
    split <;> exact List.all_eq_true.mp (by decide)
  have hzero : isCharacter '0' = true := by decide
  simp only [RealFormat.exponentText, String.toList_append, String.toList_ofList, List.mem_append] at h
  rcases h with h | h | h
  · exact hsign c h
  · rwa [List.eq_of_mem_replicate h]
  · exact isCharacter_of_mem_toDigits h

theorem isCharacter_of_mem_digitsText {f : RealFormat} {d : Shortest.Digits} {c : Char}
    (hd : ∀ c ∈ d.digits, isCharacter c = true) (h : c ∈ (f.digitsText d).toList) :
    isCharacter c = true := by
  have hstart : ∀ c ∈ "0.".toList, isCharacter c = true := List.all_eq_true.mp (by decide)
  have hzeros : ∀ n, c ∈ List.replicate n '0' → isCharacter c = true := by
    intro n hc
    rw [List.eq_of_mem_replicate hc]
    decide
  have hpart : ∀ (t : String) (cs : List Char),
      c ∈ (if cs.isEmpty then t else "." ++ String.ofList cs).toList → (∀ c ∈ t.toList, isCharacter c = true) → (∀ c ∈ cs, c ∈ d.digits) → isCharacter c = true := by
    intro t cs hc ht hcs
    split at hc
    · exact ht c hc
    · simp only [String.toList_append, String.toList_ofList, List.mem_append] at hc
      rcases hc with hc | hc
      · rw [List.mem_singleton.mp hc]
        decide
      · exact hd c (hcs c hc)
  unfold RealFormat.digitsText at h
  split at h
  · split at h
    · simp only [String.toList_append, String.toList_ofList, List.mem_append] at h
      rcases h with h | h | h
      · exact hstart c h
      · exact hzeros _ h
      · exact hd c h
    · simp only [String.toList_append, String.toList_ofList, List.mem_append] at h
      rcases h with (h | h) | h
      · exact hd c (List.mem_of_mem_take h)
      · exact hzeros _ h
      · refine hpart _ _ h ?_ fun c => List.mem_of_mem_drop
        split <;> exact List.all_eq_true.mp (by decide)
  · simp only [String.toList_append, String.toList_ofList, List.mem_append] at h
    rcases h with (h | h) | h
    · exact hd c (List.mem_of_mem_take h)
    · exact hpart _ _ h (List.all_eq_true.mp (by decide)) fun c => List.mem_of_mem_drop
    · exact isCharacter_of_mem_exponentText h

theorem isCharacter_of_mem_text {x : Binary64} {c : Char}
    (h : c ∈ (RealFormat.standard.text x).toList) : isCharacter c = true := by
  unfold RealFormat.text at h
  split at h
  · exact List.all_eq_true.mp (by decide) c h
  · rw [String.toList_append, List.mem_append] at h
    rcases h with h | h
    · split at h <;> exact List.all_eq_true.mp (by decide) c h
    · split at h
      · exact List.all_eq_true.mp (by decide) c h
      · split at h
        · split at h <;> exact List.all_eq_true.mp (by decide) c h
        · exact isCharacter_of_mem_digitsText (fun c => isCharacter_of_mem_digits) h

theorem isEnd_of_isCharacter {c : Char} (h : isCharacter c = true) : isEnd c.toNat = false := by
  have hsigns : "+-.aefin".toList.all (fun c => !isEnd c.toNat) = true := by decide
  rcases Bool.or_eq_true_iff.mp h with hdigit | hsign
  · exact Word.isEnd_of_isAlphanum (by simp [Char.isAlphanum, hdigit])
  · simpa using List.all_eq_true.mp hsigns c (List.contains_iff_mem.mp hsign)

theorem unbroken_of_characters {cs : List Char} (h : ∀ c ∈ cs, isCharacter c = true) : Unbroken cs :=
  fun c hc => isEnd_of_isCharacter (h c hc)

theorem unbroken_toString (n : Nat) : Unbroken (toString n).toList := by
  have hdigits : (toString n).toList = Nat.toDigits 10 n := by
    change n.repr.toList = _
    rw [Nat.repr_eq_ofList_toDigits, String.toList_ofList]
  rw [hdigits]
  exact unbroken_of_characters fun _ => isCharacter_of_mem_toDigits

end Numeral

namespace Quoted

theorem unbroken_hex (width n : Nat) : Unbroken (hex width n) := by
  have hdigit : ∀ m : Nat, m < 16 → isEnd (hexDigit m).toNat = false := by decide
  induction width generalizing n with
  | zero => exact Line.free_nil
  | succ width ih =>
    have hlast := hdigit (n % 16) (Nat.mod_lt n (by decide))
    exact Line.free_append.mpr ⟨ih (n / 16), Line.free_cons.mpr ⟨hlast, Line.free_nil⟩⟩

theorem unbroken_unit {q : Char} (hq : isEnd q.toNat = false) (c : CodePoint) :
    Unbroken (unit Printable.test q c) := by
  have hslash : isEnd '\\'.toNat = false := by decide
  by_cases hself : (c.val == q.toNat || c.val == 0x5C) = true
  · have hchar : isEnd (Char.ofNat c.val).toNat = false := by
      rcases Bool.or_eq_true_iff.mp hself with h | h
      · rw [eq_of_beq h, Char.ofNat_toNat]
        exact hq
      · rw [eq_of_beq h]
        decide
    rw [unit, if_pos hself]
    exact Line.free_cons.mpr ⟨hslash, Line.free_cons.mpr ⟨hchar, Line.free_nil⟩⟩
  · have hhex : ∀ (mark : Char) (width : Nat), isEnd mark.toNat = false →
        Unbroken ('\\' :: mark :: hex width c.val) := fun mark width hmark =>
      Line.free_cons.mpr ⟨hslash, Line.free_cons.mpr ⟨hmark, unbroken_hex width c.val⟩⟩
    rw [unit, if_neg hself]
    split_ifs with htab hfeed hreturn hprintable hbyte hshort
    · decide
    · decide
    · decide
    · exact Line.free_cons.mpr ⟨Line.isEnd_ofNat (Printable.isEnd_of_test hprintable), Line.free_nil⟩
    · exact hhex 'x' 2 (by decide)
    · exact hhex 'u' 4 (by decide)
    · exact hhex 'U' 8 (by decide)

/-- A string literal has no line ends, whatever the string holds. -/
theorem unbroken_literal (t : Text) : Unbroken (literal t) := by
  have hquote : isEnd (quoteFor t).toNat = false := by
    unfold quoteFor
    split <;> decide
  have hunits : Unbroken (t.flatMap (unit Printable.test (quoteFor t))) :=
    Line.free_flatMap fun c _ => unbroken_unit hquote c
  exact Line.free_cons.mpr ⟨hquote, Line.free_append.mpr
    ⟨hunits, Line.free_cons.mpr ⟨hquote, Line.free_nil⟩⟩⟩

theorem free_escape {p : Char → Bool} (hp : IsEnding p) {s : String} (h : Free p s.toList) :
    Free p (escape s).toList := by
  rw [toList_escape]
  have hmarks : ∀ e ∈ marks, isEnd e.2.toNat = false := by decide
  refine Line.free_flatMap fun c hc => ?_
  rcases escapeChar_forms c with ⟨m, hm, hmark⟩ | ⟨-, hself⟩
  · rw [hmark]
    exact hp.free (Line.free_cons.mpr ⟨by decide, Line.free_cons.mpr ⟨hmarks _ hm, Line.free_nil⟩⟩)
  · rw [hself]
    exact Line.free_cons.mpr ⟨h c hc, Line.free_nil⟩

end Quoted

theorem Name.free_testName {p : Char → Bool} (hp : IsEnding p) {method : String}
    (h : Free p method.toList) (taken : List String) : Free p (testName method taken).toList := by
  have hbase : Free p (testBase method).toList := by
    have hinner : Free p
        ((method.toList.dropWhile (· == '_')).reverse.dropWhile (· == '_')).reverse := by
      intro c hc
      have hleft := (List.dropWhile_sublist _).mem (List.mem_reverse.mp hc)
      exact h c ((List.dropWhile_sublist _).mem (List.mem_reverse.mp hleft))
    refine .append (hp.free (by decide)) ?_
    split
    · exact hp.free (by decide)
    · rwa [String.toList_ofList]
  have hcandidate : ∀ n, Free p (candidate (testBase method) n).toList := by
    intro n
    cases n with
    | zero => exact hbase
    | succ n =>
      exact .append (.append hbase (hp.free (by decide))) (hp.free (Numeral.unbroken_toString (n + 2)))
  unfold testName fresh
  cases hfind : ((List.range (taken.length + 1)).map (candidate (testBase method))).find?
      (!taken.contains ·) with
  | none => exact hbase
  | some name =>
    obtain ⟨n, -, rfl⟩ := List.mem_map.mp (List.mem_of_find?_eq_some hfind)
    exact hcandidate n

namespace Value

theorem source_of_mem_sources {vs : List Value} {ts : List (List Char)} (h : sources vs = .ok ts)
    {t : List Char} (ht : t ∈ ts) : ∃ v ∈ vs, v.source = .ok t := by
  induction vs generalizing ts with
  | nil =>
    obtain rfl := Except.ok.inj h
    cases ht
  | cons v vs ih =>
    rw [sources] at h
    obtain ⟨u, hu, h⟩ := bind_eq_ok.mp h
    obtain ⟨us, hus, h⟩ := bind_eq_ok.mp h
    obtain rfl := Except.ok.inj h
    rcases List.mem_cons.mp ht with rfl | ht
    · exact ⟨v, List.mem_cons_self, hu⟩
    · obtain ⟨w, hw, hsource⟩ := ih hus ht
      exact ⟨w, List.mem_cons_of_mem v hw, hsource⟩

def InLine (p : Char → Bool) (v : Value) : Prop :=
  ∀ name, (objectStub name).Within v → Free p name.toList

section

variable {p : Char → Bool}

@[simp] theorem inLine_number (n : Numeral) : (number n).InLine p :=
  fun _ h => nomatch h

@[simp] theorem inLine_text (t : Text) : (text t).InLine p :=
  fun _ h => nomatch h

@[simp] theorem inLine_boolean (b : Bool) : (boolean b).InLine p :=
  fun _ h => nomatch h

@[simp] theorem inLine_null : null.InLine p :=
  fun _ h => nomatch h

@[simp] theorem inLine_objectStub {name : String} : (objectStub name).InLine p ↔ Free p name.toList := by
  simp [InLine]

@[simp] theorem inLine_arrayOf {items : List Value} :
    (arrayOf items).InLine p ↔ ∀ v ∈ items, v.InLine p := by
  simp only [InLine, stub_within_arrayOf]
  constructor
  · intro h v hv name hname
    exact h name ⟨v, hv, hname⟩
  · rintro h name ⟨v, hv, hname⟩
    exact h v hv name hname

end

theorem unbroken_numberSource {n : Numeral} {cs : List Char} (h : numberSource n = .ok cs) :
    Unbroken cs := by
  cases n with
  | int n =>
    rw [numberSource] at h
    split at h
    · cases h
    · obtain rfl := pure_eq_ok.mp h
      exact Numeral.unbroken_of_characters fun _ => Numeral.isCharacter_of_mem_intText
  | real x =>
    have htext := Numeral.unbroken_of_characters fun _ => Numeral.isCharacter_of_mem_text (x := x)
    rw [numberSource] at h
    split at h
    · obtain rfl := pure_eq_ok.mp h
      exact htext
    · obtain rfl := pure_eq_ok.mp h
      exact Line.free_append.mpr ⟨Line.free_append.mpr ⟨by decide, htext⟩, by decide⟩

section

variable {p : Char → Bool} (hp : IsEnding p)

include hp

theorem free_stubSource {name : String} (h : Free p name.toList) : Free p (stubSource name) := by
  unfold stubSource
  split_ifs
  · exact hp.free (by decide)
  · exact hp.free (by decide)
  · exact hp.free (by decide)
  · exact Line.free_append.mpr ⟨h, hp.free (by decide)⟩

/-- By the structure of the value. -/
theorem free_source (v : Value) : ∀ {cs : List Char}, v.source = .ok cs → v.InLine p → Free p cs := by
  cases v with
  | number n =>
    intro cs hcs _
    rw [source] at hcs
    exact hp.free (unbroken_numberSource hcs)
  | text t =>
    intro cs hcs _
    obtain rfl := pure_eq_ok.mp hcs
    exact hp.free (Quoted.unbroken_literal t)
  | boolean b =>
    intro cs hcs _
    obtain rfl := pure_eq_ok.mp hcs
    cases b <;> exact hp.free (by decide)
  | null =>
    intro cs hcs _
    obtain rfl := pure_eq_ok.mp hcs
    exact hp.free (by decide)
  | objectStub name =>
    intro cs hcs h
    obtain rfl := pure_eq_ok.mp hcs
    exact free_stubSource hp (h name .here)
  | unspecified =>
    intro cs hcs _
    cases hcs
  | arrayOf items =>
    intro cs hcs h
    rw [source] at hcs
    obtain ⟨ts, hts, hcs⟩ := bind_eq_ok.mp hcs
    obtain rfl := pure_eq_ok.mp hcs
    have hitems : ∀ t ∈ ts, Free p t := by
      intro t ht
      obtain ⟨w, hw, hsource⟩ := source_of_mem_sources hts ht
      exact free_source w hsource fun name hname => h name (.item hw hname)
    have hjoin : Free p (Piece.join [',', ' '] ts) := Line.free_join (hp.free (by decide)) hitems
    exact Line.free_append.mpr ⟨(hp.free (by decide) : Free p ['[']),
      Line.free_append.mpr ⟨hjoin, hp.free (by decide)⟩⟩
termination_by sizeOf v
decreasing_by
  have := List.sizeOf_lt_of_mem hw
  simp
  omega

theorem free_rendered {v : Value} (hrenders : v.Renders) (h : v.InLine p) :
    Free p v.rendered.toList := by
  obtain ⟨cs, hcs, hrendered⟩ := bind_eq_ok.mp hrenders.sourceText_eq
  rw [← pure_eq_ok.mp hrendered, String.toList_ofList]
  exact free_source hp v hcs h

end

end Value

namespace Invocation

structure InLine (p : Char → Bool) (i : Invocation) : Prop where
  receiver : Free p i.receiver.toList
  method : Free p i.method.toList
  keywords : ∀ a ∈ i.args, a.keyword = true → Free p a.name.toList
  values : ∀ a ∈ i.args, a.value.InLine p

variable {p : Char → Bool} {i : Invocation}

theorem InLine.target (hp : IsEnding p) (h : i.InLine p) : Free p i.target.toList := by
  unfold Invocation.target
  split
  · exact h.receiver
  · exact .append (.append h.receiver (hp.free (by decide))) h.method

theorem InLine.written (hp : IsEnding p) (h : i.InLine p) (hrenders : ∀ a ∈ i.args, a.value.Renders) :
    Free p i.written.toList := by
  have htarget := h.target hp
  have hvalue : ∀ a ∈ i.args, Free p a.value.rendered.toList := fun a ha =>
    Value.free_rendered hp (hrenders a ha) (h.values a ha)
  have hargs : ∀ t ∈ i.args.map Argument.rendered, Free p t.toList := by
    intro t ht
    obtain ⟨a, ha, rfl⟩ := List.mem_map.mp ht
    unfold Argument.rendered
    split
    · rename_i hkeyword
      exact .append (.append (h.keywords a ha hkeyword) (hp.free (by decide))) (hvalue a ha)
    · exact hvalue a ha
  unfold Invocation.written
  split
  · have hlist := Line.free_intercalate (hp.free (by decide) : Free p ", ".toList) hargs
    exact .append (.append (.append htarget (hp.free (by decide))) hlist) (hp.free (by decide))
  · exact htarget
  · split
    · exact .append htarget (hp.free (by decide))
    · rename_i a ha
      exact .append (.append htarget (hp.free (by decide))) (hvalue a (List.mem_of_mem_head? ha))
  · exact .append (hp.free (by decide)) htarget

end Invocation

end BranchCover
