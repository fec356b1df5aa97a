import BranchCover.Proofs.BearingClasses
import BranchCover.Proofs.Collecting
import BranchCover.Proofs.InLine
import BranchCover.Proofs.Private

/-! The texts in the plan of a class. They are names of the class and of its members, names of types behind
the marks of stubs, labels, comments and reports. So the plan has no line end of a sort if the class and the
options have none. -/
namespace BranchCover

open Line (Free Unbroken IsEnding)

structure Options.InLine (p : Char → Bool) (o : Options) : Prop where
  fakeMark : Free p o.fakeMark.toList
  stubMark : Free p o.stubMark.toList
  target : Free p o.targetName.toList
  indent : Free p o.indent.toList

section

variable {p : Char → Bool}

theorem free_mangle (hp : IsEnding p) {name cls : String} (hname : Free p name.toList)
    (hcls : Free p cls.toList) : Free p (mangle name (some cls)).toList := by
  have howner : Free p (cls.toList.dropWhile (· == '_')) :=
    hcls.subset (List.dropWhile_sublist _).subset
  unfold mangle
  dsimp only
  split_ifs
  · exact hname
  · rw [String.toList_ofList]
    exact Line.free_append.mpr ⟨(hp.free (by decide) : Free p ['_']),
      Line.free_append.mpr ⟨howner, hname⟩⟩
  · exact hname

theorem Unrenderable.unbroken_report (u : Unrenderable) : Unbroken u.report.toList := by
  cases u <;> decide +kernel

namespace Value

theorem inLine_placeholder (hp : IsEnding p) (q : Property) : (placeholder q).InLine p := by
  have hfixed : ∀ t ∈ placeholderTypes, Unbroken t.toList := by decide
  unfold placeholder
  split
  · rename_i name _
    split_ifs with hplaceholder harray
    · simpa using hp.free (hfixed name (List.contains_iff_mem.mp hplaceholder))
    · simpa using hp.free (hfixed name (List.contains_iff_mem.mp hplaceholder))
    · simp
    · simp
  · split <;> simp

theorem inLine_make (hp : IsEnding p) (q : Property) : (make q).InLine p := by
  unfold make
  split
  · split <;> simp [int]
  · split <;> simp
  · split <;> simp [ascii]
  · exact inLine_placeholder hp q

end Value

/-- The name of an argument is that of its parameter, and its value is one in force or a base value. -/
theorem inLine_baseArguments (hp : IsEnding p) {qs : List Property} (hqs : ∀ q ∈ qs, q.InLine p)
    {o : Overrides} (ho : ∀ name v, o.find? name = some v → v.InLine p) :
    ∀ a ∈ baseArguments qs o, Free p a.name.toList ∧ a.value.InLine p := by
  intro a ha
  obtain ⟨q, hq, rfl⟩ := List.mem_map.mp ha
  constructor
  · dsimp only
    cases hname : q.name with
    | none => exact Line.free_nil
    | some name => exact (hqs q hq).name name hname
  · dsimp only
    cases hv : o.find? (q.name.getD "") with
    | none => exact Value.inLine_make hp q
    | some v => exact ho _ v hv

theorem Class.InLine.parameters {c : Class} (hc : c.InLine p) : ∀ q ∈ c.parameters, q.InLine p := by
  intro q hq
  unfold Class.parameters at hq
  split at hq
  · cases hq
  · rename_i m hm
    exact (hc.methods m (List.mem_append_left _ (by simp [hm]))).parameters q hq

section

variable (hp : IsEnding p) {o : Options} {c : Class} (hc : c.InLine p)

include hp hc

section

variable (ho : o.InLine p) {m : Method} (hm : m.InLine p)

include ho hm

theorem Member.inLine_invocation {taken : Overrides}
    (htaken : ∀ name v, taken.find? name = some v → v.InLine p) :
    (Member.invocation ⟨m, some c, o⟩ taken).InLine p where
  receiver := by
    change Free p (if m.isStatic then c.name else o.targetName).toList
    split
    · exact hc.name
    · exact ho.target
  method := free_mangle hp hm.name hc.name
  keywords a ha _ := (inLine_baseArguments hp hm.parameters htaken a ha).1
  values a ha := (inLine_baseArguments hp hm.parameters htaken a ha).2

theorem Member.inLine_of_mem_scenarios {ss : List Scenario}
    (h : (Member.scenarios ⟨m, some c, o⟩).1 = .ok ss) {x : Scenario} (hx : x ∈ ss) : x.InLine p := by
  have hdriven : ∀ e ∈ m.trace, e.value.InLine p := fun e he =>
    Condition.inLine_of_mem_callValues (Method.value_mem_callValues he) p
  obtain rfl | ⟨n, taken, htaken, e, he, hrenders, rfl⟩ := scenario_cases h hx
  · exact ⟨hm.name, inLine_invocation hp hc ho hm nofun, nofun, nofun⟩
  · refine ⟨?label, inLine_invocation hp hc ho hm fun name v hv => ?taken, fun a ha => ?field,
      fun t ht => ?comment⟩
    case label =>
      exact .append (.append (.append hm.name (hp.free (by decide)))
        (hp.free (Numeral.unbroken_toString n))) (hp.free (by decide))
    case taken =>
      obtain ⟨d, hd, rfl⟩ := htaken name v hv
      exact hdriven d hd
    case field =>
      obtain ⟨symbol, hreads, rfl⟩ := (mem_assignments_iff rfl).mp ha
      obtain ⟨q, hfind⟩ := Option.isSome_iff_exists.mp hreads.isField
      have hname := List.find?_some hfind
      exact ⟨free_mangle hp ((hc.properties q (List.mem_of_find?_eq_some hfind)).name symbol
        (eq_of_beq hname)) hc.name, hdriven e he⟩
    case comment =>
      obtain rfl := Option.some.inj ht
      have htext := Value.free_rendered hp hrenders (hdriven e he)
      exact .append (.append (.append (hp.free (by decide)) (hm.conditions e he))
        (hp.free (by decide))) htext

theorem Suite.inLine_testsOf : (Suite.testsOf o c m).1.InLine p := by
  have hname : (Suite.testsOf o c m).1.name = m.name ∧
      ∀ e, (Suite.testsOf o c m).1.error = some e → ∃ u : Unrenderable, e = u.report := by
    rcases hrun : Member.scenarios ⟨m, some c, o⟩ with ⟨r, notes⟩
    cases r with
    | ok ss => simp [testsOf, hrun]
    | error u => simp [testsOf, hrun]
  refine ⟨hname.1 ▸ hm.name, fun e he => ?reason, fun x hx => ?scenario⟩
  case reason =>
    obtain ⟨u, rfl⟩ := hname.2 e he
    exact hp.free u.unbroken_report
  case scenario =>
    obtain ⟨ss, hss, hx⟩ := scenarios_of_mem_testsOf hx
    exact Member.inLine_of_mem_scenarios hp hc ho hm hss hx

end

/-- A stub is named by its mark and its type, and its members are attributes in the class. -/
theorem Stub.inLine_of_mem_collect {mark : String} (hmark : Free p mark.toList) {qs : List Property}
    (hqs : ∀ q ∈ qs, q.InLine p) {s : Stub} (hs : s ∈ collect o mark c.node qs) : s.InLine p := by
  have hcollected := collected_collect o mark c.node qs
  have htype : Free p s.typeName.toList := by
    obtain ⟨q, hq, -, hname, -⟩ := (hcollected.typed s.typeName).mp ⟨s, hs, rfl⟩
    exact (hqs q hq).typeName s.typeName hname
  refine ⟨?_, htype, fun m hm => ?_⟩
  · rw [hcollected.className s hs]
    exact .append hmark htype
  · obtain ⟨q, -, -, a, r, name, hr, -, -, target, span, hat, -⟩ :=
      (hcollected.reached s hs m.name).mp ⟨m, hm, rfl⟩
    exact Node.free_name hp (Node.Throughout.at? (hc.node r hr) hat) rfl

namespace Suite

section

variable (ho : o.InLine p)

include ho

theorem inLine_constructionOf : (constructionOf c (Stub.injected o c)).InLine p := by
  have hname : ∀ q ∈ c.parameters, Free p (passed (Stub.injected o c) q).name.toList := by
    intro q hq
    have hpassed : (passed (Stub.injected o c) q).name = q.name.getD "" := by
      unfold passed inject
      split
      · split <;> rfl
      · rfl
    rw [hpassed]
    cases hn : q.name with
    | none => exact Line.free_nil
    | some n => exact (hc.parameters q hq).name n hn
  have hvalue : ∀ q ∈ c.parameters, (passed (Stub.injected o c) q).value.InLine p := by
    intro q hq
    by_cases hstub : ∃ t, Stub.stubbedType? o q = some t ∧ q.isArray = false
    · obtain ⟨t, ht, harray⟩ := hstub
      have htype := (Stub.stubbedType?_eq_some_iff.mp ht).2.1
      rw [passed_value_of_stubbed hq ht harray, Value.inLine_objectStub]
      exact .append ho.stubMark ((hc.parameters q hq).typeName t htype)
    · rw [passed_value_of_unstubbed fun t ht => by simpa using not_and.mp (not_exists.mp hstub t) ht]
      exact Value.inLine_make hp q
  refine ⟨hc.name, Line.free_nil, fun a ha _ => ?_, fun a ha => ?_⟩ <;>
  · rw [constructionOf_args] at ha
    obtain ⟨q, hq, rfl⟩ := List.mem_map.mp ha
    first | exact hname q hq | exact hvalue q hq

theorem inLine_of_mem_wiringOf {taken : List String} {w : Wiring}
    (hw : w ∈ wiringOf o c (Stub.fakes o c) taken) : Free p w.attr.toList ∧ Free p w.stub.toList := by
  obtain ⟨-, q, hq, n, t, hn, ht, -, -, rfl⟩ := mem_wiringOf_iff.mp hw
  have htype := (Stub.stubbedType?_eq_some_iff.mp ht).2.1
  exact ⟨free_mangle hp ((hc.properties q hq).name n hn) hc.name,
    .append ho.fakeMark ((hc.properties q hq).typeName t htype)⟩

end

theorem inLine_of_mem_importsOf {construction : Option Invocation} {methods : List MethodTests}
    {e : String × List String} (he : e ∈ importsOf c.module c.name construction methods) :
    Free p e.1.toList ∧ ∀ n ∈ e.2, Free p n.toList := by
  have hfixed : ∀ m ∈ ["asyncio", "io", "pytest", "module"], Unbroken m.toList := by decide
  have hwhole : ∀ e ∈ wholeImports construction methods, e.1 ∈ ["asyncio", "io", "pytest", "module"] := by
    unfold wholeImports
    split <;> split <;> simp
  obtain ⟨m, names⟩ := e
  rw [importsOf_eq_set] at he
  rcases (Imports.mem_set_iff (nodup_wholeImports construction methods)).mp he with
    ⟨rfl, rfl⟩ | ⟨-, hmem⟩
  · refine ⟨?_, fun n hn => List.mem_singleton.mp hn ▸ hc.name⟩
    unfold homeOf
    split
    · exact hp.free (hfixed "module" (by simp))
    · exact hc.module
  · rw [wholeImports_plain construction methods _ hmem]
    exact ⟨hp.free (hfixed m (hwhole _ hmem)), nofun⟩

/-- The plan of a class has no line end of a sort if the class and the options have none. -/
theorem inLine_plan (ho : o.InLine p) {sourceName : String} (hsource : Free p sourceName.toList) :
    (plan o sourceName c).1.InLine p o where
  target := ho.target
  className := hc.name
  sourceName := hsource
  imports _ he := inLine_of_mem_importsOf hp hc he
  stubs t ht := by
    rcases List.mem_append.mp ht with ht | ht
    · exact Stub.inLine_of_mem_collect hp hc ho.fakeMark hc.properties ht
    · rw [Stub.injected_eq_collect] at ht
      exact Stub.inLine_of_mem_collect hp hc ho.stubMark hc.parameters ht
  construction i hi := by
    obtain rfl := Option.some.inj hi
    exact inLine_constructionOf hp hc ho
  wiring w hw := inLine_of_mem_wiringOf hp hc ho hw
  methods t ht := by
    obtain ⟨⟨t, notes⟩, htest, rfl⟩ := List.mem_map.mp ht
    obtain ⟨m, hm, htest⟩ := List.mem_map.mp htest
    have htests := inLine_testsOf hp hc ho (hc.methods m (List.mem_append_right _ hm))
    rwa [htest] at htests

end Suite

end

end

end BranchCover
