import BranchCover.Proofs.Planned
import BranchCover.Proofs.Writing

/-! The lines of a test module, part by part, and that writing a plan puts exactly these on the page.
It does not fail: the only texts that may be missing are those of the values that the plan holds, and
all of these have texts. -/
namespace BranchCover

namespace Value

/-- The text of a value; nothing is said of a value without one. -/
def rendered (v : Value) : String :=
  match v.sourceText with
  | .ok t => t
  | .error _ => ""

theorem Renders.sourceText_eq {v : Value} (h : v.Renders) : v.sourceText = .ok v.rendered := by
  obtain ⟨t, ht⟩ := h
  simp [rendered, ht]

end Value

/-- The statement that sets a field of the instance under test. -/
def FieldAssign.statement (o : Options) (a : FieldAssign) : String :=
  s!"{o.targetName}.{a.name} = {a.value.rendered}"

/-- The lines inside of a scenario, given the text of its call: its fields are set, and then comes the
call. -/
def Scenario.inside (o : Options) (s : Scenario) (call : String) : List Row :=
  (match s.comment with
    | some c => if c = "" then [] else [(0, s!"# {c}")]
    | none => []) ++
  s.assignments.map (fun a => (0, a.statement o)) ++
  [(0, if s.invocation.awaited then s!"asyncio.run({call})" else call)]

def Scenario.rows (o : Options) (s : Scenario) (call : String) : List Row :=
  [(0, "try:")] ++ (s.inside o call).map Row.inward ++
  [(0, "except Exception as err:"),
    (1, s!"print(\"Error in {Quoted.escape s.label}: \" + str(err))")]

namespace Argument

/-- The text of an argument. -/
def rendered (a : Argument) : String :=
  if a.keyword then a.name ++ "=" ++ a.value.rendered else a.value.rendered

theorem source_eq_ok_iff {a : Argument} {t : String} :
    a.source = .ok t ↔ a.value.Renders ∧ t = a.rendered := by
  constructor
  · intro h
    obtain ⟨u, hu, ht⟩ := bind_eq_ok.mp h
    have hrendered : a.value.rendered = u := by simp [Value.rendered, hu]
    exact ⟨⟨u, hu⟩, by rw [rendered, hrendered, ← pure_eq_ok.mp ht]⟩
  · rintro ⟨hrenders, rfl⟩
    exact bind_eq_ok.mpr ⟨_, hrenders.sourceText_eq, rfl⟩

end Argument

namespace Invocation

/-- The text of an invocation whose values have texts. -/
def written (i : Invocation) : String :=
  match i.access with
  | none => i.target ++ "(" ++ ", ".intercalate (i.args.map Argument.rendered) ++ ")"
  | some .get => i.target
  | some .set =>
    match i.args.head? with
    | none => i.target ++ " = None"
    | some a => i.target ++ " = " ++ a.value.rendered
  | some .delete => "del " ++ i.target

theorem source_eq_written {i : Invocation} (h : ∀ a ∈ i.args, a.value.Renders) :
    i.source = .ok i.written := by
  have hargs : i.args.mapM Argument.source = .ok (i.args.map Argument.rendered) :=
    mapM_eq_ok_iff.mpr <| List.forall₂_map_right_iff.mpr <| List.forall₂_same.mpr fun a ha =>
      Argument.source_eq_ok_iff.mpr ⟨h a ha, rfl⟩
  unfold source written
  rw [hargs]
  cases i.access with
  | none => rfl
  | some access =>
    cases access with
    | get => rfl
    | delete => rfl
    | set =>
      cases hi : i.args with
      | nil => rfl
      | cons a rest =>
        have ha : a.value.sourceText = .ok a.value.rendered := (h a (by simp [hi])).sourceText_eq
        exact bind_eq_ok.mpr ⟨_, rfl, bind_eq_ok.mpr ⟨_, ha, rfl⟩⟩

theorem source_eq_ok_iff {i : Invocation} {text : String} :
    i.source = .ok text ↔ (∀ a ∈ i.args, a.value.Renders) ∧ text = i.written := by
  constructor
  · intro h
    obtain ⟨ts, hts, -⟩ := bind_eq_ok.mp h
    have hrenders : ∀ a ∈ i.args, a.value.Renders := by
      intro a ha
      obtain ⟨t, -, ht⟩ := exists_mem_of_mapM hts a ha
      exact (Argument.source_eq_ok_iff.mp ht).1
    exact ⟨hrenders, Except.ok.inj (h.symm.trans (source_eq_written hrenders))⟩
  · rintro ⟨hrenders, rfl⟩
    exact source_eq_written hrenders

/-- The text of an invocation; nothing is said of an invocation without one. -/
def rendered (i : Invocation) : String :=
  match i.source with
  | .ok t => t
  | .error _ => ""

theorem rendered_eq_written {i : Invocation} (h : ∀ a ∈ i.args, a.value.Renders) :
    i.rendered = i.written := by
  simp [rendered, source_eq_written h]

theorem source_eq_rendered {i : Invocation} (h : ∀ a ∈ i.args, a.value.Renders) :
    i.source = .ok i.rendered := by
  rw [rendered_eq_written h, source_eq_written h]

end Invocation

namespace Imports

/-- The modules that are imported as a whole, but for the test framework. -/
def plain (i : Imports) : Imports :=
  i.filter fun (m, names) => names.isEmpty && m != "pytest"

/-- The lines that take names from modules. -/
def fromLines (i : Imports) : List String :=
  (i.filter fun (_, names) => !names.isEmpty).map fun (m, names) =>
    s!"from {m} import " ++ ", ".intercalate names

def lines (i : Imports) : List String :=
  i.plain.map (fun (m, _) => s!"import {m}") ++ ((if !i.plain.isEmpty then [""] else []) ++
  ((if i.any (·.1 == "pytest") then ["import pytest", ""] else []) ++ i.fromLines))

end Imports

def StubMember.rows (m : StubMember) : List Row :=
  [(0, ""), (0, s!"def {m.name}(" ++ ", ".intercalate (Suite.stubParams m) ++ "):"),
    (1, "return None")]

/-- The lines of a stub class: its members that are not called come first. -/
def Stub.rows (s : Stub) : List Row :=
  let fields := s.members.filter (!·.isCallable)
  (0, s!"class {s.className}:") ::
  ((0, s!"\"\"\"Stands in for {s.typeName}.\"\"\"") ::
    ((if !fields.isEmpty then [(0, "")] else []) ++
    (fields.map (fun m => (0, s!"{m.name} = None")) ++
    (s.members.filter (·.isCallable)).flatMap StubMember.rows))).map Row.inward

def MethodTests.rows (o : Options) (name : String) (t : MethodTests) : List Row :=
  (0, s!"def {name}(self, {o.targetName}):") ::
  ((match t.error with
      | some e => [(0, s!"# no scenarios: {e}")]
      | none => []) ++
    (t.scenarios.flatMap (fun x : Scenario => x.rows o x.invocation.rendered) ++
    [(0, s!"assert {o.targetName}")])).map Row.inward

namespace Suite

/-- How the instance under test is made. -/
def making (s : Suite) : Invocation :=
  s.construction.getD ⟨s.className, "", [], false, none⟩

def fixtureRows (o : Options) (s : Suite) : List Row :=
  [(0, "@pytest.fixture"), (0, s!"def {o.targetName}(self):")] ++
  ((0, s!"{o.targetName} = {s.making.rendered}") ::
    (s.wiring.map (fun w => (0, s!"{o.targetName}.{w.attr} = {w.stub}()")) ++
    [(0, s!"return {o.targetName}")])).map Row.inward

/-- The lines of the test functions, each under a name that is not taken yet. -/
def methodRows (o : Options) : (taken : List String) → List MethodTests → List Row
  | _, [] => []
  | taken, t :: ts =>
    let name := Name.testName t.name taken
    (0, "") :: (t.rows o name ++ methodRows o (name :: taken) ts)

/-- The lines of the stub classes and of the test class. -/
def classRows (o : Options) (s : Suite) : List Row :=
  s.stubs.flatMap (fun t => (0, "") :: (0, "") :: t.rows) ++
  (0, "") :: (0, "") :: (0, s!"class Test{s.className}:") ::
  (s.fixtureRows o ++
    (0, "") :: (0, s!"def test_should_create(self, {o.targetName}):") ::
    ([(0, s!"assert {o.targetName}")].map Row.inward ++
    methodRows o ["test_should_create"] s.methods)).map Row.inward

def rows (o : Options) (s : Suite) : List Row :=
  (0, s.docLine) :: (0, "") :: (s.imports.lines.map ((0, ·)) ++ s.classRows o)

/-- The lines of the text of a test module. -/
def textLines (o : Options) (s : Suite) : List String :=
  (s.rows o).map (Row.text o.indent)

open Emission

theorem emitScenario_writes (o : Options) {s : Scenario} {call : String}
    (h : ∀ v ∈ s.values, v.Renders) (hcall : s.invocation.source = .ok call) :
    Writes (emitScenario o s) (s.rows o call) := by
  have hassign : ∀ a ∈ s.assignments, Writes (emitAssign o a) [(0, a.statement o)] := by
    intro a ha
    have hvalue : a.value.Renders := h _ (List.mem_append_right _ (List.mem_map_of_mem ha))
    exact .lift hvalue.sourceText_eq (.line _)
  have hbody : Writes (do
      s.assignments.forM (emitAssign o)
      let call ← liftM s.invocation.source
      line (if s.invocation.awaited then s!"asyncio.run({call})" else call))
      (s.assignments.map (fun a => (0, a.statement o)) ++
        [(0, if s.invocation.awaited then s!"asyncio.run({call})" else call)]) :=
    .bind (.each hassign) (.lift hcall (.line _))
  have hinside : Writes (do
      match s.comment with
      | some c => if c != "" then line s!"# {c}"
      | none => Pure.pure ()
      s.assignments.forM (emitAssign o)
      let call ← liftM s.invocation.source
      line (if s.invocation.awaited then s!"asyncio.run({call})" else call)) (s.inside o call) := by
    unfold Scenario.inside
    cases hc : s.comment with
    | none => exact hbody
    | some c =>
      by_cases hempty : c = ""
      · simp only [hempty, bne_self_eq_false, Bool.false_eq_true, if_false, if_true]
        exact hbody
      · simp only [hempty, bne_iff_ne, ne_eq, not_false_eq_true, if_true, if_false]
        rw [List.append_assoc]
        exact .bind (.line _) hbody
  have hrows : s.rows o call = [(0, "try:")] ++ ((s.inside o call).map Row.inward ++
      ([(0, "except Exception as err:")] ++
        [(0, s!"print(\"Error in {Quoted.escape s.label}: \" + str(err))")].map Row.inward)) := by
    simp [Scenario.rows, Row.inward]
  rw [hrows]
  exact .bind (.line _) (.bind hinside.inner (.bind (.line _) (.inner (.line _))))

theorem emitImports_writes (i : Imports) : Writes (emitImports i) (i.lines.map (0, ·)) := by
  have hplain := Writes.lines (i.plain.map fun (m, _) => s!"import {m}")
  have hrest : Writes (do
      if i.any (·.1 == "pytest") then do
        line "import pytest"
        blank
      lines i.fromLines)
      ((if i.any (·.1 == "pytest") then ["import pytest", ""] else []).map (0, ·) ++
        i.fromLines.map (0, ·)) := by
    by_cases hpytest : i.any (·.1 == "pytest") = true
    · simp only [hpytest, if_true]
      exact .cons _ (.cons _ (.lines _))
    · simp only [hpytest]
      exact .lines _
  have hall := hplain.bind (.guarded (c := (!i.plain.isEmpty) = true) (.line "") hrest)
  have hlines : i.lines.map ((0, ·) : String → Row) =
      (i.plain.map fun (m, _) => s!"import {m}").map (0, ·) ++
        ((if !i.plain.isEmpty then [(0, "")] else []) ++
          ((if i.any (·.1 == "pytest") then ["import pytest", ""] else []).map (0, ·) ++
            i.fromLines.map (0, ·))) := by
    simp only [Imports.lines, List.map_append, apply_ite (List.map _), List.map_cons, List.map_nil]
  rw [hlines]
  exact hall

theorem emitStub_writes (s : Stub) : Writes (emitStub s) s.rows := by
  have hfields := Writes.lines ((s.members.filter (!·.isCallable)).map fun m => s!"{m.name} = None")
  have hmethods : Writes ((s.members.filter (·.isCallable)).forM emitStubMethod)
      ((s.members.filter (·.isCallable)).flatMap StubMember.rows) :=
    .forM fun m _ => .cons _ (.cons _ (.inner (.line _)))
  rw [List.map_map] at hfields
  have hmembers := hfields.bind hmethods
  exact .cons _ (.inner (.cons _ (.guarded (.line "") hmembers)))

theorem emitFixture_writes (o : Options) {s : Suite}
    (h : ∀ i ∈ s.construction, ∀ a ∈ i.args, a.value.Renders) :
    Writes (emitFixture o s) (s.fixtureRows o) := by
  have hmade : s.making.source = .ok s.making.rendered := by
    apply Invocation.source_eq_rendered
    unfold making
    cases hc : s.construction with
    | none => simp
    | some i => exact h i hc
  have hwiring := Writes.lines (s.wiring.map fun w => s!"{o.targetName}.{w.attr} = {w.stub}()")
  rw [List.map_map] at hwiring
  have hinside := Writes.cons s!"{o.targetName} = {s.making.rendered}"
    (hwiring.bind (.line s!"return {o.targetName}"))
  exact .cons _ (.cons _ (.inner (.lift hmade hinside)))

theorem emitMethod_writes (o : Options) (name : String) {t : MethodTests}
    (h : ∀ s ∈ t.scenarios, ∀ v ∈ s.values, v.Renders) :
    Writes (emitMethod o name t) (t.rows o name) := by
  have hscenarios : Writes (t.scenarios.forM (emitScenario o))
      (t.scenarios.flatMap fun x => x.rows o x.invocation.rendered) := by
    apply Writes.forM
    intro x hx
    have hargs : ∀ a ∈ x.invocation.args, a.value.Renders := fun a ha =>
      h x hx _ (List.mem_append_left _ (List.mem_map_of_mem ha))
    exact emitScenario_writes o (h x hx) (Invocation.source_eq_rendered hargs)
  have hrest := hscenarios.bind (.line s!"assert {o.targetName}")
  refine .cons _ (.inner ?_)
  cases t.error with
  | none => exact hrest
  | some e => exact .cons _ hrest

theorem emitMethods_writes (o : Options) {ts : List MethodTests}
    (h : ∀ t ∈ ts, ∀ s ∈ t.scenarios, ∀ v ∈ s.values, v.Renders) (taken : List String) :
    Writes (emitMethods o taken ts) (methodRows o taken ts) := by
  induction ts generalizing taken with
  | nil => exact .nil
  | cons t ts ih =>
    have hhead := emitMethod_writes o (Name.testName t.name taken) (h t List.mem_cons_self)
    have htail := ih (fun x hx => h x (List.mem_cons_of_mem _ hx)) (Name.testName t.name taken :: taken)
    exact .cons "" (hhead.bind htail)

theorem mem_values_of_scenario {construction : Option Invocation} {methods : List MethodTests}
    {t : MethodTests} {x : Scenario} {v : Value} (ht : t ∈ methods) (hx : x ∈ t.scenarios)
    (hv : v ∈ x.values) : v ∈ values construction methods :=
  List.mem_append_right _ (List.mem_flatMap.mpr ⟨t, ht, List.mem_flatMap.mpr ⟨x, hx, hv⟩⟩)

theorem making_renders {s : Suite} (h : ∀ v ∈ values s.construction s.methods, v.Renders) :
    ∀ a ∈ s.making.args, a.value.Renders := by
  unfold making
  cases hc : s.construction with
  | none => exact fun _ ha => nomatch ha
  | some i =>
    intro a ha
    refine h _ (List.mem_append_left _ (List.mem_flatMap.mpr ⟨i, ?_, List.mem_map_of_mem ha⟩))
    simp [hc]

/-- A plan whose values all have texts is written as its lines. -/
theorem emitModule_writes (o : Options) {s : Suite}
    (h : ∀ v ∈ values s.construction s.methods, v.Renders) :
    Writes (emitModule o s) (s.rows o) := by
  have hmade : ∀ i ∈ s.construction, ∀ a ∈ i.args, a.value.Renders := by
    intro i hi a ha
    refine h _ (List.mem_append_left _ (List.mem_flatMap.mpr ⟨i, ?_, List.mem_map_of_mem ha⟩))
    simpa using hi
  have htests : ∀ t ∈ s.methods, ∀ x ∈ t.scenarios, ∀ v ∈ x.values, v.Renders :=
    fun t ht x hx v hv => h v (mem_values_of_scenario ht hx hv)
  have hstubs : Writes (s.stubs.forM fun t => do
      blank
      blank
      emitStub t) (s.stubs.flatMap fun t => (0, "") :: (0, "") :: t.rows) :=
    .forM fun t _ => .cons _ (.cons _ (emitStub_writes t))
  have hclass : Writes (inner do
      emitFixture o s
      blank
      line s!"def test_should_create(self, {o.targetName}):"
      inner (line s!"assert {o.targetName}")
      emitMethods o ["test_should_create"] s.methods)
      ((s.fixtureRows o ++
        (0, "") :: (0, s!"def test_should_create(self, {o.targetName}):") ::
        ([(0, s!"assert {o.targetName}")].map Row.inward ++
        methodRows o ["test_should_create"] s.methods)).map Row.inward) := by
    refine .inner (.bind (emitFixture_writes o hmade) (.cons _ (.cons _ ?_)))
    exact .bind (.inner (.line _)) (emitMethods_writes o htests _)
  refine .cons _ (.cons _ (.bind (emitImports_writes _) (.bind hstubs ?_)))
  exact .cons _ (.cons _ (.cons _ hclass))

/-- The text begins with what the module says of itself, and then come the imports. -/
theorem textLines_eq (o : Options) (s : Suite) :
    ∃ rest, s.textLines o = s.docLine :: "" :: (s.imports.lines ++ rest) := by
  have himports : (s.imports.lines.map ((0, ·) : String → Row)).map (Row.text o.indent) =
      s.imports.lines := by
    simp [Function.comp_def]
  refine ⟨(s.classRows o).map (Row.text o.indent), ?_⟩
  rw [textLines, rows, List.map_cons, List.map_cons, List.map_append, himports, Row.text_zero,
    Row.text_zero]

theorem emit_eq_join (o : Options) {s : Suite}
    (h : ∀ v ∈ values s.construction s.methods, v.Renders) :
    s.emit o = .ok (String.join ((s.textLines o).map (· ++ "\n"))) := by
  have hrun := emitModule_writes o h (Page.blank o.indent).cleared
  have hlines : (((Page.blank o.indent).cleared).rows (s.rows o)).lines = s.textLines o :=
    Page.lines_rows _ rfl _
  have hne : (((Page.blank o.indent).cleared).rows (s.rows o)).lines ≠ [] := by
    rw [hlines]
    exact List.cons_ne_nil _ _
  rw [emit, emitOn, hrun, ← hlines, ← Page.output_eq_join _ hne]
  rfl

theorem emit_of_values_render (o : Options) {s : Suite}
    (h : ∀ v ∈ values s.construction s.methods, v.Renders) : ∃ text, s.emit o = .ok text :=
  ⟨_, emit_eq_join o h⟩

/-- A plan has an error for a method exactly if an integer of the trace of the method has more digits
than are written, and then it has no scenarios for it; other methods have their own scenarios. The
plan as a whole can always be written. -/
theorem plan_fails_only_on_digits (o : Options) (sourceName : String) (c : Class) :
    (plan o sourceName c).1.methods.length = c.methods.length ∧
      (∀ (k : Nat) (m : Method), c.methods[k]? = some m →
        ∃ t : MethodTests, (plan o sourceName c).1.methods[k]? = some t ∧ t.name = m.name ∧
          (t.error.isSome ↔ ∃ e ∈ m.trace, e.value.Overlong) ∧
          (∀ reason, t.error = some reason →
            reason = "ValueError: " ++ Numeral.digitLimitMessage ∧ t.scenarios = []) ∧
          (t.error = none → (Member.scenarios ⟨m, some c, o⟩).1 = .ok t.scenarios)) ∧
      (∀ v ∈ values (plan o sourceName c).1.construction (plan o sourceName c).1.methods,
        v.Renders) ∧
      ∀ o', ∃ text, (plan o sourceName c).1.emit o' = .ok text := by
  have hvalues := plan_values_render o sourceName c
  refine ⟨by simp [plan], ?_, hvalues, fun o' => emit_of_values_render o' hvalues⟩
  intro k m hm
  refine ⟨(testsOf o c m).1, by simp [plan, hm], ?_⟩
  by_cases h : ∃ e ∈ m.trace, e.value.Overlong
  · rw [testsOf_of_overlong h]
    refine ⟨rfl, by simp [h], ?_, by simp⟩
    intro reason hreason
    exact ⟨(Option.some.inj hreason).symm, rfl⟩
  · obtain ⟨ss, hss, htests, -⟩ := testsOf_of_short (o := o) (c := c) (m := m)
      fun e he hlong => h ⟨e, he, hlong⟩
    rw [htests]
    exact ⟨rfl, by simp [h], by simp, fun _ => hss⟩

/-- A test of a parameter against a number. -/
def against (n : Int) : Condition :=
  ⟨some ⟨.identifier "code" ⟨3, 11, 3, 15⟩, .eq, .numeric (.int n) ⟨3, 19, 3, 20⟩⟩, "code",
    Sample.codeTest⟩

/-- A method with nothing but such a test. -/
def tested (n : Int) : Method :=
  { Sample.method with body := some (.mk [.ternary (against n)]) }

theorem trace_tested (n : Int) :
    (tested n).trace = [⟨against n, .int n⟩, ⟨against n, .int (n + 1)⟩] := by rfl

/-- The largest number that has a text. -/
def largestRendered : Int :=
  (Nat.pow 10 4300 : Nat) - 1

/-- The largest number that has a text has a complement without one. -/
theorem plan_fails_only_on_digits_limit :
    let c : Class := { Sample.cls with methods := [Sample.method, tested largestRendered] }
    ∃ t t', (plan .standard "" c).1.methods = [t, t'] ∧ t.error = none ∧
      t'.error.isSome ∧ t'.scenarios = [] := by
  intro c
  obtain ⟨hlength, hmethods, -, -⟩ := plan_fails_only_on_digits .standard "" c
  obtain ⟨t, ht, -, herror, -⟩ := hmethods 0 Sample.method rfl
  obtain ⟨t', ht', -, herror', hnone, -⟩ := hmethods 1 (tested largestRendered) rfl
  obtain ⟨x, y, hxy⟩ := List.length_eq_two.mp hlength
  rw [hxy] at ht ht'
  obtain rfl := Option.some.inj ht
  obtain rfl := Option.some.inj ht'
  have hrenders : ∀ e ∈ Sample.method.trace, e.Renders := by decide +kernel
  have hlong : ∃ e ∈ (tested largestRendered).trace, e.value.Overlong := by
    rw [trace_tested]
    exact ⟨_, List.mem_cons_of_mem _ List.mem_cons_self, _, rfl,
      (Numeral.tooLong_iff _).mp (by decide +kernel)⟩
  have hsome := herror'.mpr hlong
  obtain ⟨reason, hreason⟩ := Option.isSome_iff_exists.mp hsome
  refine ⟨x, y, hxy, ?_, hsome, (hnone reason hreason).2⟩
  rw [← Option.not_isSome_iff_eq_none, herror]
  rintro ⟨e, he, hover⟩
  exact (Condition.renders_iff_of_mem (Method.value_mem_callValues he)).mp (hrenders e he) hover

end Suite
end BranchCover
