import BranchCover.Proofs.Nesting

/-! The blocks of a test module. Where a plan names everything by names, each part of its module is
nested, and the module as a whole tries the scenarios of the plan in their order. -/
namespace BranchCover

variable {o : Options} {P : Prop}

structure Scenario.WellNamed (s : Scenario) : Prop where
  invocation : s.invocation.WellNamed
  comment : ∀ c ∈ s.comment, Line.Single c.toList
  assigned : ∀ a ∈ s.assignments, Word.isName a.name = true ∧ a.value.WellNamed

structure MethodTests.WellNamed (t : MethodTests) : Prop where
  name : Word.isName t.name = true
  error : ∀ e ∈ t.error, Line.Single e.toList
  scenarios : ∀ x ∈ t.scenarios, x.WellNamed

structure Stub.WellNamed (s : Stub) : Prop where
  className : Word.isName s.className = true
  typeName : Word.isName s.typeName = true
  members : ∀ m ∈ s.members, Word.isName m.name = true

structure Suite.WellNamed (o : Options) (s : Suite) : Prop where
  target : Word.isName o.targetName = true
  className : Word.isName s.className = true
  stubs : ∀ t ∈ s.stubs, t.WellNamed
  construction : ∀ i ∈ s.construction, i.WellNamed
  wiring : ∀ w ∈ s.wiring, Word.isName w.attr = true ∧ Word.isName w.stub = true
  methods : ∀ t ∈ s.methods, t.WellNamed

/-- The keywords of a use are one line each. -/
def Invocation.Plain (i : Invocation) : Prop :=
  ∀ a ∈ i.args, a.keyword = true → Line.Single a.name.toList

/-- The other texts of a plan are one line each: the name of its file, the modules and names that it
imports, and the keywords of its calls. -/
structure Suite.Plain (s : Suite) : Prop where
  sourceName : Line.Single s.sourceName.toList
  imports : ∀ e ∈ s.imports, Line.Single e.1.toList ∧ ∀ n ∈ e.2, Line.Single n.toList
  making : s.making.Plain
  scenarios : ∀ t ∈ s.methods, ∀ x ∈ t.scenarios, x.invocation.Plain

theorem StubMember.layout_rows {m : StubMember} (h : Word.isName m.name = true) :
    Layout o P [] m.rows := by
  have hname := Line.single_of_isName h
  have hparams : Line.Single (", ".intercalate (Suite.stubParams m)).toList := by
    refine Line.single_intercalate (by decide) fun t ht => ?_
    rcases List.mem_cons.mp ht with rfl | ht
    · decide
    rcases List.mem_append.mp ht with ht | ht
    · obtain ⟨i, -, rfl⟩ := List.mem_map.mp ht
      exact .append (by decide) (Numeral.single_toString (i + 1))
    · have hkeywords : t = "**kwargs" := by
        split at ht
        · exact List.mem_singleton.mp ht
        · cases ht
      rw [hkeywords]
      decide
  have hopens : Row.Leads ["class", "def"]
      (0, s!"def {m.name}(" ++ ", ".intercalate (Suite.stubParams m) ++ "):") :=
    Row.leads_append (w := "def") (.append (.append (.append (by decide)))) (by decide) (by decide)
  have hsingle : Line.Single (s!"def {m.name}(" ++ ", ".intercalate (Suite.stubParams m) ++ "):").toList :=
    .append (.append (.append (.append (by decide) hname) (by decide)) hparams) (by decide)
  have hbody : Layout o P [] [(0, "return None")] := .line (by decide) fun _ => by decide
  exact .blank (.block hopens (fun _ => hsingle) hbody ⟨_, List.mem_singleton_self _, by decide⟩)

theorem Stub.layout_rows {s : Stub} (h : s.WellNamed) : Layout o P [] s.rows := by
  have hmembers : ∀ (q : StubMember → Bool), ∀ m ∈ s.members.filter q, Word.isName m.name = true :=
    fun q m hm => h.members m (List.mem_of_mem_filter hm)
  have hblank : Layout o P []
      (if (!(s.members.filter (!·.isCallable)).isEmpty) = true then [(0, "")] else []) := by
    split
    · exact .blank .nil
    · exact .nil
  have hfields : Layout o P []
      ((s.members.filter (!·.isCallable)).map fun m => (0, s!"{m.name} = None")) := by
    rw [List.map_eq_flatMap]
    exact .parts fun m hm => .line (Row.not_leads_append (by decide)) fun _ =>
      .append (Line.single_of_isName (hmembers _ m hm)) (by decide)
  have hmethods : Layout o P [] ((s.members.filter (·.isCallable)).flatMap StubMember.rows) :=
    .parts fun m hm => m.layout_rows (hmembers _ m hm)
  have hdoc : Layout o P [] [(0, s!"\"\"\"Stands in for {s.typeName}.\"\"\"")] :=
    .line (Row.not_leads_append (by decide)) fun _ =>
      .append (.append (by decide) (Line.single_of_isName h.typeName)) (by decide)
  have hopens : Row.Leads ["class", "def"] (0, s!"class {s.className}:") :=
    Row.leads_append (w := "class") (.append (by decide)) (by decide) (by decide)
  have hsingle : Line.Single s!"class {s.className}:".toList :=
    .append (.append (by decide) (Line.single_of_isName h.className)) (by decide)
  have hbody := hdoc.append (hblank.append (hfields.append hmethods))
  exact .block hopens (fun _ => hsingle) hbody
    ⟨_, List.mem_cons_self, Row.isStatement_append (Row.isStatement_append (by decide))⟩

theorem FieldAssign.layout_statement {a : FieldAssign} (hname : Word.isName a.name = true)
    (htarget : Word.isName o.targetName = true) (hrenders : a.value.Renders)
    (hvalue : a.value.WellNamed) : Layout o P [] [(0, a.statement o)] := by
  obtain ⟨hsingle, hlast⟩ := Value.single_rendered hrenders hvalue
  refine .line (Row.not_leads_of_end ?_) fun _ => ?_
  · rw [FieldAssign.statement, String.toList_append]
    refine Line.not_endsInColon_append ?_ hlast
    rw [String.toList_append, Line.endsInColon_append (by decide)]
    decide
  · exact .append (.append (.append (.append (Line.single_of_isName htarget) (by decide))
      (Line.single_of_isName hname)) (by decide)) hsingle

/-- The lines in the block of a scenario. The comment is skipped, and the statements open nothing. -/
theorem Scenario.layout_inside {x : Scenario} (h : x.WellNamed)
    (htarget : Word.isName o.targetName = true) (hrenders : ∀ v ∈ x.values, v.Renders)
    (hplain : P → x.invocation.Plain) :
    Layout o P [] (x.inside o x.invocation.rendered) ∧
      ∃ r ∈ x.inside o x.invocation.rendered, r.IsStatement := by
  have hargs : ∀ a ∈ x.invocation.args, a.value.Renders := fun a ha =>
    hrenders _ (List.mem_append_left _ (List.mem_map_of_mem ha))
  obtain ⟨⟨c, cs, hcs, hc⟩, hend, hone⟩ := h.invocation.rendered hargs
  have hhash : c ≠ '#' := by
    rintro rfl
    exact absurd hc (by decide)
  have hcomment : Layout o P []
      (x.comment.elim [] fun c => if c = "" then [] else [(0, s!"# {c}")]) := by
    cases hx : x.comment with
    | none => exact .nil
    | some c =>
      by_cases hempty : c = ""
      · simpa [hempty] using Layout.nil
      · rw [Option.elim_some, if_neg hempty]
        exact .comment rfl (by decide) (h.comment c hx)
  have hassigned : Layout o P [] (x.assignments.map fun a => (0, a.statement o)) := by
    rw [List.map_eq_flatMap]
    refine .parts fun a ha => ?_
    obtain ⟨hname, hvalue⟩ := h.assigned a ha
    exact a.layout_statement hname htarget
      (hrenders _ (List.mem_append_right _ (List.mem_map_of_mem ha))) hvalue
  have hcall : Layout o P [] [(0, if x.invocation.awaited then
        s!"asyncio.run({x.invocation.rendered})" else x.invocation.rendered)] ∧
      Row.IsStatement (0, if x.invocation.awaited then
        s!"asyncio.run({x.invocation.rendered})" else x.invocation.rendered) := by
    split
    · exact ⟨.line (Row.not_leads_append (by decide)) fun hP =>
          .append (.append (by decide) (hone (hplain hP))) (by decide),
        Row.isStatement_append (Row.isStatement_append (by decide))⟩
    · exact ⟨.line (Row.not_leads_of_end hend) fun hP => hone (hplain hP),
        Row.isStatement_of_cons hcs hhash⟩
  have hinside : x.inside o x.invocation.rendered =
      (x.comment.elim [] fun c => if c = "" then [] else [(0, s!"# {c}")]) ++
        x.assignments.map (fun a => (0, a.statement o)) ++ [(0, if x.invocation.awaited then
          s!"asyncio.run({x.invocation.rendered})" else x.invocation.rendered)] := by
    unfold Scenario.inside
    cases x.comment <;> rfl
  rw [hinside]
  exact ⟨(hcomment.append hassigned).append hcall.1, _,
    List.mem_append_right _ (List.mem_singleton_self _), hcall.2⟩

theorem Scenario.layout_rows {x : Scenario} (h : x.WellNamed)
    (htarget : Word.isName o.targetName = true) (hrenders : ∀ v ∈ x.values, v.Renders)
    (hplain : P → x.invocation.Plain) : Layout o P [x] (x.rows o x.invocation.rendered) := by
  obtain ⟨hinside, hfull⟩ := x.layout_inside (o := o) h htarget hrenders hplain
  have hprint : Layout o P [] [(0, s!"print(\"Error in {Quoted.escape x.label}: \" + str(err))")] :=
    .line (Row.not_leads_append (by decide)) fun _ =>
      .append (.append (by decide) (Quoted.single_escape x.label)) (by decide)
  have htried := Row.Laid.block (t := "try:") (by decide) hinside.laid hfull
  have hhandled := Row.Laid.block (t := "except Exception as err:") (by decide) hprint.laid
    ⟨_, List.mem_singleton_self _, Row.isStatement_append (Row.isStatement_append (by decide))⟩
  refine ⟨htried.append hhandled, ?_, fun hP => ?_⟩
  · exact .scenario 0 hinside.tries.not_guards hprint.tries.inward
  · have hbody : ∀ r ∈ (x.inside o x.invocation.rendered).map Row.inward, Line.Single r.2.toList := by
      intro r hr
      obtain ⟨q, hq, rfl⟩ := List.mem_map.mp hr
      exact hinside.single hP q hq
    have hlast := hprint.single hP _ (List.mem_singleton_self _)
    have htry : Line.Single "try:".toList := by decide
    have hexcept : Line.Single "except Exception as err:".toList := by decide
    exact List.forall_mem_append.mpr ⟨List.forall_mem_cons.mpr ⟨htry, hbody⟩,
      List.forall_mem_cons.mpr ⟨hexcept, List.forall_mem_singleton.mpr hlast⟩⟩

theorem MethodTests.layout_rows {t : MethodTests} (h : t.WellNamed) {name : String}
    (hname : Line.Single name.toList) (htarget : Word.isName o.targetName = true)
    (hrenders : ∀ x ∈ t.scenarios, ∀ v ∈ x.values, v.Renders)
    (hplain : P → ∀ x ∈ t.scenarios, x.invocation.Plain) :
    Layout o P t.scenarios (t.rows o name) := by
  have hscenarios : Layout o P t.scenarios
      (t.scenarios.flatMap fun x : Scenario => x.rows o x.invocation.rendered) := by
    have hall := Layout.flatMap (o := o) (P := P) (g := fun x => [x]) fun x hx =>
      x.layout_rows (h.scenarios x hx) htarget (hrenders x hx) fun hP => hplain hP x hx
    rwa [List.flatMap_singleton'] at hall
  have hassert : Layout o P [] [(0, s!"assert {o.targetName}")] :=
    .line (Row.not_leads_of_begins (w := "assert") (.append (by decide)) (by decide)) fun _ =>
      .append (by decide) (Line.single_of_isName htarget)
  have hopens : Row.Leads ["class", "def"] (0, s!"def {name}(self, {o.targetName}):") :=
    Row.leads_append (w := "def") (.append (.append (.append (by decide)))) (by decide) (by decide)
  have hsingle : Line.Single s!"def {name}(self, {o.targetName}):".toList :=
    .append (.append (.append (.append (by decide) hname) (by decide))
      (Line.single_of_isName htarget)) (by decide)
  have hreason : Layout o P [] (t.error.elim [] fun e => [(0, s!"# no scenarios: {e}")]) := by
    cases he : t.error with
    | none => exact .nil
    | some e => exact .comment rfl (by decide) (h.error e he)
  have hbody := hreason.append (hscenarios.append hassert)
  rw [List.nil_append, List.append_nil] at hbody
  have hrows : t.rows o name = (0, s!"def {name}(self, {o.targetName}):") ::
      ((t.error.elim [] fun e => [(0, s!"# no scenarios: {e}")]) ++
        (t.scenarios.flatMap (fun x : Scenario => x.rows o x.invocation.rendered) ++
          [(0, s!"assert {o.targetName}")])).map Row.inward := by
    unfold MethodTests.rows
    cases t.error <;> rfl
  rw [hrows]
  exact .block hopens (fun _ => hsingle) hbody ⟨_, List.mem_append_right _ (List.mem_append_right _
    (List.mem_singleton_self _)), Row.isStatement_append (by decide)⟩

namespace Suite

variable {s : Suite}

theorem making_wellNamed (h : s.WellNamed o) : s.making.WellNamed := by
  unfold making
  cases hc : s.construction with
  | none => exact ⟨h.className, .inl rfl, fun _ ha => nomatch ha⟩
  | some i => exact h.construction i hc

theorem layout_fixtureRows (h : s.WellNamed o)
    (hrenders : ∀ v ∈ values s.construction s.methods, v.Renders) :
    Layout o s.Plain [] (s.fixtureRows o) := by
  have htarget := Line.single_of_isName h.target
  obtain ⟨-, hend, hone⟩ := (making_wellNamed h).rendered (making_renders hrenders)
  have hmade : Layout o s.Plain [] [(0, s!"{o.targetName} = {s.making.rendered}")] := by
    refine .line (Row.not_leads_of_end ?_) fun hplain =>
      .append (.append htarget (by decide)) (hone hplain.making)
    change ¬ Line.EndsInColon (o.targetName ++ " = " ++ s.making.rendered).toList
    rw [String.toList_append]
    refine Line.not_endsInColon_append ?_ hend
    rw [String.toList_append, Line.endsInColon_append (by decide)]
    decide
  have hwired : Layout o s.Plain []
      (s.wiring.map fun w => (0, s!"{o.targetName}.{w.attr} = {w.stub}()")) := by
    rw [List.map_eq_flatMap]
    refine .parts fun w hw => .line (Row.not_leads_append (by decide)) fun _ => ?_
    obtain ⟨hattr, hstub⟩ := h.wiring w hw
    exact .append (.append (.append (.append (.append htarget (by decide))
      (Line.single_of_isName hattr)) (by decide)) (Line.single_of_isName hstub)) (by decide)
  have hreturn : Layout o s.Plain [] [(0, s!"return {o.targetName}")] :=
    .line (Row.not_leads_of_begins (w := "return") (.append (by decide)) (by decide)) fun _ =>
      .append (by decide) htarget
  have hopens : Row.Leads ["class", "def"] (0, s!"def {o.targetName}(self):") :=
    Row.leads_append (w := "def") (.append (by decide)) (by decide) (by decide)
  have hsingle : Line.Single s!"def {o.targetName}(self):".toList :=
    .append (.append (by decide) htarget) (by decide)
  have hstatement : Row.IsStatement (0, s!"return {o.targetName}") :=
    Row.isStatement_append (by decide)
  have hblock := (hmade.append (hwired.append hreturn)).block hopens (fun _ => hsingle)
    ⟨_, List.mem_append_right _ (List.mem_append_right _ (List.mem_singleton_self _)), hstatement⟩
  have hmark : Layout o s.Plain [] [(0, "@pytest.fixture")] := .line (by decide) fun _ => by decide
  exact hmark.append hblock

theorem layout_methodRows {ts : List MethodTests} (h : ∀ t ∈ ts, t.WellNamed)
    (htarget : Word.isName o.targetName = true)
    (hrenders : ∀ t ∈ ts, ∀ x ∈ t.scenarios, ∀ v ∈ x.values, v.Renders)
    (hplain : P → ∀ t ∈ ts, ∀ x ∈ t.scenarios, x.invocation.Plain) (taken : List String) :
    Layout o P (ts.flatMap (·.scenarios)) (methodRows o taken ts) := by
  induction ts generalizing taken with
  | nil => exact .nil
  | cons t ts ih =>
    have ht := h t List.mem_cons_self
    have hname := Name.single_testName (Line.single_of_isName ht.name) taken
    have hhead := t.layout_rows ht hname htarget (hrenders t List.mem_cons_self)
      fun hP => hplain hP t List.mem_cons_self
    have htail := ih (fun u hu => h u (List.mem_cons_of_mem t hu))
      (fun u hu => hrenders u (List.mem_cons_of_mem t hu))
      (fun hP u hu => hplain hP u (List.mem_cons_of_mem t hu)) (Name.testName t.name taken :: taken)
    exact .blank (hhead.append htail)

theorem layout_importLines (s : Suite) : Layout o s.Plain [] (s.imports.lines.map (0, ·)) := by
  have hmodule : ∀ e ∈ s.imports, ¬ Row.Opens (0, s!"import {e.1}") ∧
      (s.Plain → Line.Single s!"import {e.1}".toList) := fun e he =>
    ⟨Row.not_leads_of_begins (w := "import") (.append (by decide)) (by decide), fun hplain =>
      .append (by decide) (hplain.imports e he).1⟩
  have hfrom : ∀ e ∈ s.imports,
      ¬ Row.Opens (0, s!"from {e.1} import " ++ ", ".intercalate e.2) ∧
      (s.Plain → Line.Single (s!"from {e.1} import " ++ ", ".intercalate e.2).toList) := fun e he =>
    ⟨Row.not_leads_of_begins (w := "from") (.append (.append (.append (by decide)))) (by decide),
      fun hplain => .append (.append (.append (by decide) (hplain.imports e he).1) (by decide))
        (Line.single_intercalate (by decide) (hplain.imports e he).2)⟩
  have hfixed : ∀ t ∈ ["import pytest", ""], ¬ Row.Opens (0, t) ∧ Line.Single t.toList := by decide
  have hline : ∀ t ∈ s.imports.lines, ¬ Row.Opens (0, t) ∧ (s.Plain → Line.Single t.toList) := by
    intro t ht
    rcases List.mem_append.mp ht with ht | ht
    · obtain ⟨e, he, rfl⟩ := List.mem_map.mp ht
      exact hmodule e (List.mem_of_mem_filter he)
    rcases List.mem_append.mp ht with ht | ht
    · have hblank : t ∈ ["import pytest", ""] := by
        split at ht
        · exact List.mem_cons_of_mem _ ht
        · cases ht
      exact ⟨(hfixed t hblank).1, fun _ => (hfixed t hblank).2⟩
    rcases List.mem_append.mp ht with ht | ht
    · have hframework : t ∈ ["import pytest", ""] := by
        split at ht
        · exact ht
        · cases ht
      exact ⟨(hfixed t hframework).1, fun _ => (hfixed t hframework).2⟩
    · obtain ⟨e, he, rfl⟩ := List.mem_map.mp ht
      exact hfrom e (List.mem_of_mem_filter he)
  exact .lines (fun t ht => (hline t ht).1) fun hplain t ht => (hline t ht).2 hplain

theorem layout_rows (h : s.WellNamed o)
    (hrenders : ∀ v ∈ values s.construction s.methods, v.Renders) :
    Layout o s.Plain (s.methods.flatMap (·.scenarios)) (s.rows o) := by
  have htarget := Line.single_of_isName h.target
  have hclass := Line.single_of_isName h.className
  have htests : ∀ t ∈ s.methods, ∀ x ∈ t.scenarios, ∀ v ∈ x.values, v.Renders :=
    fun t ht x hx v hv => hrenders v (mem_values_of_scenario ht hx hv)
  have hdoc : Layout o s.Plain [] [(0, s.docLine)] := by
    refine .line (Row.not_leads_append (by decide)) fun hplain => ?_
    have hfile : Line.Single (if s.sourceName == "" then "" else s!" ({s.sourceName})").toList := by
      split
      · decide
      · exact .append (.append (by decide) hplain.sourceName) (by decide)
    exact .append (.append (.append (by decide) hclass) hfile) (by decide)
  have hstubs : Layout o s.Plain [] (s.stubs.flatMap fun t => (0, "") :: (0, "") :: t.rows) :=
    .parts fun t ht => .blank (.blank (t.layout_rows (h.stubs t ht)))
  have hassert : Layout o s.Plain [] [(0, s!"assert {o.targetName}")] :=
    .line (Row.not_leads_of_begins (w := "assert") (.append (by decide)) (by decide)) fun _ =>
      .append (by decide) htarget
  have hcreate : Row.Leads ["class", "def"] (0, s!"def test_should_create(self, {o.targetName}):") :=
    Row.leads_append (w := "def") (.append (by decide)) (by decide) (by decide)
  have hcreated := hassert.block hcreate
    (fun _ => .append (.append (by decide) htarget) (by decide))
    ⟨_, List.mem_singleton_self _, Row.isStatement_append (by decide)⟩
  have hmethods := layout_methodRows (o := o) (P := s.Plain) h.methods h.target htests
    (fun hplain => hplain.scenarios) ["test_should_create"]
  have hinside := (layout_fixtureRows h hrenders).append (.blank (hcreated.append hmethods))
  have hopens : Row.Leads ["class", "def"] (0, s!"class Test{s.className}:") :=
    Row.leads_append (w := "class") (.append (by decide)) (by decide) (by decide)
  have hblock := hinside.block hopens (fun _ => .append (.append (by decide) hclass) (by decide))
    ⟨_, List.mem_append_left _ List.mem_cons_self, by decide⟩
  have hrest := (layout_importLines (o := o) s).append (hstubs.append (.blank (.blank hblock)))
  exact hdoc.append (.blank hrest)

/-- The module is written as nested blocks, and the page is left at the level at which it was. -/
theorem emitModule_nested (o : Options) (s : Suite)
    (hrenders : ∀ v ∈ values s.construction s.methods, v.Renders) (h : s.WellNamed o) :
    (∀ p : Page, ∃ q : Page, (emitModule o s).run.run p = (.ok (), q) ∧ q.level = p.level ∧
      q.lines = p.lines ++ (s.rows o).map p.placed) ∧
    Row.Nested (s.rows o) ∧ Tries o (s.methods.flatMap (·.scenarios)) (s.rows o) ∧
    (s.Plain → ∀ r ∈ s.rows o, Line.Single r.2.toList) := by
  have hlayout := layout_rows h hrenders
  refine ⟨fun p => ?_, hlayout.laid.nested, hlayout.tries, hlayout.single⟩
  exact ⟨p.rows (s.rows o), emitModule_writes o hrenders p, p.level_rows _, p.lines_rows_placed _⟩

/-- A plan with a stub, a wired field, a scenario that sets a field, and a method without scenarios. -/
def gateTests : Suite where
  className := "Gate"
  imports := [("asyncio", []), ("pytest", []), ("gate", ["Gate"])]
  stubs := [⟨"FakeLog", "Log", [⟨"level", false, 0, false⟩, ⟨"write", true, 1, true⟩]⟩]
  construction := none
  wiring := [⟨"log", "FakeLog"⟩]
  methods := [
    ⟨"open", [⟨"open", ⟨"target", "open", [⟨"code", .number (.int 7), true⟩], true, none⟩,
      [⟨"closed", .boolean true⟩], some "the gate is closed"⟩], none⟩,
    ⟨"close", [], some "ValueError"⟩]
  sourceName := "gate.py"

theorem gateTests_wellNamed : gateTests.WellNamed .standard where
  target := by decide
  className := by decide
  stubs t ht := by
    obtain rfl := List.mem_singleton.mp ht
    exact ⟨by decide, by decide, by decide⟩
  construction i hi := nomatch hi
  wiring := by decide
  methods t ht := by
    have hvalue : ∀ v ∈ [Value.number (.int 7), .boolean true], v.WellNamed := by
      intro v hv name hwithin
      rcases List.mem_pair.mp hv with rfl | rfl
      · exact absurd hwithin Value.stub_not_within_number
      · exact absurd hwithin Value.stub_not_within_boolean
    rcases List.mem_pair.mp ht with rfl | rfl
    · refine ⟨by decide, fun e he => (nomatch he), fun x hx => ?_⟩
      obtain rfl := List.mem_singleton.mp hx
      refine ⟨⟨by decide, by decide, fun a ha => ?_⟩, by decide, fun a ha => ?_⟩
      · obtain rfl := List.mem_singleton.mp ha
        exact hvalue _ (by simp)
      · obtain rfl := List.mem_singleton.mp ha
        exact ⟨by decide, hvalue _ (by simp)⟩
    · exact ⟨by decide, by decide, fun x hx => (nomatch hx)⟩

theorem gateTests_nested :
    Row.Nested (gateTests.rows .standard) ∧
      Tries .standard (gateTests.methods.flatMap (·.scenarios)) (gateTests.rows .standard) := by
  have hrenders : ∀ v ∈ values gateTests.construction gateTests.methods, v.Renders := by
    decide +kernel
  obtain ⟨-, hnested, htries, -⟩ := emitModule_nested .standard gateTests hrenders gateTests_wellNamed
  exact ⟨hnested, htries⟩

end Suite
end BranchCover
