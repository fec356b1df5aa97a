import BranchCover.Proofs.Unbroken

/-! Plans whose texts have no line ends of a sort. Every line of such a plan, as it is put on the page, has
none either, so the text of the test module is split again at the line ends that were put between the
lines. -/
namespace BranchCover

open Line (Free Unbroken IsEnding)

namespace Row

/-- The texts of the lines have no line ends of a sort. -/
def AllFree (p : Char → Bool) (rs : List Row) : Prop :=
  ∀ r ∈ rs, Free p r.2.toList

section

variable {p : Char → Bool} {rs qs : List Row} {r : Row}

@[simp] theorem allFree_nil : AllFree p [] :=
  fun _ h => nomatch h

@[simp] theorem allFree_cons : AllFree p (r :: rs) ↔ Free p r.2.toList ∧ AllFree p rs :=
  List.forall_mem_cons

@[simp] theorem allFree_append : AllFree p (rs ++ qs) ↔ AllFree p rs ∧ AllFree p qs :=
  List.forall_mem_append

@[simp] theorem allFree_inward : AllFree p (rs.map inward) ↔ AllFree p rs :=
  List.forall_mem_map

theorem allFree_map {α : Type} {xs : List α} {f : α → Row} (h : ∀ x ∈ xs, Free p (f x).2.toList) :
    AllFree p (xs.map f) :=
  List.forall_mem_map.mpr h

theorem allFree_flatMap {α : Type} {xs : List α} {f : α → List Row} (h : ∀ x ∈ xs, AllFree p (f x)) :
    AllFree p (xs.flatMap f) := by
  intro r hr
  obtain ⟨x, hx, hr⟩ := List.mem_flatMap.mp hr
  exact h x hx r hr

theorem free_text {unit : String} (hunit : Free p unit.toList) (h : Free p r.2.toList) :
    Free p (r.text unit).toList := by
  unfold text
  split
  · exact Line.free_nil
  · refine .append ?_ h
    rw [String.toList_join]
    exact Line.free_flatMap fun t ht => List.eq_of_mem_replicate ht ▸ hunit

end

end Row

structure Stub.InLine (p : Char → Bool) (s : Stub) : Prop where
  className : Free p s.className.toList
  typeName : Free p s.typeName.toList
  members : ∀ m ∈ s.members, Free p m.name.toList

structure Scenario.InLine (p : Char → Bool) (x : Scenario) : Prop where
  label : Free p x.label.toList
  invocation : x.invocation.InLine p
  assignments : ∀ a ∈ x.assignments, Free p a.name.toList ∧ a.value.InLine p
  comment : ∀ c, x.comment = some c → Free p c.toList

structure MethodTests.InLine (p : Char → Bool) (t : MethodTests) : Prop where
  name : Free p t.name.toList
  error : ∀ e, t.error = some e → Free p e.toList
  scenarios : ∀ x ∈ t.scenarios, x.InLine p

structure Suite.InLine (p : Char → Bool) (o : Options) (s : Suite) : Prop where
  target : Free p o.targetName.toList
  className : Free p s.className.toList
  sourceName : Free p s.sourceName.toList
  imports : ∀ e ∈ s.imports, Free p e.1.toList ∧ ∀ n ∈ e.2, Free p n.toList
  stubs : ∀ t ∈ s.stubs, t.InLine p
  construction : ∀ i ∈ s.construction, i.InLine p
  wiring : ∀ w ∈ s.wiring, Free p w.attr.toList ∧ Free p w.stub.toList
  methods : ∀ t ∈ s.methods, t.InLine p

theorem Suite.InLine.making {p : Char → Bool} {o : Options} {s : Suite} (h : s.InLine p o) : s.making.InLine p := by
  unfold Suite.making
  cases hc : s.construction with
  | none => exact ⟨h.className, Line.free_nil, nofun, nofun⟩
  | some i => exact h.construction i hc

section

variable {p : Char → Bool} (hp : IsEnding p) {o : Options}

include hp

open Row (AllFree)

theorem StubMember.allFree_rows {m : StubMember} (h : Free p m.name.toList) : AllFree p m.rows := by
  have hparams : ∀ t ∈ Suite.stubParams m, Free p t.toList := by
    intro t ht
    rcases List.mem_append.mp ht with ht | ht
    · rcases List.mem_cons.mp ht with rfl | ht
      · exact hp.free (by decide)
      · obtain ⟨i, -, rfl⟩ := List.mem_map.mp ht
        exact .append (hp.free (by decide)) (hp.free (Numeral.unbroken_toString (i + 1)))
    · split at ht
      · rw [List.mem_singleton.mp ht]
        exact hp.free (by decide)
      · cases ht
  have hopening : Free p (s!"def {m.name}(" ++ ", ".intercalate (Suite.stubParams m) ++ "):").toList :=
    .append (.append (.append (.append (hp.free (by decide)) h) (hp.free (by decide)))
      (Line.free_intercalate (hp.free (by decide)) hparams)) (hp.free (by decide))
  have hbody : Free p "return None".toList := hp.free (by decide)
  simp only [StubMember.rows, Row.allFree_cons, Row.allFree_nil, and_true]
  exact ⟨Line.free_nil, hopening, hbody⟩

theorem Stub.InLine.allFree_rows {s : Stub} (h : s.InLine p) : AllFree p s.rows := by
  have hopening : Free p s!"class {s.className}:".toList :=
    .append (.append (hp.free (by decide)) h.className) (hp.free (by decide))
  have hdoc : Free p s!"\"\"\"Stands in for {s.typeName}.\"\"\"".toList :=
    .append (.append (hp.free (by decide)) h.typeName) (hp.free (by decide))
  have hblank : AllFree p
      (if !(s.members.filter (!·.isCallable)).isEmpty then [(0, "")] else []) := by
    split
    · simp
    · simp
  have hfields : AllFree p
      ((s.members.filter (!·.isCallable)).map fun m => (0, s!"{m.name} = None")) :=
    Row.allFree_map fun m hm => .append (h.members m (List.mem_of_mem_filter hm)) (hp.free (by decide))
  have hmethods : AllFree p ((s.members.filter (·.isCallable)).flatMap StubMember.rows) :=
    Row.allFree_flatMap fun m hm => m.allFree_rows hp (h.members m (List.mem_of_mem_filter hm))
  simp only [Stub.rows, Row.allFree_cons, Row.allFree_inward, Row.allFree_append]
  exact ⟨hopening, hdoc, hblank, hfields, hmethods⟩

theorem Scenario.InLine.allFree_rows {x : Scenario} (ho : Free p o.targetName.toList) (h : x.InLine p)
    (hrenders : ∀ v ∈ x.values, v.Renders) : AllFree p (x.rows o x.invocation.rendered) := by
  have hassigned : AllFree p (x.assignments.map fun a => (0, a.statement o)) := by
    refine Row.allFree_map fun a ha => ?_
    obtain ⟨hname, hvalue⟩ := h.assignments a ha
    have htext := Value.free_rendered hp
      (hrenders _ (List.mem_append_right _ (List.mem_map_of_mem ha))) hvalue
    exact .append (.append (.append (.append ho (hp.free (by decide))) hname) (hp.free (by decide))) htext
  have hargs : ∀ a ∈ x.invocation.args, a.value.Renders := fun a ha =>
    hrenders _ (List.mem_append_left _ (List.mem_map_of_mem ha))
  have hcall : Free p x.invocation.rendered.toList := by
    rw [Invocation.rendered_eq_written hargs]
    exact h.invocation.written hp hargs
  have hrun : Free p (if x.invocation.awaited then
      s!"asyncio.run({x.invocation.rendered})" else x.invocation.rendered).toList := by
    split
    · exact .append (.append (hp.free (by decide)) hcall) (hp.free (by decide))
    · exact hcall
  have htry : Free p "try:".toList := hp.free (by decide)
  have hexcept : Free p "except Exception as err:".toList := hp.free (by decide)
  have hprint : Free p s!"print(\"Error in {Quoted.escape x.label}: \" + str(err))".toList :=
    .append (.append (hp.free (by decide)) (Quoted.free_escape hp h.label)) (hp.free (by decide))
  have hinside : AllFree p (x.inside o x.invocation.rendered) := by
    simp only [Scenario.inside, Row.allFree_append, Row.allFree_cons, Row.allFree_nil, and_true]
    refine ⟨⟨?comment, hassigned⟩, hrun⟩
    cases hc : x.comment with
    | none => exact Row.allFree_nil
    | some c =>
      have hline : Free p s!"# {c}".toList := .append (hp.free (by decide)) (h.comment c hc)
      dsimp only
      split
      · exact Row.allFree_nil
      · exact Row.allFree_cons.mpr ⟨hline, Row.allFree_nil⟩
  simp only [Scenario.rows, Row.allFree_append, Row.allFree_cons, Row.allFree_inward, Row.allFree_nil,
    and_true]
  exact ⟨⟨htry, hinside⟩, hexcept, hprint⟩

theorem MethodTests.InLine.allFree_rows {t : MethodTests} (ho : Free p o.targetName.toList)
    (h : t.InLine p) {name : String} (hname : Free p name.toList)
    (hrenders : ∀ x ∈ t.scenarios, ∀ v ∈ x.values, v.Renders) : AllFree p (t.rows o name) := by
  have hopening : Free p s!"def {name}(self, {o.targetName}):".toList :=
    .append (.append (.append (.append (hp.free (by decide)) hname) (hp.free (by decide))) ho)
      (hp.free (by decide))
  have hscenarios : AllFree p
      (t.scenarios.flatMap fun x : Scenario => x.rows o x.invocation.rendered) :=
    Row.allFree_flatMap fun x hx => (h.scenarios x hx).allFree_rows hp ho (hrenders x hx)
  have hassert : Free p s!"assert {o.targetName}".toList := .append (hp.free (by decide)) ho
  simp only [MethodTests.rows, Row.allFree_cons, Row.allFree_inward, Row.allFree_append,
    Row.allFree_nil, and_true]
  refine ⟨hopening, ?reason, hscenarios, hassert⟩
  cases he : t.error with
  | none => exact Row.allFree_nil
  | some e =>
    exact Row.allFree_cons.mpr ⟨.append (hp.free (by decide)) (h.error e he), Row.allFree_nil⟩

namespace Suite

variable {s : Suite}

theorem allFree_methodRows (ho : Free p o.targetName.toList) {ts : List MethodTests}
    (h : ∀ t ∈ ts, t.InLine p) (hrenders : ∀ t ∈ ts, ∀ x ∈ t.scenarios, ∀ v ∈ x.values, v.Renders)
    (taken : List String) : AllFree p (methodRows o taken ts) := by
  induction ts generalizing taken with
  | nil => exact Row.allFree_nil
  | cons t ts ih =>
    have ht := h t List.mem_cons_self
    have hname := Name.free_testName hp ht.name taken
    have hhead := ht.allFree_rows hp ho hname (hrenders t List.mem_cons_self)
    have htail := ih (fun u hu => h u (List.mem_cons_of_mem t hu))
      (fun u hu => hrenders u (List.mem_cons_of_mem t hu)) (Name.testName t.name taken :: taken)
    exact Row.allFree_cons.mpr ⟨Line.free_nil, Row.allFree_append.mpr ⟨hhead, htail⟩⟩

theorem InLine.free_docLine (h : s.InLine p o) : Free p s.docLine.toList := by
  have hfile : Free p (if s.sourceName == "" then "" else s!" ({s.sourceName})").toList := by
    split
    · exact Line.free_nil
    · exact .append (.append (hp.free (by decide)) h.sourceName) (hp.free (by decide))
  exact .append (.append (.append (hp.free (by decide)) h.className) hfile) (hp.free (by decide))

theorem InLine.allFree_importLines (h : s.InLine p o) : AllFree p (s.imports.lines.map (0, ·)) := by
  have hwhole : ∀ t ∈ s.imports.plain.map (fun e => s!"import {e.1}"), Free p t.toList := by
    intro t ht
    obtain ⟨e, he, rfl⟩ := List.mem_map.mp ht
    exact .append (hp.free (by decide)) (h.imports e (List.mem_of_mem_filter he)).1
  have hfrom : ∀ t ∈ s.imports.fromLines, Free p t.toList := by
    intro t ht
    obtain ⟨e, he, rfl⟩ := List.mem_map.mp ht
    obtain ⟨hmodule, hnames⟩ := h.imports e (List.mem_of_mem_filter he)
    exact .append (.append (.append (hp.free (by decide)) hmodule) (hp.free (by decide)))
      (Line.free_intercalate (hp.free (by decide)) hnames)
  have hfixed : ∀ t ∈ ["import pytest", ""], Free p t.toList := by
    intro t ht
    rcases List.mem_pair.mp ht with rfl | rfl <;> exact hp.free (by decide)
  refine Row.allFree_map fun t ht => ?_
  rcases List.mem_append.mp ht with ht | ht
  · exact hwhole t ht
  rcases List.mem_append.mp ht with ht | ht
  · split at ht
    · exact hfixed t (List.mem_cons_of_mem _ ht)
    · cases ht
  rcases List.mem_append.mp ht with ht | ht
  · split at ht
    · exact hfixed t ht
    · cases ht
  · exact hfrom t ht

theorem InLine.allFree_fixtureRows (h : s.InLine p o)
    (hrenders : ∀ v ∈ values s.construction s.methods, v.Renders) : AllFree p (s.fixtureRows o) := by
  have hmaking : Free p s.making.rendered.toList := by
    rw [Invocation.rendered_eq_written (making_renders hrenders)]
    exact h.making.written hp (making_renders hrenders)
  have hmark : Free p "@pytest.fixture".toList := hp.free (by decide)
  have hopening : Free p s!"def {o.targetName}(self):".toList :=
    .append (.append (hp.free (by decide)) h.target) (hp.free (by decide))
  have hmade : Free p s!"{o.targetName} = {s.making.rendered}".toList :=
    .append (.append h.target (hp.free (by decide))) hmaking
  have hwired : AllFree p (s.wiring.map fun w => (0, s!"{o.targetName}.{w.attr} = {w.stub}()")) := by
    refine Row.allFree_map fun w hw => ?_
    obtain ⟨hattr, hstub⟩ := h.wiring w hw
    exact .append (.append (.append (.append (.append h.target (hp.free (by decide))) hattr)
      (hp.free (by decide))) hstub) (hp.free (by decide))
  have hreturn : Free p s!"return {o.targetName}".toList := .append (hp.free (by decide)) h.target
  simp only [Suite.fixtureRows, Row.allFree_append, Row.allFree_cons, Row.allFree_inward,
    Row.allFree_nil, and_true]
  exact ⟨⟨hmark, hopening⟩, hmade, hwired, hreturn⟩

/-- Every line of a plan is free of line ends of a sort if the texts of the plan are. -/
theorem InLine.allFree_rows (h : s.InLine p o)
    (hrenders : ∀ v ∈ values s.construction s.methods, v.Renders) : AllFree p (s.rows o) := by
  have htests : ∀ t ∈ s.methods, ∀ x ∈ t.scenarios, ∀ v ∈ x.values, v.Renders :=
    fun t ht x hx v hv => hrenders v (mem_values_of_scenario ht hx hv)
  have hstubs : AllFree p (s.stubs.flatMap fun t => (0, "") :: (0, "") :: t.rows) :=
    Row.allFree_flatMap fun t ht => Row.allFree_cons.mpr ⟨Line.free_nil, Row.allFree_cons.mpr
      ⟨Line.free_nil, (h.stubs t ht).allFree_rows hp⟩⟩
  have hopening : Free p s!"class Test{s.className}:".toList :=
    .append (.append (hp.free (by decide)) h.className) (hp.free (by decide))
  have hcreate : Free p s!"def test_should_create(self, {o.targetName}):".toList :=
    .append (.append (hp.free (by decide)) h.target) (hp.free (by decide))
  have hassert : Free p s!"assert {o.targetName}".toList := .append (hp.free (by decide)) h.target
  have hmethods := allFree_methodRows hp h.target h.methods htests ["test_should_create"]
  have hfixture := h.allFree_fixtureRows hp hrenders
  simp only [rows, classRows, Row.allFree_append, Row.allFree_cons, Row.allFree_inward,
    Row.allFree_nil, and_true]
  exact ⟨h.free_docLine hp, Line.free_nil, h.allFree_importLines hp, hstubs, Line.free_nil,
    Line.free_nil, hopening, hfixture, Line.free_nil, hcreate, hassert, hmethods⟩

/-- The text of a test module, split at its line ends, is the lines on its page, which may have been used
before. -/
theorem InLine.split_emitOn (h : s.InLine p o) (hrenders : ∀ v ∈ values s.construction s.methods, v.Renders)
    {q : Page} (hunit : Free p q.unit.toList) :
    ∃ text page, s.emitOn o q = (.ok text, page) ∧
      Line.split p text.toList = page.lines.map String.toList := by
  have hrun := emitModule_writes o hrenders q.cleared
  have hlines : (q.cleared.rows (s.rows o)).lines = (s.rows o).map (Row.text q.unit) :=
    Page.lines_rows _ rfl _
  have hne : (q.cleared.rows (s.rows o)).lines ≠ [] := by
    rw [hlines]
    exact List.cons_ne_nil _ _
  have hfree : ∀ t ∈ (q.cleared.rows (s.rows o)).lines, Free p t.toList := by
    rw [hlines]
    intro t ht
    obtain ⟨r, hr, rfl⟩ := List.mem_map.mp ht
    exact Row.free_text hunit (h.allFree_rows hp hrenders r hr)
  refine ⟨(q.cleared.rows (s.rows o)).output, q.cleared.rows (s.rows o), ?_, ?_⟩
  · rw [emitOn, hrun]
    rfl
  · rw [Page.output_eq_join _ hne]
    exact Line.split_lines hp hfree

end Suite

end

end BranchCover
