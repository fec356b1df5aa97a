import BranchCover.Generate
import BranchCover.Proofs.BearingPlans
import BranchCover.Proofs.Lines
import BranchCover.Proofs.Sample
import BranchCover.Proofs.Scanning

/-! No text of a source breaks out of the line that it is written on. Texts of places are words with spaces
between them, string literals are written without line ends, and names have none, however they are spelled.
So a comment is one line, and a test module has the lines that were put on its page and no others. -/
namespace BranchCover

open Line (Free Unbroken IsEnding)

theorem Outline.inLine_of_ofSource [Interpreter] {p : Char → Bool} (hp : IsEnding p) {source : String}
    {root : Node} (h : ofSource source = .ok root) : InLine p root := by
  have hunbroken := bears_ofSource Source.scannedNamed_unbroken Line.free_nil h
  exact hunbroken.mono fun n hn => hn.mono fun s hs => hp.free hs

namespace Generate

theorem exists_of_mem_plans [Interpreter] {source module sourceName : String} {o : Options}
    {suites : List Suite} {notes : List Note} (h : plans source module o sourceName = (.ok suites, notes)) {s : Suite}
    (hs : s ∈ suites) : ∃ root, Outline.ofSource source = .ok root ∧
      ∃ c ∈ Class.ofModule source module root, s = (Suite.plan o sourceName c).1 := by
  unfold plans at h
  split at h
  · cases h
  · rename_i root hroot
    obtain rfl := Except.ok.inj (Prod.mk.inj h).1
    obtain ⟨⟨t, ns⟩, ht, rfl⟩ := List.mem_map.mp hs
    obtain ⟨c, hc, hplan⟩ := List.mem_map.mp ht
    exact ⟨root, hroot, c, hc, (congrArg Prod.fst hplan).symm⟩

/-- What stands at any place of a source is words with spaces between them, and so is the condition that is
read from a test, or from a case whose subject and test are there. No value is written with a line end, and
no comment of a scenario has one. For any notion of a line end, the text of a test module that is planned
for a source has the lines that were put on the page, if the names and marks that are given have no line
ends. -/
theorem source_text_confined [Interpreter] (source module sourceName : String) (o : Options) :
    (∀ s, Blank.SingleSpaced (Excerpt.ofSource source s).toList) ∧
    (∀ test, Blank.SingleSpaced (Condition.ofTest (Excerpt.lines source.toList) test).text.toList) ∧
    (∀ subject test clause,
      let c := Condition.ofCase (Excerpt.lines source.toList) subject test clause
      Unbroken c.text.toList ∧ (Excerpt.ofSource source subject.span ≠ "" →
        Excerpt.ofSource source test.span ≠ "" → Blank.SingleSpaced c.text.toList)) ∧
    (∀ v : Value, v.WellNamed → ∀ text, v.source = .ok text → Unbroken text) ∧
    (∀ root, ∀ c ∈ Class.ofModule source module root, ∀ m ∈ c.constructor.toList ++ c.methods,
      ∀ owner xs, (Member.scenarios ⟨m, owner, o⟩).1 = .ok xs →
        ∀ x ∈ xs, ∀ text, x.comment = some text → Unbroken text.toList) ∧
    (∀ p, IsEnding p → Free p module.toList → Free p sourceName.toList → o.InLine p →
      ∀ suites notes, plans source module o sourceName = (.ok suites, notes) → ∀ s ∈ suites,
        ∀ q : Page, q.unit = o.indent → ∃ text page, s.emitOn o q = (.ok text, page) ∧
          Line.split p text.toList = page.lines.map String.toList) := by
  refine ⟨Excerpt.singleSpaced_ofSource source, Condition.singleSpaced_ofTest _,
    fun subject test clause => ⟨?case, fun hsubject htest => ?spaced⟩, fun v hv text htext => ?value,
    fun root c hc m hm owner xs hxs x hx text ht => ?comment,
    fun p hp hmodule hsource ho suites notes hplans s hs q hq => ?page⟩
  case case => exact (Condition.IsRead.case subject test clause).unbroken
  case spaced =>
    have hread : ∀ s, Excerpt.ofSource source s ≠ "" →
        Excerpt.within (Excerpt.lines source.toList) s ≠ [] := by
      intro s hne hempty
      exact hne (by rw [Excerpt.ofSource, hempty])
    exact Condition.singleSpaced_ofCase (hread _ hsubject) (hread _ htest) clause
  case value => exact Value.free_source Line.isEnding_isEnd v htext (hv.inLine Line.isEnding_isEnd)
  case comment =>
    obtain ⟨n, -, hbody⟩ := Class.exists_body hc hm
    exact Member.unbroken_comment hbody hxs hx ht
  case page =>
    obtain ⟨root, hroot, c, hc, rfl⟩ := exists_of_mem_plans hplans hs
    have hclass := Class.inLine_of_mem_ofModule hp (Outline.inLine_of_ofSource hp hroot) hmodule hc
    exact (Suite.inLine_plan hp hclass ho hsource).split_emitOn hp
      (Suite.plan_values_render o sourceName c) (hq ▸ ho.indent)

open scoped Interpreter in
/-- A comment of the gate, and the plan of the class that is read. -/
theorem source_text_confined_gate :
    (∃ xs, Sample.gate.scenarios.1 = .ok xs ∧
      ∃ x ∈ xs, ∃ text, x.comment = some text ∧ Unbroken text.toList) ∧
    Options.standard.InLine (fun c => Line.isEnd c.toNat) ∧
    ∃ suite notes, plans Sample.bare "module" .standard "gate.py" = (.ok [suite], notes) ∧
      ∃ text page, suite.emitOn .standard (Page.blank "    ") = (.ok text, page) ∧
        Line.split (fun c => Line.isEnd c.toNat) text.toList = page.lines.map String.toList := by
  have hoptions : Options.standard.InLine (fun c => Line.isEnd c.toNat) :=
    ⟨by decide, by decide, by decide, by decide⟩
  refine ⟨?comment, hoptions, ?page⟩
  case comment =>
    obtain ⟨-, -, -, -, hcomment, -⟩ := source_text_confined Sample.source "module" "gate.py" .standard
    have hrenders : ∀ e ∈ Sample.body.trace, e.Renders := by decide +kernel
    have hlength : Sample.body.trace.length = 18 := by decide +kernel
    obtain ⟨e, es, htrace⟩ : ∃ e es, Sample.body.trace = e :: es :=
      List.exists_cons_of_length_pos (by rw [hlength]; decide)
    have hscenarios := Sample.gate.scenarios_eq rfl (by simp [Sample.body, Block.branches]) hrenders
    have hxs : Sample.gate.scenarios.1 = .ok (Sample.gate.scenariosFrom 1 [] Sample.body.trace) := by
      rw [hscenarios]
    refine ⟨_, hxs, _, by rw [htrace]; exact List.mem_cons_self, _, rfl, ?_⟩
    exact hcomment Sample.outline Sample.cls (by simp [Sample.ofModule_outline]) Sample.method
      (by simp [Sample.cls]) (some Sample.cls) _ hxs _ (by rw [htrace]; exact List.mem_cons_self) _ rfl
  case page =>
    obtain ⟨-, -, -, -, -, hpage⟩ := source_text_confined Sample.bare "module" "gate.py" .standard
    obtain ⟨root, c, hroot, hclasses, -⟩ := Sample.exists_class_bare "module"
    obtain ⟨notes, hplans⟩ : ∃ notes, plans Sample.bare "module" .standard "gate.py" =
        (.ok [(Suite.plan .standard "gate.py" c).1], notes) := by
      simp only [plans, hroot, hclasses]
      exact ⟨_, rfl⟩
    exact ⟨_, notes, hplans, hpage _ Line.isEnding_isEnd (by decide) (by decide) hoptions _ _ hplans _
      List.mem_cons_self _ rfl⟩

end Generate

end BranchCover
