import BranchCover.Proofs.Shaping
import BranchCover.Proofs.Unbroken

/-! Comments of scenarios. The comment of a scenario holds the text of a condition, which is read off the
source with its blanks collapsed, and the text of a literal or its complement. Neither of them can end the
line of the comment, whatever the source holds. -/
namespace BranchCover

open Line (Free Unbroken IsEnding isEnd)

namespace Blank

variable {l r : List Char}

theorem singleSpaced_nil : SingleSpaced [] :=
  fun a c b h => by simp at h

theorem IsWord.singleSpaced (h : IsWord l) : SingleSpaced l :=
  singleSpaced_unwords (List.forall_mem_singleton.mpr h)

theorem SingleSpaced.last (h : SingleSpaced l) (hne : l ≠ []) :
    ∃ x, l.getLast? = some x ∧ test x = false := by
  refine ⟨l.getLast hne, List.getLast?_eq_some_getLast hne, Bool.eq_false_iff.mpr fun hblank => ?_⟩
  obtain ⟨-, -, y, hy, -⟩ := h l.dropLast (l.getLast hne) [] (List.dropLast_concat_getLast hne).symm hblank
  cases hy

theorem SingleSpaced.head (h : SingleSpaced l) (hne : l ≠ []) :
    ∃ x, l.head? = some x ∧ test x = false := by
  obtain ⟨c, cs, rfl⟩ := List.exists_cons_of_ne_nil hne
  refine ⟨c, rfl, Bool.eq_false_iff.mpr fun hblank => ?_⟩
  obtain ⟨-, ⟨x, hx, -⟩, -⟩ := h [] c cs rfl hblank
  cases hx

theorem SingleSpaced.space (hl : SingleSpaced l) (hr : SingleSpaced r) (hlne : l ≠ []) (hrne : r ≠ []) :
    SingleSpaced (l ++ ' ' :: r) := by
  intro a c b ht hc
  rcases List.append_eq_append_iff.mp ht with ⟨a', rfl, hb⟩ | ⟨c', rfl, hb⟩
  · cases a' with
    | nil =>
      obtain ⟨rfl, rfl⟩ := List.cons.inj hb
      exact ⟨rfl, by simpa using hl.last hlne, hr.head hrne⟩
    | cons x a' =>
      obtain ⟨hspace, ⟨y, hy, hsolid⟩, hnext⟩ := hr a' c b (List.cons.inj hb).2 hc
      refine ⟨hspace, ⟨y, ?_, hsolid⟩, hnext⟩
      rw [List.getLast?_append, List.getLast?_cons, hy]
      rfl
  · cases c' with
    | nil =>
      obtain ⟨rfl, rfl⟩ := List.cons.inj hb
      exact ⟨rfl, by simpa using hl.last hlne, hr.head hrne⟩
    | cons x c' =>
      obtain ⟨rfl, rfl⟩ := List.cons.inj hb
      obtain ⟨hspace, hbefore, y, hy, hsolid⟩ := hl a c c' rfl hc
      refine ⟨hspace, hbefore, y, ?_, hsolid⟩
      change (c' ++ ' ' :: r).head? = some y
      rw [List.head?_append, hy]
      rfl

end Blank

namespace Excerpt

/-- What is read off a source is words with spaces between them, whatever the place. -/
theorem singleSpaced_within (ls : List (List Char)) (s : Span) : Blank.SingleSpaced (within ls s) := by
  unfold within
  split_ifs
  · exact Blank.singleSpaced_nil
  · exact Blank.singleSpaced_collapse _
  · exact Blank.singleSpaced_collapse _

theorem singleSpaced_ofSource (source : String) (s : Span) :
    Blank.SingleSpaced (ofSource source s).toList := by
  rw [ofSource, String.toList_ofList]
  exact singleSpaced_within _ s

end Excerpt

namespace Condition

variable {lines : List (List Char)} {c : Condition}

/-- The condition is read off the lines: it is that of a test or of a case. -/
inductive IsRead (lines : List (List Char)) : Condition → Prop where
  | test (n : Node) : IsRead lines (ofTest lines n)
  | case (subject test clause : Node) : IsRead lines (ofCase lines subject test clause)

theorem toList_ofTest (lines : List (List Char)) (n : Node) :
    (ofTest lines n).text.toList = Excerpt.within lines n.span :=
  String.toList_ofList

theorem toList_ofCase (lines : List (List Char)) (subject test clause : Node) :
    (ofCase lines subject test clause).text.toList =
      Excerpt.within lines subject.span ++ " == ".toList ++ Excerpt.within lines test.span :=
  String.toList_ofList

theorem IsRead.unbroken (h : c.IsRead lines) : Unbroken c.text.toList := by
  have hread : ∀ s, Unbroken (Excerpt.within lines s) := fun s =>
    Line.unbroken_of_singleSpaced (Excerpt.singleSpaced_within lines s)
  cases h with
  | test n =>
    rw [toList_ofTest]
    exact hread n.span
  | case subject test clause =>
    rw [toList_ofCase]
    exact Line.free_append.mpr ⟨Line.free_append.mpr ⟨hread subject.span, by decide⟩, hread test.span⟩

theorem singleSpaced_ofTest (lines : List (List Char)) (n : Node) :
    Blank.SingleSpaced (ofTest lines n).text.toList := by
  rw [toList_ofTest]
  exact Excerpt.singleSpaced_within lines n.span

/-- The text of a case is words with spaces between them if its subject and its test are in the source. -/
theorem singleSpaced_ofCase {subject test : Node} (hsubject : Excerpt.within lines subject.span ≠ [])
    (htest : Excerpt.within lines test.span ≠ []) (clause : Node) :
    Blank.SingleSpaced (ofCase lines subject test clause).text.toList := by
  have hsolid : "==".toList.all (fun c => Blank.test c == false) = true := by decide
  have hequals : Blank.SingleSpaced ("==".toList ++ ' ' :: Excerpt.within lines test.span) :=
    .space (Blank.IsWord.singleSpaced ⟨by decide, fun c hc => eq_of_beq (List.all_eq_true.mp hsolid c hc)⟩)
      (Excerpt.singleSpaced_within lines test.span) (by decide) htest
  have hall := (Excerpt.singleSpaced_within lines subject.span).space hequals hsubject (by simp)
  rw [toList_ofCase]
  simpa using hall

theorem inLine_of_mem_callValues {v : Value} (hv : v ∈ c.callValues) (p : Char → Bool) :
    v.InLine p := by
  obtain ⟨a, b, hab, halike⟩ := c.exists_alike_callValues
  rw [hab] at hv
  cases halike <;> rcases List.mem_pair.mp hv with rfl | rfl <;> simp

end Condition

namespace Block

/-- Every condition in the trace of what is read at a node is read off the source. -/
theorem isRead_of_mem_trace {lines : List (List Char)} {n : Node} {e : Drive}
    (he : e ∈ (Block.mk (branchesAt lines n)).trace) : e.condition.IsRead lines := by
  rw [← map_toDrive_visits] at he
  obtain ⟨⟨e, q, j⟩, hx, rfl⟩ := List.mem_map.mp he
  obtain ⟨⟨b, hb, hc⟩, -, -⟩ := mem_visits_iff.mp hx
  obtain ⟨d, -, hd⟩ := Node.exists_node_of_at? hb
  have hmem := List.mem_of_getElem? hc
  cases d <;> simp only [Node.decision?, Option.some.injEq, reduceCtorEq] at hd <;> subst hd
  case ifStmt test body orelse s =>
    rw [List.mem_singleton.mp hmem]
    exact .test test
  case switch subject clauses s =>
    obtain ⟨arm, harm, harm'⟩ := List.mem_map.mp hmem
    obtain ⟨k, -, hk⟩ := List.mem_filterMap.mp harm
    rw [← harm']
    cases k <;> cases hk
    exact .case subject _ _
  case conditional test body orelse s =>
    rw [List.mem_singleton.mp hmem]
    exact .test test

end Block

theorem Method.isRead_of_mem_trace {lines : List (List Char)} {n : Node} {m : Method}
    (hbody : m.body = some (.mk (Block.branchesAt lines n))) {e : Drive} (he : e ∈ m.trace) :
    e.condition.IsRead lines := by
  rw [trace, hbody, Block.traceOf] at he
  exact Block.isRead_of_mem_trace he

namespace Member

variable {m : Member}

theorem exists_of_latest {name : String} {es : List Drive} {v : Value} (h : m.latest name es = some v) :
    ∃ e ∈ es, v = e.value := by
  obtain ⟨e, he, rfl⟩ := Option.map_eq_some_iff.mp h
  exact ⟨e, (List.mem_filter.mp (List.mem_of_getLast? he)).1, rfl⟩

/-- A scenario is the sole one of a method without decisions, or that of an entry of the trace, where the
values in force are those of entries. -/
theorem scenario_cases {ss : List Scenario} (h : m.scenarios.1 = .ok ss) {x : Scenario} (hx : x ∈ ss) :
    x = ⟨m.method.name, m.invocation [], [], none⟩ ∨
    ∃ n o, (∀ name v, Overrides.find? o name = some v → ∃ e ∈ m.method.trace, v = e.value) ∧
      ∃ e ∈ m.method.trace, e.Renders ∧ x = m.scenarioOf n o e := by
  rcases scenarios_of_ok h with rfl | ⟨-, rfl⟩
  · right
    obtain ⟨k, hk⟩ := List.mem_iff_getElem?.mp hx
    rw [getElem?_scenariosFrom] at hk
    obtain ⟨e, he, rfl⟩ := Option.map_eq_some_iff.mp hk
    have hmem := List.mem_of_getElem? he
    refine ⟨_, _, fun name v hv => ?_, e, hmem, renders_of_ok h e hmem, rfl⟩
    have hnone : Overrides.find? [] name = none := rfl
    rw [find?_after, hnone, Option.or_none] at hv
    obtain ⟨d, hd, rfl⟩ := exists_of_latest hv
    exact ⟨d, List.mem_of_mem_take hd, rfl⟩
  · exact .inl (List.mem_singleton.mp hx)

/-- The comment of a scenario is one line if the body of its method is read off a source. -/
theorem unbroken_comment {lines : List (List Char)} {n : Node}
    (hbody : m.method.body = some (.mk (Block.branchesAt lines n))) {ss : List Scenario}
    (h : m.scenarios.1 = .ok ss) {x : Scenario} (hx : x ∈ ss) {t : String} (ht : x.comment = some t) :
    Unbroken t.toList := by
  obtain rfl | ⟨k, o, -, e, he, hrenders, rfl⟩ := scenario_cases h hx
  · cases ht
  · obtain rfl := Option.some.inj ht
    have hcondition : Unbroken e.condition.text.toList := (Method.isRead_of_mem_trace hbody he).unbroken
    have hvalue : Unbroken e.text.toList := by
      obtain ⟨cs, hcs, htext⟩ := bind_eq_ok.mp hrenders.eq_text
      rw [← pure_eq_ok.mp htext, String.toList_ofList]
      exact Value.free_source Line.isEnding_isEnd e.value hcs
        (Condition.inLine_of_mem_callValues (Method.value_mem_callValues he) _)
    exact .append (.append (.append (by decide) hcondition) (by decide)) hvalue

end Member

end BranchCover
