import BranchCover.Proofs.Reaching
import BranchCover.Proofs.Stubbing
import Mathlib.Data.List.TakeWhile

/-! Private names. The text of a test stands in the body of a test class, where a private name is taken
for one of that class. A private name of the class under test is therefore written with the name of its
class in front, which makes it a plain one, unless the class is named by underscores alone. The name of
the class itself is written as it is. -/
namespace BranchCover

/-- A name is private if it begins with two underscores and does not end with two. -/
def IsPrivate (name : String) : Prop :=
  startsDouble name.toList = true ∧ endsDouble name.toList = false

def OnlyUnderscores (name : String) : Prop :=
  ∀ ch ∈ name.toList, ch = '_'

theorem mangle_of_not_private {name : String} (h : ¬ IsPrivate name) (cls : Option String) :
    mangle name cls = name := by
  cases cls with
  | none => rfl
  | some c =>
    have hplain : (startsDouble name.toList && !endsDouble name.toList) = false := by
      rw [← Bool.not_eq_true, Bool.and_eq_true, Bool.not_eq_true']
      exact h
    simp [mangle, hplain]

theorem owner_eq_nil_iff (cls : String) :
    cls.toList.dropWhile (· == '_') = [] ↔ OnlyUnderscores cls := by
  simp [OnlyUnderscores, List.dropWhile_eq_nil_iff]

theorem mangle_of_only_underscores {cls : String} (h : OnlyUnderscores cls) (name : String) :
    mangle name (some cls) = name := by
  have howner : cls.toList.dropWhile (· == '_') = [] := (owner_eq_nil_iff cls).mpr h
  simp [mangle, howner]

theorem mangle_of_private {name cls : String} (h : IsPrivate name) (hcls : ¬ OnlyUnderscores cls) :
    ∃ head rest, head ≠ '_' ∧
      mangle name (some cls) = String.ofList ('_' :: head :: rest ++ name.toList) := by
  cases howner : cls.toList.dropWhile (· == '_') with
  | nil => exact absurd ((owner_eq_nil_iff cls).mp howner) hcls
  | cons head rest =>
    have hhead : (head == '_') = false := by
      have hstop := List.head_dropWhile_not (fun ch => ch == '_') (l := cls.toList) (by simp [howner])
      simpa [howner] using hstop
    refine ⟨head, rest, by simpa using hhead, ?_⟩
    simp [mangle, h.1, h.2, howner]

/-- A name is stored as it is unless it is private in a class with a name of more than underscores. -/
theorem mangle_eq_self_iff {name cls : String} :
    mangle name (some cls) = name ↔ ¬ (IsPrivate name ∧ ¬ OnlyUnderscores cls) := by
  by_cases hname : IsPrivate name
  · by_cases hcls : OnlyUnderscores cls
    · simp [mangle_of_only_underscores hcls, hcls]
    · obtain ⟨head, rest, -, hmangle⟩ := mangle_of_private hname hcls
      have hlonger : mangle name (some cls) ≠ name := by
        intro h
        have hlength := congrArg (fun t : String => t.toList.length) (hmangle.symm.trans h)
        simp at hlength
        omega
      simp [hlonger, hname, hcls]
  · simp [mangle_of_not_private hname, hname]

/-- A stored name is private only for a class that is named by underscores alone. -/
theorem isPrivate_mangle_iff {name cls : String} :
    IsPrivate (mangle name (some cls)) ↔ IsPrivate name ∧ OnlyUnderscores cls := by
  by_cases hname : IsPrivate name
  · by_cases hcls : OnlyUnderscores cls
    · simp [mangle_of_only_underscores hcls, hname, hcls]
    · obtain ⟨head, rest, hhead, hmangle⟩ := mangle_of_private hname hcls
      have hplain : ¬ IsPrivate (mangle name (some cls)) := by
        intro h
        have hstart := h.1
        rw [hmangle] at hstart
        simp [startsDouble, hhead.symm] at hstart
      simp [hplain, hcls]
  · simp [mangle_of_not_private hname, hname]

/-- What is written in the body of the test class of a class is taken as it is. -/
def Class.Unmangled (c : Class) (name : String) : Prop :=
  mangle name (some ("Test" ++ c.name)) = name

theorem Class.unmangled_iff (c : Class) {name : String} : c.Unmangled name ↔ ¬ IsPrivate name := by
  have htest : ¬ OnlyUnderscores ("Test" ++ c.name) := by
    intro h
    have hfirst := h 'T' (by simp)
    exact absurd hfirst (by decide)
  unfold Unmangled
  rw [mangle_eq_self_iff]
  simp [htest]

theorem Class.unmangled_mangle_iff (c : Class) {name : String} :
    c.Unmangled (mangle name (some c.name)) ↔ ¬ (IsPrivate name ∧ OnlyUnderscores c.name) := by
  rw [c.unmangled_iff, isPrivate_mangle_iff]

namespace Suite

variable {o : Options} {c : Class} {m : Method}

theorem scenarios_of_mem_testsOf {x : Scenario} (hx : x ∈ (testsOf o c m).1.scenarios) :
    ∃ ss, (Member.scenarios ⟨m, some c, o⟩).1 = .ok ss ∧ x ∈ ss := by
  by_cases hlong : ∃ e ∈ m.trace, e.value.Overlong
  · rw [testsOf_of_overlong hlong] at hx
    cases hx
  · obtain ⟨ss, hss, htests, -⟩ := testsOf_of_short (o := o) (c := c) (m := m)
      fun e he hover => hlong ⟨e, he, hover⟩
    rw [htests] at hx
    exact ⟨ss, hss, hx⟩

/-- The names that a scenario of a method writes for the class under test are taken as they are, where
the class is called unless its name is private, and elsewhere unless they are private and the class is
named by underscores alone. -/
theorem scenario_names_iff {x : Scenario} (hx : x ∈ (testsOf o c m).1.scenarios) :
    (m.isStatic = true → (c.Unmangled x.invocation.receiver ↔ ¬ IsPrivate c.name)) ∧
    (c.Unmangled x.invocation.method ↔ ¬ (IsPrivate m.name ∧ OnlyUnderscores c.name)) ∧
    ∀ a ∈ x.assignments, ∃ p ∈ c.properties, ∃ n, p.name = some n ∧
      a.name = mangle n (some c.name) ∧
      (c.Unmangled a.name ↔ ¬ (IsPrivate n ∧ OnlyUnderscores c.name)) := by
  obtain ⟨ss, hss, hx⟩ := scenarios_of_mem_testsOf hx
  obtain ⟨v, hv⟩ := Member.invocation_of_mem_scenarios hss hx
  refine ⟨?_, ?_, ?_⟩
  · intro hstatic
    have hreceiver : x.invocation.receiver = c.name := by
      rw [hv]
      simp [Member.invocation, Member.receiver, hstatic]
    rw [hreceiver]
    exact c.unmangled_iff
  · have hmethod : x.invocation.method = mangle m.name (some c.name) := by
      rw [hv]
      rfl
    rw [hmethod]
    exact c.unmangled_mangle_iff
  · intro a ha
    obtain ⟨e, -, he⟩ := (Member.exists_mem_assignments_iff hss).mp ⟨x, hx, ha⟩
    obtain ⟨n, hreads, rfl⟩ := (Member.mem_assignments_iff rfl).mp he
    obtain ⟨p, hfind⟩ := Option.isSome_iff_exists.mp hreads.isField
    have hfound := List.find?_some hfind
    exact ⟨p, List.mem_of_find?_eq_some hfind, n, eq_of_beq hfound, rfl, c.unmangled_mangle_iff⟩

/-- Names that are written for the class under test are taken as they are in the body of the test class,
if and only if: for the class that is made or called, its name is not private; for a method that is
called, a field that is set and a field that is wired, the name is not private or the class is not named
by underscores alone. -/
theorem names_unmangled_iff (o : Options) (sourceName : String) (c : Class) :
    let s := (plan o sourceName c).1
    (∃ i, s.construction = some i ∧ (c.Unmangled i.receiver ↔ ¬ IsPrivate c.name)) ∧
    List.Forall₂ (fun m t => ∀ x ∈ t.scenarios,
      (m.isStatic = true → (c.Unmangled x.invocation.receiver ↔ ¬ IsPrivate c.name)) ∧
      (c.Unmangled x.invocation.method ↔ ¬ (IsPrivate m.name ∧ OnlyUnderscores c.name)) ∧
      ∀ a ∈ x.assignments, ∃ p ∈ c.properties, ∃ n, p.name = some n ∧
        a.name = mangle n (some c.name) ∧
        (c.Unmangled a.name ↔ ¬ (IsPrivate n ∧ OnlyUnderscores c.name))) c.methods s.methods ∧
    ∀ w ∈ s.wiring, ∃ p ∈ c.properties, ∃ n, p.name = some n ∧ w.attr = mangle n (some c.name) ∧
      (c.Unmangled w.attr ↔ ¬ (IsPrivate n ∧ OnlyUnderscores c.name)) := by
  intro s
  refine ⟨⟨constructionOf c (Stub.injected o c), rfl, c.unmangled_iff⟩, ?_, ?_⟩
  · have hmethods : s.methods = c.methods.map fun m => (testsOf o c m).1 := List.map_map
    rw [hmethods, List.forall₂_map_right_iff]
    exact List.forall₂_same.mpr fun m _ x hx => scenario_names_iff hx
  · intro w hw
    have hw : w ∈ wiringOf o c (Stub.fakes o c) (injectedNames c (Stub.injected o c)) := hw
    obtain ⟨-, p, hp, n, t, hname, -, -, -, rfl⟩ := mem_wiringOf_iff.mp hw
    exact ⟨p, hp, n, hname, rfl, c.unmangled_mangle_iff⟩

/-- A private field is wired under the name that it is stored by. -/
theorem names_unmangled_iff_part :
    let c := Sample.holding "Gate" "module" "__part" (.hint .number Span.unknown)
    (plan .standard "" c).1.wiring = [⟨"_Gate__part", "FakeA"⟩] ∧ c.Unmangled "_Gate__part" := by
  intro c
  have hwiring : (plan .standard "" c).1.wiring = [⟨"_Gate__part", "FakeA"⟩] := by decide +kernel
  have hnames := (names_unmangled_iff .standard "" c).2.2
  rw [hwiring] at hnames
  obtain ⟨p, -, n, -, -, hiff⟩ := hnames _ List.mem_cons_self
  have hcls : ¬ OnlyUnderscores c.name := by
    intro h
    exact absurd (h 'G' (by decide)) (by decide)
  exact ⟨hwiring, hiff.mpr fun h => hcls h.2⟩

/-- The name of a private class is taken for another one where the class is made. -/
theorem private_class_mangled :
    ¬ ∀ (sourceName source module : String) (m : Node), ∀ c ∈ Class.ofModule source module m,
      ∀ i, (plan .standard sourceName c).1.construction = some i → c.Unmangled i.receiver := by
  intro h
  have hc := Sample.holding_mem_ofModule "__Gate" "module" "part" (.hint .number Span.unknown)
  have hreceiver : mangle "__Gate" (some ("Test" ++ "__Gate")) = "__Gate" :=
    h "" "" "module" _ _ hc _ rfl
  exact absurd hreceiver (by decide)

end Suite
end BranchCover
