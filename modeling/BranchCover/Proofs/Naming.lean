import BranchCover.Proofs.Importing
import BranchCover.Proofs.Stubbing

/-! Classes that a test module names: the one that it imports, the stubs, and its own. Stubs have names
of their own, since a mark tells fakes from stubs of parameters and a type those of one mark. What is
wired or passed is therefore the one stub of its type. The class under test may have the name of a
stub, which then takes its place. -/
namespace BranchCover

/-- A value that is made up for a property holds no stubs but those of placeholder types. -/
theorem Value.mem_placeholderTypes_of_within_make {p : Property} {name : String}
    (h : (objectStub name).Within (make p)) : name ∈ placeholderTypes := by
  unfold make at h
  split at h
  · split at h <;> simp [int] at h
  · split at h <;> simp at h
  · split at h <;> simp [ascii] at h
  · unfold placeholder at h
    split at h
    · rename_i type _
      by_cases htype : placeholderTypes.contains type = true
      · have hname : name = type := by
          rw [if_pos htype] at h
          split at h <;> simpa using h
        rw [hname]
        exact List.contains_iff_mem.mp htype
      · rw [if_neg htype] at h
        split at h <;> simp at h
    · split at h <;> simp at h

namespace Imports

theorem flatMap_set {i : Imports} (hplain : ∀ e ∈ i, e.2 = []) (module : String)
    (names : List String) : (i.set module names).flatMap Prod.snd = names := by
  induction i with
  | nil => simp [set]
  | cons e i ih =>
    obtain ⟨m, old⟩ := e
    obtain ⟨hold, hrest⟩ := List.forall_mem_cons.mp hplain
    obtain rfl : old = [] := hold
    by_cases hm : m = module
    · have hnone : i.flatMap Prod.snd = [] := List.flatMap_eq_nil_iff.mpr hrest
      simp [set, hm, hnone]
    · simp [set, hm, ih hrest]

end Imports

theorem filter_eq_singleton {α : Type} {name : α → String} {items : List α}
    (hnames : (items.map name).Nodup) {x : α} (hx : x ∈ items) :
    items.filter (name · == name x) = [x] := by
  induction items with
  | nil => cases hx
  | cons y items ih =>
    obtain ⟨hy, hrest⟩ := List.nodup_cons.mp hnames
    rcases List.mem_cons.mp hx with rfl | hx
    · have hnone : items.filter (name · == name x) = [] := by
        apply List.filter_eq_nil_iff.mpr
        intro z hz hzx
        exact hy (eq_of_beq hzx ▸ List.mem_map_of_mem hz)
      simp [hnone]
    · have hne : name y ≠ name x := fun h => hy (h ▸ List.mem_map_of_mem hx)
      simp [hne, ih hrest hx]

namespace Suite

/-- The classes that a test module names. -/
def classNames (s : Suite) : List String :=
  s.imports.flatMap Prod.snd ++ s.stubs.map Stub.className ++ ["Test" ++ s.className]

/-- One stub alone has the name, and it is the one for the type. -/
def StandsFor (s : Suite) (name : String) (typeName : Option String) : Prop :=
  ∃ st, s.stubs.filter (·.className == name) = [st] ∧ typeName = some st.typeName

theorem importsOf_flatMap (module cls : String) (construction : Option Invocation)
    (methods : List MethodTests) :
    (importsOf module cls construction methods).flatMap Prod.snd = [cls] := by
  rw [importsOf_eq_set]
  exact Imports.flatMap_set (wholeImports_plain construction methods) _ _

section Standard

variable (sourceName : String) (c : Class)

theorem mem_stubNames_iff {name : String} :
    name ∈ (plan .standard sourceName c).1.stubs.map Stub.className ↔
      (∃ p ∈ c.properties, ∃ t, Stub.stubbedType? .standard p = some t ∧ name = "Fake" ++ t) ∨
      ∃ p ∈ c.parameters, ∃ t, Stub.stubbedType? .standard p = some t ∧ name = "Stub" ++ t := by
  change name ∈ (Stub.fakes .standard c ++ Stub.injected .standard c).map Stub.className ↔ _
  rw [List.map_append, List.mem_append, Stub.injected_eq_collect]
  exact or_congr Stub.mem_classNames_collect_iff Stub.mem_classNames_collect_iff

theorem nodup_stubNames : ((plan .standard sourceName c).1.stubs.map Stub.className).Nodup := by
  change ((Stub.fakes .standard c ++ Stub.injected .standard c).map Stub.className).Nodup
  rw [List.map_append, Stub.injected_eq_collect]
  apply List.nodup_append'.mpr
  refine ⟨Stub.nodup_classNames_collect .., Stub.nodup_classNames_collect .., ?_⟩
  intro name hfake hstub
  obtain ⟨-, -, t, -, rfl⟩ := Stub.mem_classNames_collect_iff.mp hfake
  obtain ⟨-, -, t', -, hname⟩ := Stub.mem_classNames_collect_iff.mp hstub
  change "Fake" ++ t = "Stub" ++ t' at hname
  have hhead := congrArg (fun n : String => n.toList.head?) hname
  simp at hhead

theorem standsFor_of_mem {st : Stub} (hst : st ∈ (plan .standard sourceName c).1.stubs) :
    (plan .standard sourceName c).1.StandsFor st.className (some st.typeName) :=
  ⟨st, filter_eq_singleton (nodup_stubNames sourceName c) hst, rfl⟩

theorem standsFor_fake {p : Property} {t : String} (hp : p ∈ c.properties)
    (ht : Stub.stubbedType? .standard p = some t) :
    (plan .standard sourceName c).1.StandsFor ("Fake" ++ t) (some t) := by
  have hexists : ∃ st ∈ Stub.fakes .standard c, st.typeName = t :=
    Stub.exists_mem_collect_iff.mpr ⟨p, hp, ht⟩
  obtain ⟨st, hst, rfl⟩ := hexists
  have hname : st.className = "Fake" ++ st.typeName := Stub.className_of_mem_collect hst
  have hstands := standsFor_of_mem sourceName c (List.mem_append_left _ hst)
  rwa [hname] at hstands

theorem standsFor_stub {p : Property} {t : String} (hp : p ∈ c.parameters)
    (ht : Stub.stubbedType? .standard p = some t) :
    (plan .standard sourceName c).1.StandsFor ("Stub" ++ t) (some t) := by
  have hexists : ∃ st ∈ Stub.injected .standard c, st.typeName = t := by
    rw [Stub.injected_eq_collect]
    exact Stub.exists_mem_collect_iff.mpr ⟨p, hp, ht⟩
  obtain ⟨st, hst, rfl⟩ := hexists
  have hstands := standsFor_of_mem sourceName c (List.mem_append_right _ hst)
  rw [Stub.injected_eq_collect] at hst
  have hname : st.className = "Stub" ++ st.typeName := Stub.className_of_mem_collect hst
  rwa [hname] at hstands

theorem testName_not_mem :
    "Test" ++ c.name ∉ c.name :: (plan .standard sourceName c).1.stubs.map Stub.className := by
  intro h
  rcases List.mem_cons.mp h with hself | hstub
  · have hlength := congrArg String.length hself
    have htest : "Test".length = 4 := by decide
    rw [String.length_append] at hlength
    omega
  · rcases (mem_stubNames_iff sourceName c).mp hstub with ⟨-, -, t, -, hname⟩ | ⟨-, -, t, -, hname⟩
    · have hhead := congrArg (fun n : String => n.toList.head?) hname
      simp at hhead
    · have hsecond := congrArg (fun n : String => n.toList[1]?) hname
      simp at hsecond

theorem nodup_classNames_iff : (plan .standard sourceName c).1.classNames.Nodup ↔
    c.name ∉ (plan .standard sourceName c).1.stubs.map Stub.className := by
  have hnames : (plan .standard sourceName c).1.classNames =
      (c.name :: (plan .standard sourceName c).1.stubs.map Stub.className) ++ ["Test" ++ c.name] := by
    have himports : (plan .standard sourceName c).1.imports.flatMap Prod.snd = [c.name] :=
      importsOf_flatMap ..
    rw [classNames, himports]
    rfl
  rw [hnames]
  constructor
  · intro h
    exact (List.nodup_cons.mp (List.nodup_append'.mp h).1).1
  · intro h
    refine List.nodup_append'.mpr ⟨List.nodup_cons.mpr ⟨h, nodup_stubNames sourceName c⟩, ?_, ?_⟩
    · exact List.nodup_singleton _
    · exact List.disjoint_singleton.mpr (testName_not_mem sourceName c)

/-- What the construction passes for a parameter names no stub or the one for its type. -/
theorem standsFor_of_within_passed {p : Property} (hp : p ∈ c.parameters) {name : String}
    (h : (Value.objectStub name).Within (passed (Stub.injected .standard c) p).value) :
    name ∈ Value.placeholderTypes ∨
      (plan .standard sourceName c).1.StandsFor name p.typeName := by
  by_cases hstubbed : ∃ t, Stub.stubbedType? .standard p = some t ∧ p.isArray = false
  · obtain ⟨t, ht, harray⟩ := hstubbed
    have hvalue := passed_value_of_stubbed hp ht harray
    rw [hvalue] at h
    cases h
    obtain ⟨-, htype, -⟩ := Stub.stubbedType?_eq_some_iff.mp ht
    rw [htype]
    exact .inr (standsFor_stub sourceName c hp ht)
  · have hvalue : (passed (Stub.injected .standard c) p).value = Value.make p := by
      apply passed_value_of_unstubbed
      intro t ht
      by_contra harray
      exact hstubbed ⟨t, ht, Bool.eq_false_iff.mpr harray⟩
    rw [hvalue] at h
    exact .inl (Value.mem_placeholderTypes_of_within_make h)

end Standard

/-- The classes that a test module names are told apart by their names if and only if the class under
test has not the name of a stub. What is wired to a field or passed for a parameter is always the one
stub for its type. -/
theorem class_names_distinct_iff (sourceName : String) (c : Class) :
    let s := (plan .standard sourceName c).1
    (s.classNames.Nodup ↔
      (∀ p ∈ c.properties, ∀ t, Stub.stubbedType? .standard p = some t → c.name ≠ "Fake" ++ t) ∧
      ∀ p ∈ c.parameters, ∀ t, Stub.stubbedType? .standard p = some t → c.name ≠ "Stub" ++ t) ∧
    (∀ w ∈ s.wiring, ∃ p ∈ c.properties, ∃ n, p.name = some n ∧
      w.attr = mangle n (some c.name) ∧ s.StandsFor w.stub p.typeName) ∧
    ∃ i, s.construction = some i ∧
      List.Forall₂ (fun p a => ∀ name, (Value.objectStub name).Within a.value →
        name ∈ Value.placeholderTypes ∨ s.StandsFor name p.typeName) c.parameters i.args := by
  intro s
  refine ⟨?_, ?_, ?_⟩
  · rw [nodup_classNames_iff, mem_stubNames_iff, not_or]
    simp only [not_exists, not_and, ne_eq]
  · intro w hw
    have hw : w ∈ wiringOf .standard c (Stub.fakes .standard c)
      (injectedNames c (Stub.injected .standard c)) := hw
    obtain ⟨-, p, hp, n, t, hname, ht, -, -, rfl⟩ := mem_wiringOf_iff.mp hw
    obtain ⟨-, htype, -⟩ := Stub.stubbedType?_eq_some_iff.mp ht
    refine ⟨p, hp, n, hname, rfl, ?_⟩
    rw [htype]
    exact standsFor_fake sourceName c hp ht
  · refine ⟨constructionOf c (Stub.injected .standard c), rfl, ?_⟩
    rw [constructionOf_args, List.forall₂_map_right_iff]
    apply List.forall₂_same.mpr
    intro p hp name h
    exact standsFor_of_within_passed sourceName c hp h

/-- A class under the name of the fake for the type of its field. -/
def disguised : Class :=
  Sample.holding "FakeA" "module" "part" (.hint .number Span.unknown)

/-- Where a class has the name of a stub, the stub takes its place. -/
theorem class_replaced_by_stub :
    ¬ ∀ (sourceName source module : String) (m : Node), ∀ c ∈ Class.ofModule source module m,
      (plan .standard sourceName c).1.classNames.Nodup := by
  intro h
  have hc := Sample.holding_mem_ofModule "FakeA" "module" "part" (.hint .number Span.unknown)
  have hnames := h "" "" "module" _ disguised hc
  exact absurd hnames (by decide +kernel)

end Suite
end BranchCover
