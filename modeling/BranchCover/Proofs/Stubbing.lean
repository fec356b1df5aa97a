import BranchCover.Proofs.Planned

/-! Stubs of a plan. Each type among the fields has one fake and each type among the parameters of the
constructor one stub, which is named after its type behind a mark. The construction passes for a
parameter the stub of its type, or else its base value, and a field is wired to the fake of its type. -/
namespace BranchCover

def Class.parameters (c : Class) : List Property :=
  match c.constructor with
  | none => []
  | some m => m.parameters

namespace Stub

theorem firsts_cons_of_mem {known ts : List String} {t : String} (h : t ∈ known) :
    firsts known (t :: ts) = firsts known ts := by
  simp [firsts, h]

theorem firsts_cons_of_not_mem {known ts : List String} {t : String} (h : t ∉ known) :
    firsts known (t :: ts) = t :: firsts (t :: known) ts := by
  simp [firsts, h]

/-- By induction along the items, for any types that are known. -/
theorem mem_firsts {known ts : List String} {t : String} :
    t ∈ firsts known ts ↔ t ∈ ts ∧ t ∉ known := by
  induction ts generalizing known with
  | nil => simp [firsts]
  | cons s ts ih =>
    by_cases hs : s ∈ known
    · rw [firsts_cons_of_mem hs, ih, List.mem_cons]
      by_cases hts : t = s
      · simp [hts, hs]
      · simp [hts]
    · rw [firsts_cons_of_not_mem hs, List.mem_cons, ih, List.mem_cons, List.mem_cons]
      by_cases hts : t = s
      · simp [hts, hs]
      · simp [hts]

theorem nodup_firsts (known ts : List String) : (firsts known ts).Nodup := by
  induction ts generalizing known with
  | nil => exact List.nodup_nil
  | cons t ts ih =>
    by_cases ht : t ∈ known
    · rw [firsts_cons_of_mem ht]
      exact ih known
    · have hfresh : t ∉ firsts (t :: known) ts := fun h => (mem_firsts.mp h).2 List.mem_cons_self
      rw [firsts_cons_of_not_mem ht]
      exact List.nodup_cons.mpr ⟨hfresh, ih _⟩

theorem stubbedType?_eq_some_iff {o : Options} {p : Property} {t : String} :
    stubbedType? o p = some t ↔
      p.category = some .object ∧ p.typeName = some t ∧ o.stubbable (some t) = true := by
  unfold stubbedType?
  by_cases hobject : p.category = some .object
  · by_cases hname : p.typeName = some t
    · simp [hobject, hname]
    · simp [hname]
  · simp [hobject]

section Collecting

variable {o : Options} {mark : String} {root : Option Node} {ps : List Property}

theorem typeNames_collect (o : Options) (mark : String) (root : Option Node) (ps : List Property) :
    (collect o mark root ps).map typeName = firsts [] (ps.filterMap (stubbedType? o)) := by
  simp [collect, Function.comp_def]

theorem className_of_mem_collect {s : Stub} (hs : s ∈ collect o mark root ps) :
    s.className = mark ++ s.typeName := by
  obtain ⟨t, -, rfl⟩ := List.mem_map.mp hs
  rfl

theorem exists_mem_collect_iff {t : String} :
    (∃ s ∈ collect o mark root ps, s.typeName = t) ↔ ∃ p ∈ ps, stubbedType? o p = some t := by
  have hnames : t ∈ (collect o mark root ps).map typeName ↔ ∃ p ∈ ps, stubbedType? o p = some t := by
    rw [typeNames_collect, mem_firsts, List.mem_filterMap]
    simp
  rw [← hnames, List.mem_map]

theorem mem_classNames_collect_iff {name : String} :
    name ∈ (collect o mark root ps).map className ↔
      ∃ p ∈ ps, ∃ t, stubbedType? o p = some t ∧ name = mark ++ t := by
  constructor
  · intro h
    obtain ⟨s, hs, rfl⟩ := List.mem_map.mp h
    obtain ⟨p, hp, ht⟩ := exists_mem_collect_iff.mp ⟨s, hs, rfl⟩
    exact ⟨p, hp, s.typeName, ht, className_of_mem_collect hs⟩
  · rintro ⟨p, hp, t, ht, rfl⟩
    obtain ⟨s, hs, rfl⟩ := exists_mem_collect_iff.mpr ⟨p, hp, ht⟩
    exact List.mem_map.mpr ⟨s, hs, className_of_mem_collect hs⟩

theorem nodup_classNames_collect (o : Options) (mark : String) (root : Option Node)
    (ps : List Property) : ((collect o mark root ps).map className).Nodup := by
  have htypes : ((collect o mark root ps).map typeName).Nodup := by
    rw [typeNames_collect]
    exact nodup_firsts _ _
  have hnames : (collect o mark root ps).map className =
      ((collect o mark root ps).map typeName).map (mark ++ ·) := by
    rw [List.map_map]
    exact List.map_congr_left fun s hs => className_of_mem_collect hs
  rw [hnames]
  exact htypes.map fun s t h => (String.append_right_inj mark).mp h

theorem classFor?_collect_eq_some_iff {typeName : Option String} {name : String} :
    classFor? (collect o mark root ps) typeName = some name ↔
      ∃ p ∈ ps, ∃ t, stubbedType? o p = some t ∧ typeName = some t ∧ name = mark ++ t := by
  unfold classFor?
  constructor
  · intro h
    obtain ⟨s, hfind, rfl⟩ := Option.map_eq_some_iff.mp h
    have hs : s ∈ collect o mark root ps := List.mem_of_find?_eq_some hfind
    have hfound := List.find?_some hfind
    have htype : some s.typeName = typeName := eq_of_beq hfound
    obtain ⟨p, hp, ht⟩ := exists_mem_collect_iff.mp ⟨s, hs, rfl⟩
    exact ⟨p, hp, s.typeName, ht, htype.symm, className_of_mem_collect hs⟩
  · rintro ⟨p, hp, t, ht, rfl, rfl⟩
    have hexists : ∃ s ∈ collect o mark root ps, s.typeName = t :=
      exists_mem_collect_iff.mpr ⟨p, hp, ht⟩
    obtain ⟨s, hs, htype⟩ := hexists
    have hsome : ((collect o mark root ps).find? (some ·.typeName == some t)).isSome = true :=
      List.find?_isSome.mpr ⟨s, hs, by simp [htype]⟩
    obtain ⟨s', hfind⟩ := Option.isSome_iff_exists.mp hsome
    have hfound := List.find?_some hfind
    have htype' : some s'.typeName = some t := eq_of_beq hfound
    rw [hfind, Option.map_some, className_of_mem_collect (List.mem_of_find?_eq_some hfind),
      Option.some.inj htype']

end Collecting

theorem injected_eq_collect (o : Options) (c : Class) :
    injected o c = collect o o.stubMark c.node c.parameters := by
  unfold injected Class.parameters
  cases c.constructor with
  | none => rfl
  | some m => rfl

end Stub

namespace Suite

/-- What the construction passes for a parameter. -/
def passed (stubs : List Stub) (p : Property) : Argument :=
  inject stubs p ⟨p.name.getD "", Value.make p, p.kwOnly⟩

theorem constructionOf_args (c : Class) (stubs : List Stub) :
    (constructionOf c stubs).args = c.parameters.map (passed stubs) := by
  unfold constructionOf Class.parameters
  cases c.constructor with
  | none => rfl
  | some m =>
    have hbase : baseArguments m.parameters [] =
        m.parameters.map fun p => ⟨p.name.getD "", Value.make p, p.kwOnly⟩ := rfl
    simp only [hbase, List.zipWith_map_right, List.zipWith_self]
    rfl

theorem passed_value_of_stubbed {o : Options} {c : Class} {p : Property} {t : String}
    (hp : p ∈ c.parameters) (ht : Stub.stubbedType? o p = some t) (harray : p.isArray = false) :
    (passed (Stub.injected o c) p).value = .objectStub (o.stubMark ++ t) := by
  obtain ⟨hobject, hname, -⟩ := Stub.stubbedType?_eq_some_iff.mp ht
  have hclass : Stub.classFor? (Stub.injected o c) p.typeName = some (o.stubMark ++ t) := by
    rw [Stub.injected_eq_collect]
    exact Stub.classFor?_collect_eq_some_iff.mpr ⟨p, hp, t, ht, hname, rfl⟩
  simp [passed, inject, hobject, harray, hclass]

theorem passed_value_of_unstubbed {o : Options} {c : Class} {p : Property}
    (h : ∀ t, Stub.stubbedType? o p = some t → p.isArray = true) :
    (passed (Stub.injected o c) p).value = Value.make p := by
  unfold passed inject
  split
  · rename_i hplain
    split
    · rename_i name hclass
      obtain ⟨hobject, harray⟩ := Bool.and_eq_true_iff.mp hplain
      rw [Stub.injected_eq_collect] at hclass
      obtain ⟨q, -, t, hq, hname, -⟩ := Stub.classFor?_collect_eq_some_iff.mp hclass
      obtain ⟨-, -, hstubbable⟩ := Stub.stubbedType?_eq_some_iff.mp hq
      -- a type is stubbed for all parameters of the type if it is for one of them
      have ht : Stub.stubbedType? o p = some t :=
        Stub.stubbedType?_eq_some_iff.mpr ⟨of_decide_eq_true hobject, hname, hstubbable⟩
      simp [h t ht] at harray
    · rfl
  · rfl

/-- A parameter whose type has a stub, whatever else is known of it. -/
theorem mem_injectedNames_iff {o : Options} {c : Class} {n : String} :
    n ∈ injectedNames c (Stub.injected o c) ↔ n ≠ "" ∧ ∃ p ∈ c.parameters, p.name = some n ∧
      ∃ q ∈ c.parameters, ∃ t, Stub.stubbedType? o q = some t ∧ p.typeName = some t := by
  have hnames : injectedNames c (Stub.injected o c) = c.parameters.filterMap fun p =>
      p.name.bind fun n =>
        if n != "" && (Stub.classFor? (Stub.injected o c) p.typeName).isSome then some n else none := by
    unfold injectedNames Class.parameters
    cases c.constructor with
    | none => rfl
    | some m => exact List.filterMap_congr fun p _ => by cases p.name <;> rfl
  have hclass : ∀ tn, (Stub.classFor? (Stub.injected o c) tn).isSome = true ↔
      ∃ q ∈ c.parameters, ∃ t, Stub.stubbedType? o q = some t ∧ tn = some t := by
    intro tn
    rw [Option.isSome_iff_exists, Stub.injected_eq_collect]
    simp only [Stub.classFor?_collect_eq_some_iff]
    constructor
    · rintro ⟨_, q, hq, t, ht, htn, -⟩
      exact ⟨q, hq, t, ht, htn⟩
    · rintro ⟨q, hq, t, ht, htn⟩
      exact ⟨_, q, hq, t, ht, htn, rfl⟩
  rw [hnames, List.mem_filterMap]
  simp only [← hclass]
  constructor
  · rintro ⟨p, hp, hn⟩
    cases hname : p.name with
    | none => simp [hname] at hn
    | some n' =>
      simp only [hname, Option.bind_some, Option.ite_none_right_eq_some, Bool.and_eq_true,
        bne_iff_ne] at hn
      obtain ⟨⟨hne, hsome⟩, hn'⟩ := hn
      obtain rfl := Option.some.inj hn'
      exact ⟨hne, p, hp, hname, hsome⟩
  · rintro ⟨hne, p, hp, hname, hsome⟩
    exact ⟨p, hp, by simp [hname, hne, hsome]⟩

/-- A wired field is one of a stubbed type whose name is not that of an injected parameter. -/
theorem mem_wiringOf_iff {o : Options} {c : Class} {taken : List String} {w : Wiring} :
    w ∈ wiringOf o c (Stub.fakes o c) taken ↔ o.wireFakes = true ∧
      ∃ p ∈ c.properties, ∃ n t, p.name = some n ∧ Stub.stubbedType? o p = some t ∧
        p.isArray = false ∧ n ∉ taken ∧ w = ⟨mangle n (some c.name), o.fakeMark ++ t⟩ := by
  cases hwire : o.wireFakes with
  | false => simp [wiringOf, hwire]
  | true =>
    simp only [wiringOf, hwire, Bool.not_true, Bool.false_eq_true, if_false, List.mem_filterMap,
      true_and]
    apply exists_congr
    intro p
    apply and_congr_right
    intro hp
    cases hname : p.name with
    | none => simp
    | some n =>
      simp only [Option.ite_none_right_eq_some, Option.map_eq_some_iff, Stub.fakes,
        Stub.classFor?_collect_eq_some_iff, Bool.and_eq_true, decide_eq_true_eq, Bool.not_eq_true',
        Option.some.injEq]
      constructor
      · rintro ⟨⟨⟨hobject, harray⟩, htaken⟩, _, ⟨q, -, t, hq, htype, rfl⟩, rfl⟩
        obtain ⟨-, -, hstubbable⟩ := Stub.stubbedType?_eq_some_iff.mp hq
        have ht := Stub.stubbedType?_eq_some_iff.mpr ⟨hobject, htype, hstubbable⟩
        exact ⟨n, t, rfl, ht, harray, by simpa using htaken, rfl⟩
      · rintro ⟨_, t, rfl, ht, harray, htaken, rfl⟩
        obtain ⟨hobject, htype, -⟩ := Stub.stubbedType?_eq_some_iff.mp ht
        exact ⟨⟨⟨hobject, harray⟩, by simpa using htaken⟩, _, ⟨p, hp, t, ht, htype, rfl⟩, rfl⟩

end Suite
end BranchCover
