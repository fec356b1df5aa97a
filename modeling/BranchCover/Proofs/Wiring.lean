import BranchCover.Proofs.Resolving
import BranchCover.Proofs.Stubbing
import BranchCover.Proofs.Sample

/-! Fields that hold stubs. A field is wired to the fake of its type unless a parameter of its name has a
type with a stub; the construction is taken to pass a stub then, which it does not if the parameter is an
array. -/
namespace BranchCover

namespace Property

/-- A type is known by its name for objects alone. -/
def Typed (p : Property) : Prop :=
  ∀ t, p.typeName = some t → p.category = some .object

theorem ofNode_typed (s : Scope) (n : Node) : (ofNode s n).Typed := by
  intro t ht
  apply (wellFormed_ofNode s n).typed.mpr
  rw [ht]
  rfl

end Property

namespace Class

/-- What holds of the fields and parameters of any class that a module declares. -/
structure Resolved (c : Class) : Prop where
  field_named : ∀ p ∈ c.properties, ∃ n, p.name = some n
  parameter_typed : ∀ p ∈ c.parameters, p.Typed

theorem ofMembers_resolved (lines : List (List Char)) (s : Property.Scope) (module name : String)
    (body : List Node) : (ofMembers lines s module name body).Resolved where
  field_named p hp := by
    obtain ⟨n, -, hn⟩ := List.mem_filterMap.mp hp
    split at hn
    · rename_i field a v site span
      obtain rfl := Option.some.inj hn
      exact ⟨field, Property.ofNode_name s (.property field a v site span)⟩
    · cases hn
  parameter_typed p hp := by
    unfold parameters at hp
    split at hp
    · cases hp
    · rename_i m hm
      obtain ⟨n, -, hn⟩ := List.exists_of_findSome?_eq_some hm
      split at hn
      · rename_i head params b _ _
        obtain ⟨-, hmethod⟩ := Option.ite_none_right_eq_some.mp hn
        obtain rfl := Option.some.inj hmethod
        obtain ⟨d, -, rfl⟩ := List.mem_map.mp hp
        exact Property.ofNode_typed s d
      · cases hn

theorem resolved_of_mem_ofModule {source module : String} {m : Node} {c : Class}
    (hc : c ∈ ofModule source module m) : c.Resolved := by
  obtain ⟨n, -, hn⟩ := List.mem_filterMap.mp hc
  unfold ofNode? at hn
  split at hn
  · rw [← Option.some.inj hn]
    exact ofMembers_resolved ..
  · cases hn

end Class

namespace Suite

/-- The construction passes for a parameter of the name a stub of the suite, the one for its type. -/
def Passes (s : Suite) (c : Class) (name : String) : Prop :=
  ∃ i, s.construction = some i ∧ ∃ e ∈ c.parameters.zip i.args, e.1.name = some name ∧
    ∃ st ∈ s.stubs, e.2.value = .objectStub st.className ∧ e.1.typeName = some st.typeName

variable {o : Options} {c : Class}

theorem stubbable_of_mem_stubs {sourceName : String} {st : Stub}
    (hst : st ∈ (plan o sourceName c).1.stubs) : o.stubbable (some st.typeName) = true := by
  have hst : st ∈ Stub.fakes o c ++ Stub.injected o c := hst
  rw [Stub.injected_eq_collect] at hst
  have hstubbed : ∃ p, Stub.stubbedType? o p = some st.typeName := by
    rcases List.mem_append.mp hst with hst | hst
    · obtain ⟨p, -, ht⟩ := Stub.exists_mem_collect_iff.mp ⟨st, hst, rfl⟩
      exact ⟨p, ht⟩
    · obtain ⟨p, -, ht⟩ := Stub.exists_mem_collect_iff.mp ⟨st, hst, rfl⟩
      exact ⟨p, ht⟩
  obtain ⟨p, ht⟩ := hstubbed
  exact (Stub.stubbedType?_eq_some_iff.mp ht).2.2

theorem make_ne_objectStub {p : Property} (h : p.isArray = true) (name : String) :
    Value.make p ≠ .objectStub name := by
  unfold Value.make Value.placeholder
  simp only [h, if_true]
  split
  · simp
  · simp
  · simp
  · split
    · split <;> simp
    · simp

/-- A stub is passed for the parameters whose type has one, but for arrays. -/
theorem passes_iff (o : Options) (hc : c.Resolved) (sourceName name : String) :
    (plan o sourceName c).1.Passes c name ↔ ∃ q ∈ c.parameters, q.name = some name ∧
      (Stub.stubbedType? o q).isSome = true ∧ q.isArray = false := by
  have hargs : c.parameters.zip (constructionOf c (Stub.injected o c)).args =
      c.parameters.map fun q => (q, passed (Stub.injected o c) q) := by
    rw [constructionOf_args]
    simpa using List.zip_map' (f := id) (g := passed (Stub.injected o c)) (l := c.parameters)
  constructor
  · rintro ⟨i, hi, e, he, hname, st, hst, hvalue, htype⟩
    obtain rfl : constructionOf c (Stub.injected o c) = i := Option.some.inj hi
    rw [hargs] at he
    obtain ⟨q, hq, rfl⟩ := List.mem_map.mp he
    have hobject : q.category = some .object := hc.parameter_typed q hq _ htype
    have ht : Stub.stubbedType? o q = some st.typeName :=
      Stub.stubbedType?_eq_some_iff.mpr ⟨hobject, htype, stubbable_of_mem_stubs hst⟩
    refine ⟨q, hq, hname, by rw [ht]; rfl, ?_⟩
    by_contra harray
    have harray : q.isArray = true := by simpa using harray
    have hmade : (passed (Stub.injected o c) q).value = Value.make q :=
      passed_value_of_unstubbed fun _ _ => harray
    exact make_ne_objectStub harray st.className (hmade.symm.trans hvalue)
  · rintro ⟨q, hq, hname, hsome, harray⟩
    obtain ⟨t, ht⟩ := Option.isSome_iff_exists.mp hsome
    obtain ⟨-, htype, -⟩ := Stub.stubbedType?_eq_some_iff.mp ht
    have hexists : ∃ st ∈ Stub.injected o c, st.typeName = t ∧ st.className = o.stubMark ++ t := by
      rw [Stub.injected_eq_collect]
      obtain ⟨st, hst, rfl⟩ := Stub.exists_mem_collect_iff.mpr ⟨q, hq, ht⟩
      exact ⟨st, hst, rfl, Stub.className_of_mem_collect hst⟩
    obtain ⟨st, hst, hst_type, hst_name⟩ := hexists
    refine ⟨constructionOf c (Stub.injected o c), rfl, (q, passed (Stub.injected o c) q), ?_, hname,
      st, List.mem_append_right _ hst, ?_, ?_⟩
    · rw [hargs]
      exact List.mem_map_of_mem hq
    · rw [hst_name]
      exact passed_value_of_stubbed hq ht harray
    · rw [hst_type]
      exact htype

/-- The names of the parameters whose type has a stub, arrays among them. -/
theorem mem_injectedNames_iff_of_resolved (hc : c.Resolved) {n : String} :
    n ∈ injectedNames c (Stub.injected o c) ↔
      n ≠ "" ∧ ∃ q ∈ c.parameters, q.name = some n ∧ (Stub.stubbedType? o q).isSome = true := by
  rw [mem_injectedNames_iff]
  apply and_congr_right
  intro hn
  constructor
  · rintro ⟨p, hp, hname, q, -, t, hq, htype⟩
    obtain ⟨-, -, hstubbable⟩ := Stub.stubbedType?_eq_some_iff.mp hq
    have ht : Stub.stubbedType? o p = some t :=
      Stub.stubbedType?_eq_some_iff.mpr ⟨hc.parameter_typed p hp t htype, htype, hstubbable⟩
    exact ⟨p, hp, hname, by rw [ht]; rfl⟩
  · rintro ⟨p, hp, hname, hsome⟩
    obtain ⟨t, ht⟩ := Option.isSome_iff_exists.mp hsome
    exact ⟨p, hp, hname, p, hp, t, ht, (Stub.stubbedType?_eq_some_iff.mp ht).2.1⟩

/-- A field is wired to the fake of its type, or a stub is passed for a parameter of its name. -/
def HoldsStub (s : Suite) (o : Options) (c : Class) (name type : String) : Prop :=
  ⟨mangle name (some c.name), o.fakeMark ++ type⟩ ∈ s.wiring ∨ s.Passes c name

/-- A field of a type that has a fake is wired if it, or another field of the type that is stored under
the same name, has no parameter of its name whose type has a stub. -/
theorem wired_iff (hc : c.Resolved) (hwire : o.wireFakes = true) (sourceName name : String)
    {type : String} (hstubbable : o.stubbable (some type) = true) :
    ⟨mangle name (some c.name), o.fakeMark ++ type⟩ ∈ (plan o sourceName c).1.wiring ↔
      ∃ f ∈ c.properties, f.typeName = some type ∧ f.category = some .object ∧ f.isArray = false ∧
        ∃ k, f.name = some k ∧ mangle k (some c.name) = mangle name (some c.name) ∧
          (k = "" ∨ ∀ q ∈ c.parameters, q.name = some k → Stub.stubbedType? o q = none) := by
  have hfree : ∀ k, k ∉ injectedNames c (Stub.injected o c) ↔
      k = "" ∨ ∀ q ∈ c.parameters, q.name = some k → Stub.stubbedType? o q = none := by
    intro k
    rw [mem_injectedNames_iff_of_resolved hc]
    by_cases hk : k = ""
    · simp [hk]
    · simp [hk]
  simp only [← hfree]
  change _ ∈ wiringOf o c (Stub.fakes o c) (injectedNames c (Stub.injected o c)) ↔ _
  rw [mem_wiringOf_iff]
  constructor
  · rintro ⟨-, f, hf, k, t, hk, ht, hplain, hfree, hw⟩
    obtain ⟨hattr, hstub⟩ := Wiring.mk.inj hw
    obtain rfl : type = t := (String.append_right_inj _).mp hstub
    obtain ⟨hobject, htype, -⟩ := Stub.stubbedType?_eq_some_iff.mp ht
    exact ⟨f, hf, htype, hobject, hplain, k, hk, hattr.symm, hfree⟩
  · rintro ⟨f, hf, htype, hobject, hplain, k, hk, hattr, hfree⟩
    have ht := Stub.stubbedType?_eq_some_iff.mpr ⟨hobject, htype, hstubbable⟩
    exact ⟨hwire, f, hf, k, type, hk, ht, hplain, hfree, by rw [hattr]⟩

/-- A field of a stubbed type holds a stub if and only if a parameter of its name is of a stubbed type
and no array, or the field itself, or one of its type that is stored under the same name, has no
parameter of its name that is of a stubbed type. Where it holds none, a parameter of its name is an
array of a stubbed type. -/
theorem stubbed_field_holds_iff {source module : String} {m : Node}
    (hc : c ∈ Class.ofModule source module m) (hwire : o.wireFakes = true) (sourceName : String)
    {p : Property} (hp : p ∈ c.properties) (hobject : p.category = some .object)
    (harray : p.isArray = false) (hstubbable : o.stubbable p.typeName = true) :
    let s := (plan o sourceName c).1
    ∃ n t, p.name = some n ∧ p.typeName = some t ∧
      (s.HoldsStub o c n t ↔
        (∃ f ∈ c.properties, f.typeName = some t ∧ f.category = some .object ∧ f.isArray = false ∧
          ∃ k, f.name = some k ∧ mangle k (some c.name) = mangle n (some c.name) ∧
            (k = "" ∨ ∀ q ∈ c.parameters, q.name = some k → Stub.stubbedType? o q = none)) ∨
        ∃ q ∈ c.parameters, q.name = some n ∧ (Stub.stubbedType? o q).isSome = true ∧
          q.isArray = false) ∧
      (¬ s.HoldsStub o c n t →
        ∃ q ∈ c.parameters, q.name = some n ∧ (Stub.stubbedType? o q).isSome = true ∧
          q.isArray = true) := by
  intro s
  have hresolved := Class.resolved_of_mem_ofModule hc
  obtain ⟨n, hn⟩ := hresolved.field_named p hp
  obtain ⟨t, ht⟩ : ∃ t, p.typeName = some t := by
    cases htype : p.typeName with
    | none => simp [Options.stubbable, htype] at hstubbable
    | some t => exact ⟨t, rfl⟩
  rw [ht] at hstubbable
  have hholds := or_congr (wired_iff hresolved hwire sourceName n hstubbable)
    (passes_iff o hresolved sourceName n)
  refine ⟨n, t, hn, ht, hholds, ?_⟩
  intro hnot
  by_contra hnone
  apply hnot
  apply hholds.mpr
  by_cases hparameter : ∃ q ∈ c.parameters, q.name = some n ∧ (Stub.stubbedType? o q).isSome = true
  · obtain ⟨q, hq, hname, hsome⟩ := hparameter
    have hplain : q.isArray = false := by
      by_contra h
      exact hnone ⟨q, hq, hname, hsome, by simpa using h⟩
    exact .inr ⟨q, hq, hname, hsome, hplain⟩
  · have hfree : ∀ q ∈ c.parameters, q.name = some n → Stub.stubbedType? o q = none := by
      intro q hq hname
      by_contra hsome
      exact hparameter ⟨q, hq, hname, Option.isSome_iff_ne_none.mpr hsome⟩
    exact .inl ⟨p, hp, ht, hobject, harray, n, hn, rfl, .inr hfree⟩

/-! A class whose constructor takes the part that it holds, alone or as an array. -/

def givenPart (typing : Node) : Class :=
  Sample.holding "Gate" "module" "part" typing

def partType : Node := .typeRef "A" Span.unknown

theorem stubbed_field_holds_iff_part :
    (plan .standard "" (givenPart partType)).1.HoldsStub .standard (givenPart partType) "part" "A" := by
  obtain ⟨n, t, hn, ht, hholds, -⟩ := stubbed_field_holds_iff (o := .standard)
    (Sample.holding_mem_ofModule ..) rfl "" (p := Sample.partField "part") List.mem_cons_self rfl rfl
    (by decide)
  obtain rfl : "part" = n := Option.some.inj hn
  obtain rfl : "A" = t := Option.some.inj ht
  exact hholds.mpr (.inr ⟨_, List.mem_cons_self, rfl, by decide, rfl⟩)

/-- A field holds no stub where the constructor takes an array under its name. -/
theorem field_without_stub :
    ¬ ∀ (sourceName source module : String) (m : Node), ∀ c ∈ Class.ofModule source module m,
      ∀ p ∈ c.properties, p.category = some .object → p.isArray = false →
        ∀ n t, p.name = some n → p.typeName = some t → Options.standard.stubbable (some t) = true →
          (plan .standard sourceName c).1.HoldsStub .standard c n t := by
  intro h
  have hc := Sample.holding_mem_ofModule "Gate" "module" "part" (.arrayType partType Span.unknown)
  have hholds := h "" "" "module" _ _ hc (Sample.partField "part") List.mem_cons_self rfl rfl
    "part" "A" rfl rfl (by decide)
  rcases hholds with hwired | hpasses
  · exact absurd hwired (by decide +kernel)
  · obtain ⟨q, hq, -, -, harray⟩ :=
      (passes_iff _ (Class.resolved_of_mem_ofModule hc) "" "part").mp hpasses
    rw [List.mem_singleton.mp hq] at harray
    cases harray

end Suite
end BranchCover
