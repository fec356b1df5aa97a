import BranchCover.Proofs.Emission

/-! Fields that a scenario sets. The statements that set them are written for the instance under test,
and stand before the call; the call reads them if it is made on that instance. A method without an
instance is called on its class instead, so that what its conditions are to read is set elsewhere. -/
namespace BranchCover

namespace Member

/-- A condition reads a field of a class: it refers to the field as an attribute of the receiver of the
method, or under a name that no parameter has. -/
structure Reads (m : Member) (cls : Class) (c : Condition) (symbol : String) : Prop where
  reference : ∃ n, c.drivingReference? = some n ∧ n.reference? = some symbol ∧
    (m.isReceiverAccess n ∨ Property.find? m.method.parameters symbol = none)
  isField : (Property.find? cls.properties symbol).isSome

variable {m : Member} {cls : Class}

theorem route_eq_field_iff (hm : m.owner = some cls) {c : Condition} {name : String} :
    m.route c = .field name ↔ ∃ symbol, m.Reads cls c symbol ∧ name = mangle symbol cls.name := by
  unfold route
  cases hd : c.drivingReference? with
  | none =>
    constructor
    · intro h
      cases h
    · rintro ⟨symbol, ⟨⟨n, hn, -⟩, -⟩, -⟩
      simp [hd] at hn
  | some n =>
    obtain ⟨symbol, hsymbol⟩ := Option.isSome_iff_exists.mp (Condition.isSome_reference hd)
    simp only [hm, hsymbol, Option.getD_some]
    have hreads : (∃ s, m.Reads cls c s ∧ name = mangle s cls.name) ↔
        (m.isReceiverAccess n ∨ Property.find? m.method.parameters symbol = none) ∧
          (Property.find? cls.properties symbol).isSome ∧ name = mangle symbol cls.name := by
      constructor
      · rintro ⟨s, ⟨⟨k, hk, hs, haccess⟩, hfield⟩, hname⟩
        obtain rfl : n = k := Option.some.inj (hd.symm.trans hk)
        obtain rfl : symbol = s := Option.some.inj (hsymbol.symm.trans hs)
        exact ⟨haccess, hfield, hname⟩
      · rintro ⟨haccess, hfield, hname⟩
        exact ⟨symbol, ⟨⟨n, hd, hsymbol, haccess⟩, hfield⟩, hname⟩
    rw [hreads]
    by_cases hparam : (!m.isReceiverAccess n &&
        (Property.find? m.method.parameters symbol).isSome) = true
    · rw [if_pos hparam]
      simp only [Bool.and_eq_true, Bool.not_eq_true', Option.isSome_iff_ne_none] at hparam
      simp [hparam.1, hparam.2]
    · rw [if_neg hparam]
      have haccess : m.isReceiverAccess n ∨ Property.find? m.method.parameters symbol = none := by
        simpa [Decidable.or_iff_not_imp_left] using hparam
      by_cases hfield : (Property.find? cls.properties symbol).isSome = true
      · rw [if_pos hfield]
        simp only [Route.field.injEq]
        exact ⟨fun h => ⟨haccess, hfield, h.symm⟩, fun h => h.2.2.symm⟩
      · simp [hfield]

/-- The scenario of an entry sets the field that its condition reads, to the value of the entry. -/
theorem mem_assignments_iff (hm : m.owner = some cls) {e : Drive} {a : FieldAssign} :
    a ∈ m.assignments e ↔
      ∃ symbol, m.Reads cls e.condition symbol ∧ a = ⟨mangle symbol cls.name, e.value⟩ := by
  have hroute : a ∈ m.assignments e ↔
      ∃ name, m.route e.condition = .field name ∧ a = ⟨name, e.value⟩ := by
    cases h : m.route e.condition <;> simp [assignments, h]
  rw [hroute]
  constructor
  · rintro ⟨name, hname, rfl⟩
    obtain ⟨symbol, hreads, rfl⟩ := (route_eq_field_iff hm).mp hname
    exact ⟨symbol, hreads, rfl⟩
  · rintro ⟨symbol, hreads, rfl⟩
    exact ⟨_, (route_eq_field_iff hm).mpr ⟨symbol, hreads, rfl⟩, rfl⟩

/-- A composition of decisions that succeeds gives the scenarios of the trace. -/
theorem scenarios_of_branches {b : Branch} {bs : List Branch} {ss : List Scenario}
    (hbody : m.method.body = some (.mk (b :: bs))) (h : m.scenarios.1 = .ok ss) :
    ss = m.scenariosFrom 1 [] m.method.trace := by
  have hr := renders_of_ok h
  have htrace : m.method.trace = (Block.mk (b :: bs)).trace := by
    simp only [Method.trace, hbody, Block.traceOf]
  rw [htrace] at hr ⊢
  rw [m.scenarios_eq hbody (by simp [Block.branches]) hr] at h
  exact (Except.ok.inj h).symm

/-- A composition that succeeds gives the scenarios of the trace, or the one of a method without
decisions. -/
theorem scenarios_of_ok {ss : List Scenario} (h : m.scenarios.1 = .ok ss) :
    ss = m.scenariosFrom 1 [] m.method.trace ∨
      m.method.trace = [] ∧ ss = [⟨m.method.name, m.invocation [], [], none⟩] := by
  rcases m.sole_or_branches with ⟨htrace, hsole⟩ | ⟨b, bs, hbody⟩
  · exact .inr ⟨htrace, Except.ok.inj (h.symm.trans hsole)⟩
  · exact .inl (scenarios_of_branches hbody h)

variable {ss : List Scenario}

/-- Every scenario makes the invocation of its method, with values in force of its own. -/
theorem invocation_of_mem_scenarios (h : m.scenarios.1 = .ok ss) {s : Scenario} (hs : s ∈ ss) :
    ∃ o, s.invocation = m.invocation o := by
  rcases scenarios_of_ok h with rfl | ⟨-, rfl⟩
  · obtain ⟨k, hk⟩ := List.mem_iff_getElem?.mp hs
    rw [getElem?_scenariosFrom] at hk
    obtain ⟨e, -, rfl⟩ := Option.map_eq_some_iff.mp hk
    exact ⟨_, rfl⟩
  · rw [List.mem_singleton.mp hs]
    exact ⟨_, rfl⟩

theorem receiver_of_mem_scenarios (h : m.scenarios.1 = .ok ss) {s : Scenario} (hs : s ∈ ss) :
    s.invocation.receiver = m.receiver := by
  obtain ⟨o, ho⟩ := invocation_of_mem_scenarios h hs
  rw [ho]
  rfl

theorem exists_mem_assignments_iff (h : m.scenarios.1 = .ok ss) {a : FieldAssign} :
    (∃ s ∈ ss, a ∈ s.assignments) ↔ ∃ e ∈ m.method.trace, a ∈ m.assignments e := by
  rcases scenarios_of_ok h with rfl | ⟨htrace, rfl⟩
  · constructor
    · rintro ⟨s, hs, ha⟩
      obtain ⟨k, hk⟩ := List.mem_iff_getElem?.mp hs
      rw [getElem?_scenariosFrom] at hk
      obtain ⟨e, he, rfl⟩ := Option.map_eq_some_iff.mp hk
      exact ⟨e, List.mem_of_getElem? he, ha⟩
    · rintro ⟨e, he, ha⟩
      obtain ⟨k, hk⟩ := List.mem_iff_getElem?.mp he
      have hscenario := m.getElem?_scenariosFrom 1 k [] m.method.trace
      rw [hk, Option.map_some] at hscenario
      exact ⟨_, List.mem_of_getElem? hscenario, ha⟩
  · simp [htrace]

theorem values_render_of_ok (h : m.scenarios.1 = .ok ss) :
    ∀ s ∈ ss, ∀ v ∈ s.values, v.Renders := by
  by_cases hlong : ∃ e ∈ m.method.trace, e.value.Overlong
  · rw [scenarios_of_overlong hlong] at h
    cases h
  · obtain ⟨ss', hss', hvalues⟩ := scenarios_of_short (m := m) fun e he hover => hlong ⟨e, he, hover⟩
    obtain rfl : ss = ss' := Except.ok.inj (h.symm.trans hss')
    exact hvalues

/-- The scenarios of a method set the fields of its class that its conditions read, each to a value that
drives the condition; this is written as statements about the instance under test, before the call. All
scenarios with such a statement call the method on that instance exactly if the method needs an
instance, or the class has the name of the instance, or no condition reads a field. -/
theorem fields_reach_call_iff {o : Options} {cls : Class} {method : Method} {ss : List Scenario}
    (h : (Member.scenarios ⟨method, some cls, o⟩).1 = .ok ss) :
    (∀ s ∈ ss, ∃ call, s.invocation.source = .ok call ∧
      (Suite.emitScenario o s).Writes (s.rows o call)) ∧
    (∀ s ∈ ss, ∀ a ∈ s.assignments, ∃ e ∈ method.trace, ∃ symbol,
      Reads ⟨method, some cls, o⟩ cls e.condition symbol ∧
        a = ⟨mangle symbol cls.name, e.value⟩) ∧
    ((∀ s ∈ ss, s.assignments ≠ [] → s.invocation.receiver = o.targetName) ↔
      method.isStatic = false ∨ cls.name = o.targetName ∨
        ∀ e ∈ method.trace, ∀ symbol, ¬ Reads ⟨method, some cls, o⟩ cls e.condition symbol) := by
  have hset : ∀ a, (∃ s ∈ ss, a ∈ s.assignments) ↔ ∃ e ∈ method.trace, ∃ symbol,
      Reads ⟨method, some cls, o⟩ cls e.condition symbol ∧ a = ⟨mangle symbol cls.name, e.value⟩ := by
    intro a
    simp only [exists_mem_assignments_iff h, mem_assignments_iff (m := ⟨method, some cls, o⟩) rfl]
  refine ⟨?_, fun s hs a ha => (hset a).mp ⟨s, hs, ha⟩, ?_⟩
  · intro s hs
    have hvalues := values_render_of_ok h s hs
    obtain ⟨call, hcall⟩ := Invocation.source_ok (i := s.invocation) fun a ha =>
      hvalues _ (List.mem_append_left _ (List.mem_map_of_mem ha))
    exact ⟨call, hcall, Suite.emitScenario_writes o hvalues hcall⟩
  · constructor
    · intro hall
      by_cases hstatic : method.isStatic = true
      · by_cases hname : cls.name = o.targetName
        · exact .inr (.inl hname)
        · refine .inr (.inr ?_)
          intro e he symbol hreads
          obtain ⟨s, hs, ha⟩ := (hset _).mpr ⟨e, he, symbol, hreads, rfl⟩
          have hreceiver := receiver_of_mem_scenarios h hs
          rw [hall s hs (List.ne_nil_of_mem ha)] at hreceiver
          simp only [receiver, hstatic, if_true] at hreceiver
          exact hname hreceiver.symm
      · exact .inl (by simpa using hstatic)
    · intro hcases s hs hne
      rw [receiver_of_mem_scenarios h hs]
      rcases hcases with hstatic | hname | hnone
      · simp [receiver, hstatic]
      · simp [receiver, hname]
      · obtain ⟨a, ha⟩ := List.exists_mem_of_ne_nil _ hne
        obtain ⟨e, he, symbol, hreads, -⟩ := (hset a).mp ⟨s, hs, ha⟩
        exact absurd hreads (hnone e he symbol)

/-! A class method that tests a field of its class. -/

def limitTest : Node :=
  .binary (.memberAccess (.identifier "cls" ⟨5, 11, 5, 14⟩) "limit" ⟨5, 11, 5, 20⟩) .eq
    (.numeric (.int 7) ⟨5, 24, 5, 25⟩) ⟨5, 11, 5, 25⟩

def limit : Property :=
  ⟨some "limit", some .number, none, false, true, true, false,
    some (.numeric (.int 5) ⟨2, 17, 2, 18⟩)⟩

def onLimit : Condition := .ofTest [] limitTest

def classMethod : Method :=
  ⟨"open", [], some (.mk [.ifElse onLimit (.mk []) none]), none, true, true, false, some "cls", none⟩

def limited : Class := ⟨"Gate", "module", [limit], none, [classMethod], none⟩

theorem trace_classMethod :
    classMethod.trace = [⟨onLimit, .number (.int 7)⟩, ⟨onLimit, .number (.int 8)⟩] := by rfl

theorem reads_limit : Reads ⟨classMethod, some limited, .standard⟩ limited onLimit "limit" where
  reference := ⟨_, rfl, rfl, .inl (by decide)⟩
  isField := by decide

theorem scenarios_classMethod :
    ∃ ss, (Member.scenarios ⟨classMethod, some limited, .standard⟩).1 = .ok ss := by
  have hr : ∀ e ∈ (Block.mk [.ifElse onLimit (.mk []) none]).trace, e.Renders := by decide +kernel
  exact ⟨_, by rw [scenarios_eq _ rfl (by simp [Block.branches]) hr]⟩

theorem fields_reach_call_iff_classMethod :
    ∃ ss, (Member.scenarios ⟨classMethod, some limited, .standard⟩).1 = .ok ss ∧
      ¬ ∀ s ∈ ss, s.assignments ≠ [] → s.invocation.receiver = "target" := by
  obtain ⟨ss, hss⟩ := scenarios_classMethod
  refine ⟨ss, hss, ?_⟩
  intro hall
  rcases (fields_reach_call_iff hss).2.2.mp hall with hstatic | hname | hnone
  · cases hstatic
  · exact absurd hname (by decide)
  · exact hnone _ (by rw [trace_classMethod]; exact List.mem_cons_self) _ reads_limit

/-- The field is set on the instance, and the class is called. -/
theorem class_called_after_field_set :
    ¬ ∀ (o : Options) (cls : Class) (method : Method) (ss : List Scenario),
      (Member.scenarios ⟨method, some cls, o⟩).1 = .ok ss →
        ∀ s ∈ ss, s.assignments ≠ [] → s.invocation.receiver = o.targetName := by
  intro h
  obtain ⟨ss, hss⟩ := scenarios_classMethod
  have hassigned := (mem_assignments_iff (m := ⟨classMethod, some limited, .standard⟩)
    (e := ⟨onLimit, .number (.int 7)⟩) rfl).mpr ⟨"limit", reads_limit, rfl⟩
  obtain ⟨s, hs, ha⟩ := (exists_mem_assignments_iff hss).mpr
    ⟨_, by rw [trace_classMethod]; exact List.mem_cons_self, hassigned⟩
  have hreceiver := h _ _ _ ss hss s hs (List.ne_nil_of_mem ha)
  rw [receiver_of_mem_scenarios hss hs] at hreceiver
  exact absurd hreceiver (by decide)

end Member
end BranchCover
