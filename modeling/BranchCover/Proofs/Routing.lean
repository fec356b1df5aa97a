import BranchCover.Proofs.Replay

/-! Where the values of a condition go. By its form a reference is a bare name, which is a parameter
first and a field then, or an attribute of the receiver, which is a field. A reference of any other form
is an attribute of some other object, and nothing of the method decides it; but it is taken for a bare
name. -/
namespace BranchCover
namespace Member

/-- The values in force after a value has gone a route. -/
def Route.overrides (v : Value) (o : Overrides) : Route → Overrides
  | .parameter name => o.set name v
  | _ => o

/-- The fields that are to be set when a value has gone a route. -/
def Route.fields (v : Value) : Route → List FieldAssign
  | .field name => [⟨name, v⟩]
  | _ => []

variable (m : Member)

def HasParameter (name : String) : Prop :=
  (Property.find? m.method.parameters name).isSome

def HasField (name : String) : Prop :=
  ∃ cls, m.owner = some cls ∧ (Property.find? cls.properties name).isSome

/-- The route to the field of a name, if the class declares it. -/
def fieldRoute (name : String) : Route :=
  match m.owner with
  | some cls =>
    if (Property.find? cls.properties name).isSome then .field (mangle name (some cls.name))
    else .unrouted name
  | none => .unrouted name

/-- The route of a bare name. -/
def nameRoute (name : String) : Route :=
  if (Property.find? m.method.parameters name).isSome then .parameter name else m.fieldRoute name

/-- The route by the form of a reference: a bare name, an attribute of the receiver, or neither. -/
def formRoute (c : Condition) : Route :=
  match c.drivingReference? with
  | some (.identifier name _) => m.nameRoute name
  | some (.memberAccess target name s) =>
    if m.isReceiverAccess (.memberAccess target name s) then m.fieldRoute name else .undriven
  | _ => .undriven

/-- A condition refers to an attribute of an object other than the receiver. -/
def RefersToOther (c : Condition) (name : String) : Prop :=
  ∃ target s, c.drivingReference? = some (.memberAccess target name s) ∧
    m.isReceiverAccess (.memberAccess target name s) = false

/-- Preparing a condition sends a value along a route, and does nothing else. -/
def Sends (c : Condition) (v : Value) (s : Composition) (r : Route) : Prop :=
  ∃ notes, (m.prepare c v).run.run s =
    (.ok (r.fields v), { s with overrides := r.overrides v s.overrides, notes := s.notes ++ notes })

theorem sends_route (c : Condition) (v : Value) (s : Composition) : m.Sends c v s (m.route c) := by
  refine ⟨m.notesOn ⟨c, v⟩, ?_⟩
  cases hr : m.route c <;> simp [prepare, notesOn, hr, Route.fields, Route.overrides] <;> rfl

variable {m} {c : Condition} {name : String}

theorem fieldRoute_of_field (h : m.HasField name) : ∃ stored, m.fieldRoute name = .field stored := by
  obtain ⟨cls, hm, hfield⟩ := h
  exact ⟨mangle name (some cls.name), by simp [fieldRoute, hm, hfield]⟩

theorem fieldRoute_of_no_field (h : ¬ m.HasField name) : m.fieldRoute name = .unrouted name := by
  unfold fieldRoute
  cases hm : m.owner with
  | none => rfl
  | some cls => exact if_neg fun hsome => h ⟨cls, hm, hsome⟩

theorem nameRoute_of_parameter (h : m.HasParameter name) : m.nameRoute name = .parameter name :=
  if_pos h

theorem nameRoute_of_no_parameter (h : ¬ m.HasParameter name) :
    m.nameRoute name = m.fieldRoute name :=
  if_neg h

/-- The route of a condition does not ask whose attribute a reference is, the receiver apart. -/
theorem route_of_refersToOther (h : m.RefersToOther c name) : m.route c = m.nameRoute name := by
  obtain ⟨target, s, hreference, hother⟩ := h
  simp only [route, hreference, Node.reference?, Option.getD_some, hother, Bool.not_false, Bool.true_and]
  rfl

theorem formRoute_of_refersToOther (h : m.RefersToOther c name) : m.formRoute c = .undriven := by
  obtain ⟨target, s, hreference, hother⟩ := h
  simp [formRoute, hreference, hother]

/-- A bare name and an attribute of the receiver go the route of their form. -/
theorem route_eq_formRoute (h : ∀ name, ¬ m.RefersToOther c name) : m.route c = m.formRoute c := by
  unfold formRoute
  cases hreference : c.drivingReference? with
  | none => simp only [route, hreference]
  | some n =>
    rcases Node.exists_of_reference (Condition.isSome_reference hreference) with
      ⟨x, s, rfl⟩ | ⟨target, x, s, rfl⟩
    · simp only [route, hreference]
      rfl
    · cases haccess : m.isReceiverAccess (.memberAccess target x s) with
      | false => exact absurd ⟨target, s, hreference, haccess⟩ (h x)
      | true =>
        simp only [route, hreference, haccess]
        rfl

theorem Sends.eq {v : Value} {s : Composition} {r r' : Route} (h : m.Sends c v s r)
    (h' : m.Sends c v s r') : r.fields v = r'.fields v ∧ r.overrides v s.overrides =
      r'.overrides v s.overrides := by
  obtain ⟨notes, hrun⟩ := h
  obtain ⟨notes', hrun'⟩ := h'
  have hpair := hrun.symm.trans hrun'
  exact ⟨Except.ok.inj (congrArg Prod.fst hpair),
    congrArg (fun p => Composition.overrides p.2) hpair⟩

/-- A value goes to the parameter of a bare name, or to the field of a bare name or of an attribute of the
receiver, and nothing else is done with it, exactly if the condition does not refer to an attribute of
another object that is called like a parameter or a field. One that does has the value go to the parameter
or field of that name. -/
theorem sends_by_form_iff (m : Member) (c : Condition) :
    (∀ name, m.RefersToOther c name → ∀ v s, m.Sends c v s (m.nameRoute name)) ∧
    ((∀ v s, m.Sends c v s (m.formRoute c)) ↔
      ∀ name, m.RefersToOther c name → ¬ m.HasParameter name ∧ ¬ m.HasField name) := by
  have hother : ∀ name, m.RefersToOther c name → ∀ v s, m.Sends c v s (m.nameRoute name) :=
    fun name h v s => route_of_refersToOther h ▸ m.sends_route c v s
  refine ⟨hother, ?_, ?_⟩
  · intro hform name hrefers
    obtain ⟨hfields, hvalues⟩ := (hother name hrefers .null .initial).eq (hform .null .initial)
    rw [formRoute_of_refersToOther hrefers] at hfields hvalues
    have hparameter : ¬ m.HasParameter name := by
      intro hparameter
      rw [nameRoute_of_parameter hparameter] at hvalues
      cases hvalues
    refine ⟨hparameter, ?_⟩
    intro hfield
    obtain ⟨stored, hstored⟩ := fieldRoute_of_field hfield
    rw [nameRoute_of_no_parameter hparameter, hstored] at hfields
    cases hfields
  · intro hnone v s
    by_cases hrefers : ∃ name, m.RefersToOther c name
    · obtain ⟨name, hrefers⟩ := hrefers
      obtain ⟨hparameter, hfield⟩ := hnone name hrefers
      have hsent := hother name hrefers v s
      rw [nameRoute_of_no_parameter hparameter, fieldRoute_of_no_field hfield] at hsent
      rw [formRoute_of_refersToOther hrefers]
      exact hsent
    · exact route_eq_formRoute (not_exists.mp hrefers) ▸ m.sends_route c v s

/-! A method with a parameter that another one has an attribute like. -/

def otherTest : Node :=
  .binary (.memberAccess (.identifier "other" ⟨3, 11, 3, 16⟩) "limit" ⟨3, 11, 3, 22⟩) .eq
    (.numeric (.int 7) ⟨3, 26, 3, 27⟩) ⟨3, 11, 3, 27⟩

def onOther : Condition := .ofTest [] otherTest

def compared : Member :=
  ⟨⟨"open", [.unknown (some "limit") none, .unknown (some "other") none],
    some (.mk [.ifElse onOther (.mk []) none]), none, true, false, false, some "self", none⟩,
    none, .standard⟩

/-- The parameter is given a value for the attribute of the other one. -/
theorem parameter_set_for_attribute :
    ¬ ∀ (m : Member) (c : Condition) (v : Value) (s : Composition), m.Sends c v s (m.formRoute c) := by
  intro h
  have hrefers : compared.RefersToOther onOther "limit" :=
    ⟨.identifier "other" ⟨3, 11, 3, 16⟩, ⟨3, 11, 3, 22⟩, rfl, by decide⟩
  have hparameter : compared.HasParameter "limit" := rfl
  have hsent := compared.sends_route onOther .null .initial
  rw [route_of_refersToOther hrefers, nameRoute_of_parameter hparameter] at hsent
  have hform := h compared onOther .null .initial
  rw [formRoute_of_refersToOther hrefers] at hform
  cases (hsent.eq hform).2

end Member
end BranchCover
