import BranchCover.Proofs.Coverage

/-! What parameters hold at each visit of a composition. A parameter keeps its value over visits that
are not routed to it, and one to which no condition elsewhere is routed is changed by the visits to one
place alone. -/
namespace BranchCover
namespace Member

variable {m : Member}

/-- The visits from some values in force on, each with the values in force at its scenario. -/
def held (m : Member) : Overrides → List Visit → List (Visit × Overrides)
  | _, [] => []
  | o, x :: xs => (x, m.settle o x.toDrive) :: held m (m.settle o x.toDrive) xs

@[simp] theorem leaves_nil (o : Overrides) : m.leaves o [] = o := rfl

@[simp] theorem leaves_append (o : Overrides) (xs ys : List Visit) :
    m.leaves o (xs ++ ys) = m.leaves (m.leaves o xs) ys := by
  simp [leaves]

@[simp] theorem leaves_map_under (o : Overrides) (i : Nat) (slot : Slot) (xs : List Visit) :
    m.leaves o (xs.map (Visit.under i slot)) = m.leaves o xs := by
  rw [leaves, Visit.map_toDrive_under, leaves]

theorem held_append (o : Overrides) (xs ys : List Visit) :
    m.held o (xs ++ ys) = m.held o xs ++ m.held (m.leaves o xs) ys := by
  induction xs generalizing o with
  | nil => rfl
  | cons x xs ih =>
    rw [List.cons_append, held, ih, held]
    rfl

theorem held_map_under (o : Overrides) (i : Nat) (slot : Slot) (xs : List Visit) :
    m.held o (xs.map (Visit.under i slot)) = (m.held o xs).map fun p => (p.1.under i slot, p.2) := by
  induction xs generalizing o with
  | nil => rfl
  | cons x xs ih => simp [held, ih]

theorem getElem?_held (o : Overrides) (xs : List Visit) (k : Nat) :
    (m.held o xs)[k]? = xs[k]?.map fun x => (x, m.leaves o (xs.take (k + 1))) := by
  induction xs generalizing o k with
  | nil => simp [held]
  | cons x xs ih =>
    cases k with
    | zero => simp [held, leaves]
    | succ k =>
      simp only [held, List.getElem?_cons_succ, ih, List.take_succ_cons]
      rfl

theorem exists_mem_held {xs : List Visit} {x : Visit} (hx : x ∈ xs) (o : Overrides) :
    ∃ o', (x, o') ∈ m.held o xs := by
  obtain ⟨k, hk⟩ := List.mem_iff_getElem?.mp hx
  exact ⟨_, List.mem_of_getElem? (by rw [getElem?_held, hk, Option.map_some])⟩

theorem mem_of_mem_held {xs : List Visit} {x : Visit} {o o' : Overrides}
    (h : (x, o') ∈ m.held o xs) : x ∈ xs := by
  induction xs generalizing o with
  | nil => simp [held] at h
  | cons y xs ih =>
    rcases List.mem_cons.mp h with h | h
    · simp_all
    · exact List.mem_cons_of_mem _ (ih h)

/-- No visit is routed to a parameter. -/
def Quiet (m : Member) (name : String) (xs : List Visit) : Prop :=
  ∀ x ∈ xs, m.route x.condition ≠ .parameter name

namespace Quiet

variable {name : String} {xs ys : List Visit}

theorem mono (h : m.Quiet name xs) (hys : ys ⊆ xs) : m.Quiet name ys :=
  fun x hx => h x (hys hx)

theorem of_map_under {i : Nat} {slot : Slot} (h : m.Quiet name (xs.map (Visit.under i slot))) :
    m.Quiet name xs :=
  fun x hx => h (x.under i slot) (List.mem_map_of_mem hx)

theorem find?_leaves (h : m.Quiet name xs) (o : Overrides) :
    (m.leaves o xs).find? name = o.find? name := by
  induction xs generalizing o with
  | nil => rfl
  | cons x xs ih =>
    have hx : m.route x.condition ≠ .parameter name := h x (by simp)
    have hxs : m.Quiet name xs := fun y hy => h y (by simp [hy])
    have hs : (m.settle o x.toDrive).find? name = o.find? name := by simp [find?_settle, hx]
    exact (ih hxs _).trans hs

theorem find?_held (h : m.Quiet name xs) {o o' : Overrides} {x : Visit}
    (hx : (x, o') ∈ m.held o xs) : o'.find? name = o.find? name := by
  obtain ⟨k, hk⟩ := List.mem_iff_getElem?.mp hx
  rw [getElem?_held, Option.map_eq_some_iff] at hk
  obtain ⟨y, -, he⟩ := hk
  obtain ⟨rfl, rfl⟩ := Prod.mk.inj he
  exact find?_leaves (fun z hz => h z (List.mem_of_mem_take hz)) o

end Quiet

theorem find?_leaves_singleton {name : String} {x : Visit}
    (hx : m.route x.condition = .parameter name) (o : Overrides) :
    (m.leaves o [x]).find? name = some x.value := by
  simp [leaves, find?_settle, hx]

theorem exists_scenario_of_held {body : Block} (hr : ∀ e ∈ body.trace, e.Renders) {x : Visit}
    {o : Overrides} (hx : (x, o) ∈ m.held [] body.visits) :
    ∃ (k : Nat) (s : Scenario), body.visits[k]? = some x ∧
      (m.scenariosFrom 1 [] body.trace)[k]? = some s ∧ m.ComposedFor x.toDrive s ∧
      s.invocation.args = baseArguments m.method.parameters o ∧
      ∀ name v, (Property.find? m.method.parameters name).isSome → o.find? name = some v →
        s.Passes name v := by
  obtain ⟨k, hk⟩ := List.mem_iff_getElem?.mp hx
  rw [getElem?_held, Option.map_eq_some_iff] at hk
  obtain ⟨y, hy, he⟩ := hk
  obtain ⟨rfl, rfl⟩ := Prod.mk.inj he
  refine ⟨k, _, hy, getElem?_scenarios hy, ?_, rfl, fun name v hp hv => passes_of_find? _ _ hp hv⟩
  rw [leaves_take_succ hy]
  exact composedFor_scenarioOf _ _ (renders_of_mem hr (List.mem_of_getElem? hy))

/-- The arguments of a scenario come from what is in force at its visit. -/
theorem exists_held_of_scenario {body : Block} {k : Nat} {x : Visit} {s : Scenario}
    (hk : body.visits[k]? = some x) (hs : (m.scenariosFrom 1 [] body.trace)[k]? = some s) :
    ∃ o, (x, o) ∈ m.held [] body.visits ∧
      s.invocation.args = baseArguments m.method.parameters o := by
  have hheld := m.getElem?_held [] body.visits k
  rw [hk, Option.map_some] at hheld
  rw [getElem?_scenarios hk] at hs
  obtain rfl := Option.some.inj hs
  exact ⟨_, List.mem_of_getElem? hheld, rfl⟩

/-- No condition that stands elsewhere than at a place is routed to a parameter. -/
def Owned (m : Member) (blk : Block) (q : Place) (name : String) : Prop :=
  ∀ r b d, blk.at? r = some b → d ∈ b.conditions → m.route d = .parameter name → r = q

namespace Owned

variable {blk below : Block} {b : Branch} {i : Nat} {slot : Slot} {q : Place} {name : String}

instance : Decidable (m.Owned blk q name) :=
  decidable_of_iff (∀ p ∈ blk.decisions, ∀ d ∈ p.2.conditions,
      m.route d = .parameter name → p.1 = q) <| by
    constructor
    · exact fun h r b d hat => h (r, b) (Block.mem_decisions.mpr hat) d
    · exact fun h p hp d => h p.1 p.2 d (Block.mem_decisions.mp hp)

theorem quiet (h : m.Owned blk q name) {xs : List Visit} (hxs : xs ⊆ blk.visits)
    (hq : ∀ x ∈ xs, x.place ≠ q) : m.Quiet name xs := by
  intro x hx hr
  obtain ⟨⟨b, hat, hc⟩, -⟩ := Block.mem_visits_iff.mp (hxs hx)
  exact hq x hx (h x.place b x.condition hat (List.mem_of_getElem? hc) hr)

theorem quiet_below (hi : blk.branches[i]? = some b) (hne : b.conditions ≠ [])
    (h : m.Owned blk (.here i) name) : m.Quiet name (b.visitsBelow i) := by
  refine h.quiet ?_ (fun x hx => Branch.place_of_mem_visitsBelow hx)
  intro x hx
  exact Block.mem_visits.mpr ⟨i, b, hi, Branch.visitsBelow_subset hne hx⟩

theorem descend (hb : blk.branches[i]? = some b) (hbelow : b.block? slot = some below)
    (h : m.Owned blk (.into i slot q) name) : m.Owned below q name := by
  intro r x d hat hd hr
  have hat : blk.at? (.into i slot r) = some x := Block.at?_into_eq_some.mpr ⟨b, _, hb, hbelow, hat⟩
  exact (Place.into.inj (h _ x d hat hd hr)).2.2

end Owned
end Member
end BranchCover
