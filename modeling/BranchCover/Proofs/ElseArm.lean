import BranchCover.Proofs.Outcome
import BranchCover.Proofs.Held

/-! Arms for when a condition fails. A decision leaves behind the second value of its condition, and
blocks below it are composed before each value is set. In the first run through a decision its blocks
see what the parameter held before and then the first value; they see the second value only if the
decision is run through again, because it stands below another one. -/
namespace BranchCover

theorem append_subset_around {α : Type} (pre xs post : List α) : pre ++ post ⊆ pre ++ xs ++ post :=
  List.append_subset.mpr
    ⟨fun x hx => by simp [hx], List.subset_append_right _ _⟩

namespace Visit

theorem under_injective (i : Nat) (slot : Slot) : Function.Injective (under i slot) := by
  rintro ⟨d, p, j⟩ ⟨d', p', j'⟩ h
  simpa [under] using h

/-- A visit seen from outside a block that stands below the decision at a place. -/
def through (q : Place) (slot : Slot) (x : Visit) : Visit :=
  { x with place := q.through slot x.place }

@[simp] theorem through_here (i : Nat) (slot : Slot) (x : Visit) :
    x.through (.here i) slot = x.under i slot := rfl

@[simp] theorem through_into (i : Nat) (s : Slot) (q : Place) (slot : Slot) (x : Visit) :
    x.through (.into i s q) slot = (x.through q slot).under i s := rfl

end Visit

namespace Member

variable {m : Member} {name : String} {v w : Value} {x : Visit} {xs ys : List Visit}

/-- A parameter holds a value at one of the times that visits from some values in force on come to a
condition. -/
def Seen (m : Member) (name : String) (x : Visit) (o : Overrides) (xs : List Visit)
    (u : Option Value) : Prop :=
  ∃ o', (x, o') ∈ m.held o xs ∧ o'.find? name = u

theorem seen_append {o : Overrides} {u : Option Value} :
    m.Seen name x o (xs ++ ys) u ↔
      m.Seen name x o xs u ∨ m.Seen name x (m.leaves o xs) ys u := by
  simp [Seen, held_append, or_and_right, exists_or]

theorem not_seen_of_not_mem (hx : x ∉ xs) (o : Overrides) (u : Option Value) :
    ¬m.Seen name x o xs u := by
  rintro ⟨o', ho', -⟩
  exact hx (mem_of_mem_held ho')

theorem Quiet.seen_iff (h : m.Quiet name xs) (hx : x ∈ xs) {o : Overrides} {u : Option Value} :
    m.Seen name x o xs u ↔ u = o.find? name := by
  constructor
  · rintro ⟨o', ho', rfl⟩
    exact h.find?_held ho'
  · rintro rfl
    obtain ⟨o', ho'⟩ := exists_mem_held (m := m) hx o
    exact ⟨o', ho', h.find?_held ho'⟩

theorem seen_map_under {i : Nat} {slot : Slot} {o : Overrides} {u : Option Value} :
    m.Seen name (x.under i slot) o (xs.map (Visit.under i slot)) u ↔ m.Seen name x o xs u := by
  simp only [Seen, held_map_under, List.mem_map, Prod.mk.injEq]
  constructor
  · rintro ⟨o', ⟨⟨y, p⟩, hy, he, rfl⟩, hu⟩
    obtain rfl := Visit.under_injective i slot he
    exact ⟨p, hy, hu⟩
  · rintro ⟨o', ho', hu⟩
    exact ⟨o', ⟨(x, o'), ho', rfl, rfl⟩, hu⟩

/-- Visits leave a parameter with the second of two values. Whenever they come to a condition it holds
what it held before or the first value, or also the second one if they come there again. -/
structure Turns (m : Member) (name : String) (v w : Value) (x : Visit) (again : Prop)
    (xs : List Visit) : Prop where
  left : ∀ o, (m.leaves o xs).find? name = some w
  seen : ∀ o u, m.Seen name x o xs u ↔ u = o.find? name ∨ u = some v ∨ again ∧ u = some w

namespace Turns

variable {a b : Prop}

theorem append (hxs : m.Turns name v w x a xs) (hys : m.Turns name v w x b ys) :
    m.Turns name v w x True (xs ++ ys) where
  left := by
    intro o
    rw [leaves_append, hys.left]
  seen := by
    intro o u
    rw [seen_append, hxs.seen, hys.seen, hxs.left]
    tauto

/-- Visits around that leave the parameter alone and are elsewhere change nothing. -/
theorem frame {pre post : List Visit} (h : m.Turns name v w x a xs)
    (hq : m.Quiet name (pre ++ post)) (hx : x ∉ pre ++ post) :
    m.Turns name v w x a (pre ++ xs ++ post) where
  left := by
    intro o
    have hpost : m.Quiet name post := hq.mono (List.subset_append_right _ _)
    rw [leaves_append, leaves_append, hpost.find?_leaves, h.left]
  seen := by
    intro o u
    have hpre : m.Quiet name pre := hq.mono (List.subset_append_left _ _)
    have hx : x ∉ pre ∧ x ∉ post := by simpa using hx
    rw [seen_append, seen_append, h.seen, hpre.find?_leaves]
    simp [not_seen_of_not_mem hx.1, not_seen_of_not_mem hx.2]

theorem map_under (h : m.Turns name v w x a xs) (i : Nat) (slot : Slot) :
    m.Turns name v w (x.under i slot) a (xs.map (Visit.under i slot)) where
  left := by simpa using h.left
  seen := by
    intro o u
    rw [seen_map_under, h.seen]

/-- Parts one after the other, of which there is one at least, and each comes there again. -/
theorem flatMap {α : Type} {l : List α} {f : α → List Visit} (hne : l ≠ [])
    (h : ∀ y ∈ l, m.Turns name v w x True (f y)) : m.Turns name v w x True (l.flatMap f) := by
  induction l with
  | nil => exact absurd rfl hne
  | cons y l ih =>
    have hy : m.Turns name v w x True (f y) := h y (by simp)
    cases l with
    | nil => simpa using hy
    | cons z l => exact hy.append (ih (by simp) fun t ht => h t (by simp [ht]))

/-- The first run through a decision: blocks below see what was held before, then the first value. -/
theorem of_two_passes {below : List Visit} {i : Nat} {c : Condition} (hvw : c.callValues = [v, w])
    (hc : m.route c = .parameter name) (hq : m.Quiet name below) (hx : x ∈ below)
    (hp : x.place ≠ .here i) : m.Turns name v w x False (Visit.driven i below [c]) := by
  have hd : Visit.driven i below [c] = (below ++ [⟨⟨c, v⟩, .here i, 0⟩]) ++
      (below ++ [⟨⟨c, w⟩, .here i, 0⟩]) := by simp [Visit.driven, hvw]
  have hother : ∀ (u : Value) (o : Overrides) (z : Option Value),
      ¬m.Seen name x o [⟨⟨c, u⟩, .here i, 0⟩] z := by
    intro u
    apply not_seen_of_not_mem
    rintro hx
    obtain rfl := List.mem_singleton.mp hx
    exact hp rfl
  constructor
  · intro o
    rw [hd, ← List.append_assoc, leaves_append]
    exact find?_leaves_singleton hc _
  · intro o u
    rw [hd, seen_append, seen_append, seen_append, hq.seen_iff hx, hq.seen_iff hx, leaves_append,
      find?_leaves_singleton hc]
    simp [hother]

theorem driven {below : List Visit} {i : Nat} {cs : List Condition}
    (h : m.Turns name v w x a below) (hne : cs ≠ [])
    (hcs : ∀ c ∈ cs, m.route c ≠ .parameter name) (hp : x.place ≠ .here i) :
    m.Turns name v w x True (Visit.driven i below cs) := by
  have hpass : ∀ c ∈ cs, ∀ (u : Value) (j : Nat),
      m.Turns name v w x a (below ++ [⟨⟨c, u⟩, .here i, j⟩]) := by
    intro c hc u j
    have hq : m.Quiet name ([] ++ [⟨⟨c, u⟩, .here i, j⟩]) := by
      intro y hy
      obtain rfl := List.mem_singleton.mp hy
      exact hcs c hc
    refine h.frame hq ?_
    rintro hx
    obtain rfl := List.mem_singleton.mp hx
    exact hp rfl
  refine flatMap (by simpa using hne) ?_
  rintro ⟨c, j⟩ hc
  obtain ⟨v', w', hvw⟩ := c.exists_callValues
  have hc : c ∈ cs := List.mem_of_getElem? (List.mem_zipIdx_iff_getElem?.mp hc)
  simpa [hvw] using (hpass c hc v' j).append (hpass c hc w' j)

theorem block {blk : Block} {b : Branch} {q : Place} {i : Nat}
    (h : m.Turns name v w x a (b.visits i)) (hi : blk.branches[i]? = some b)
    (ho : m.Owned blk q name) (hq : q.first = i) (hx : x.place.first = i) :
    m.Turns name v w x a blk.visits := by
  obtain ⟨pre, post, hvisits, hother⟩ := Block.visits_split hi
  rw [hvisits]
  refine h.frame (ho.quiet ?_ ?_) ?_
  · rw [hvisits]
    exact append_subset_around pre (b.visits i) post
  · rintro y hy rfl
    exact hother y hy hq
  · exact fun hmem => hother x hmem hx

/-- What holds of the visits to a block below holds of all the visits below the decision. -/
theorem below {blk inner : Block} {b : Branch} {rest : Place} {i : Nat}
    {slot : Slot} (h : m.Turns name v w x a inner.visits) (hi : blk.branches[i]? = some b)
    (hinner : b.block? slot = some inner) (hne : b.conditions ≠ [])
    (ho : m.Owned blk (.into i slot rest) name) :
    m.Turns name v w (x.under i slot) a (b.visitsBelow i) := by
  obtain ⟨pre, post, hsplit, hother⟩ := Branch.visitsBelow_split hinner i
  rw [hsplit]
  refine (h.map_under i slot).frame (ho.quiet ?_ ?_) ?_
  · intro y hy
    refine Block.mem_visits.mpr ⟨i, b, hi, Branch.visitsBelow_subset hne ?_⟩
    rw [hsplit]
    exact append_subset_around pre _ post hy
  · intro y hy hp
    obtain ⟨s, r, hs, hp'⟩ := hother y hy
    exact hs (Place.into.inj (hp'.symm.trans hp)).2.1
  · intro hmem
    obtain ⟨s, r, hs, hp⟩ := hother _ hmem
    exact hs (Place.into.inj hp).2.1.symm

end Turns

/-- In one run through a decision its blocks see what was held before and the first value; with
decisions around, it is run through again. -/
theorem turns_of_owned {blk : Block} {q : Place} {c : Condition} {thn els : Block} {y : Visit}
    (hat : blk.at? q = some (.ifElse c thn (some els))) (hvw : c.callValues = [v, w])
    (hc : m.route c = .parameter name) (ho : m.Owned blk q name)
    (hopen : ∀ z ∈ blk.enclosing q, z.branch.conditions ≠ [])
    (hy : y ∈ els.visits) :
    m.Turns name v w (y.through q .orelse) (blk.enclosing q ≠ []) blk.visits := by
  induction q generalizing blk with
  | here i =>
    have hfirst : (blk.enclosing (.here i) ≠ []) = False := by simp [Block.enclosing]
    rw [hfirst, Visit.through_here]
    have hbelow : m.Quiet name (Branch.visitsBelow (.ifElse c thn (some els)) i) :=
      ho.quiet_below hat (by simp [Branch.conditions])
    have hx : y.under i .orelse ∈ Branch.visitsBelow (.ifElse c thn (some els)) i :=
      Branch.mem_visitsBelow.mpr ⟨.orelse, els, rfl, y, hy, rfl⟩
    have hturns : m.Turns name v w (y.under i .orelse) False
        (Branch.visits (.ifElse c thn (some els)) i) := by
      rw [Branch.visits_eq]
      exact Turns.of_two_passes hvw hc hbelow hx (by simp [Visit.under])
    exact hturns.block hat ho rfl rfl
  | into i slot rest ih =>
    obtain ⟨outer, inner, hi, hinner, hrest⟩ := Block.at?_into_eq_some.mp hat
    have hagain : (blk.enclosing (.into i slot rest) ≠ []) = True := by
      simp [Block.enclosing_into hi hinner]
    rw [hagain, Visit.through_into]
    rw [Block.enclosing_into hi hinner] at hopen
    have hne : outer.conditions ≠ [] := hopen ⟨.here i, outer, slot⟩ List.mem_cons_self
    have hnested : ∀ z ∈ inner.enclosing rest, z.branch.conditions ≠ [] := fun z hz =>
      hopen (z.under i slot) (List.mem_cons_of_mem _ (List.mem_map_of_mem hz))
    have hbelow := (ih hrest (ho.descend hi hinner) hnested).below hi hinner hne ho
    -- The parameter has its owner elsewhere, so the decision around is not routed to it.
    have hconds : ∀ d ∈ outer.conditions, m.route d ≠ .parameter name := by
      intro d hd hr
      exact absurd (ho (.here i) outer d hi hd hr) (by simp)
    have hturns : m.Turns name v w ((y.through rest .orelse).under i slot) True
        (outer.visits i) := by
      rw [Branch.visits_eq]
      exact hbelow.driven hne hconds (by simp [Visit.under])
    exact hturns.block hi ho rfl rfl

/-- The values that a call passes under a name which holds a value or none. -/
def passed (m : Member) (name : String) : Option Value → List Value
  | none => (m.method.parameters.filter fun p => p.name.getD "" = name).map Value.make
  | some u => [u]

theorem exists_argument_iff {o : Overrides} {P : Value → Prop}
    (hp : (Property.find? m.method.parameters name).isSome) :
    (∃ a ∈ baseArguments m.method.parameters o, a.name = name ∧ P a.value) ↔
      ∃ u ∈ m.passed name (o.find? name), P u := by
  cases ho : o.find? name with
  | none =>
    simp only [baseArguments, passed, List.mem_map, List.mem_filter, decide_eq_true_eq]
    constructor
    · rintro ⟨a, ⟨p, hp, rfl⟩, hname, h⟩
      have hname : p.name.getD "" = name := hname
      exact ⟨_, ⟨p, ⟨hp, hname⟩, rfl⟩, by simpa [hname, ho] using h⟩
    · rintro ⟨u, ⟨p, ⟨hp, hname⟩, rfl⟩, h⟩
      exact ⟨_, ⟨p, hp, rfl⟩, hname, by simpa [hname, ho] using h⟩
  | some u =>
    simp only [baseArguments, passed, List.mem_map, List.mem_singleton]
    constructor
    · rintro ⟨a, ⟨p, hp, rfl⟩, hname, h⟩
      have hname : p.name.getD "" = name := hname
      exact ⟨u, rfl, by simpa [hname, ho] using h⟩
    · rintro ⟨_, rfl, h⟩
      obtain ⟨p, hp, hname⟩ := exists_parameter hp
      exact ⟨_, ⟨p, hp, rfl⟩, by simp [hname], by simpa [hname, ho] using h⟩

/-- What the calls of a condition's scenarios pass is what its visits see. -/
theorem exists_scenario_iff_seen {body : Block} (hr : ∀ e ∈ body.trace, e.Renders)
    (hp : (Property.find? m.method.parameters name).isSome) {P : Value → Prop} :
    (∃ (k : Nat) (s : Scenario), body.visits[k]? = some x ∧
        (m.scenariosFrom 1 [] body.trace)[k]? = some s ∧ m.ComposedFor x.toDrive s ∧
        ∃ a ∈ s.invocation.args, a.name = name ∧ P a.value) ↔
      ∃ z, m.Seen name x [] body.visits z ∧ ∃ u ∈ m.passed name z, P u := by
  constructor
  · rintro ⟨k, s, hk, hs, -, ha⟩
    obtain ⟨o, ho, hargs⟩ := exists_held_of_scenario hk hs
    rw [hargs] at ha
    exact ⟨_, ⟨o, ho, rfl⟩, (exists_argument_iff hp).mp ha⟩
  · rintro ⟨_, ⟨o, ho, rfl⟩, hu⟩
    obtain ⟨k, s, hk, hs, hfor, hargs, -⟩ := exists_scenario_of_held hr ho
    refine ⟨k, s, hk, hs, hfor, ?_⟩
    rw [hargs]
    exact (exists_argument_iff hp).mpr hu

/-- An arm for when a test of a parameter fails is entered, exactly: a composition comes to what
stands there with a value under which the test fails if and only if the test fails under the value
that the parameter has by default, or the first that drives the test, or the second where the test
stands below another decision. -/
theorem else_arm_entered_iff {body : Block} (hbody : m.method.body = some body)
    (hr : ∀ e ∈ body.trace, e.Renders) {q : Place} {test : Condition} {thn els : Block}
    (hat : body.at? q = some (.ifElse test thn (some els)))
    (hroute : m.route test = .parameter name) (ho : m.Owned body q name)
    (hopen : ∀ z ∈ body.enclosing q, z.branch.conditions ≠ []) :
    ∃ ss, m.scenarios.1 = .ok ss ∧
      ∀ (r : Place) (b : Branch) (j : Nat) (c : Condition) (v : Value),
        els.at? r = some b → b.conditions[j]? = some c → v ∈ c.callValues →
        (∀ z ∈ els.enclosing r, z.branch.conditions ≠ []) →
        ((∃ (k : Nat) (s : Scenario),
            body.visits[k]? = some ⟨⟨c, v⟩, q.through .orelse r, j⟩ ∧ ss[k]? = some s ∧
            m.ComposedFor ⟨c, v⟩ s ∧
            ∃ a ∈ s.invocation.args, a.name = name ∧ test.outcome? name a.value = some false) ↔
          ∃ u ∈ m.passed name none ++
              test.callValues.take (if (body.enclosing q).isEmpty then 1 else 2),
            test.outcome? name u = some false) := by
  have hne : body.branches ≠ [] := Block.branches_ne_nil hat
  refine ⟨_, by rw [scenarios_eq m hbody hne hr], ?_⟩
  intro r b j c v hr' hc hv hopen'
  have hy : (⟨⟨c, v⟩, r, j⟩ : Visit) ∈ els.visits :=
    Block.mem_visits_iff.mpr ⟨⟨b, hr', hc⟩, hv, hopen'⟩
  obtain ⟨v₀, w₀, hvw⟩ := test.exists_callValues
  have hturns := turns_of_owned hat hvw hroute ho hopen hy
  have hseen := exists_scenario_iff_seen (m := m) (x := Visit.through q .orelse ⟨⟨c, v⟩, r, j⟩)
    (P := fun u => test.outcome? name u = some false) hr (find?_of_route hroute)
  refine hseen.trans ?_
  simp only [hturns.seen, hvw]
  cases body.enclosing q with
  | nil => simp [Overrides.find?, passed, or_and_right, exists_or]
  | cons z zs => simp [Overrides.find?, passed, or_and_right, exists_or]

/-- The test of `key` stands below another one, so its second value is in force when the arm for when
it fails is composed again. -/
theorem else_arm_entered_iff_gate :
    (∀ e ∈ Sample.body.trace, e.Renders) ∧
      Sample.onKey.Tests "key" ∧
      Sample.gate.Owned Sample.body (.into 0 (.body 0) (.here 0)) "key" ∧
      (∀ z ∈ Sample.body.enclosing (.into 0 (.body 0) (.here 0)), z.branch.conditions ≠ []) ∧
      ∃ (ss : List Scenario) (k : Nat) (s : Scenario), Sample.gate.scenarios.1 = .ok ss ∧
        Sample.body.visits[k]? = some ⟨⟨Sample.onForce 7 19, .boolean true⟩,
          .into 0 (.body 0) (.into 0 .orelse (.here 0)), 0⟩ ∧ ss[k]? = some s ∧
        ∃ a ∈ s.invocation.args,
          a.name = "key" ∧ Sample.onKey.outcome? "key" a.value = some false := by
  have hr : ∀ e ∈ Sample.body.trace, e.Renders := by decide +kernel
  have htests : Sample.onKey.Tests "key" := .equals _ _ _ rfl
  have ho : Sample.gate.Owned Sample.body (.into 0 (.body 0) (.here 0)) "key" := by decide +kernel
  have hopen : ∀ z ∈ Sample.body.enclosing (.into 0 (.body 0) (.here 0)),
      z.branch.conditions ≠ [] := by
    intro z hz
    obtain rfl := List.mem_singleton.mp hz
    simp [Branch.conditions]
  obtain ⟨ss, hss, hiff⟩ := else_arm_entered_iff (m := Sample.gate) rfl hr rfl
    (route_of_tests htests rfl) ho hopen
  have hfails : Sample.onKey.outcome? "key" (.int 2) = some false := by decide +kernel
  have hsecond : Value.int 2 ∈ Sample.onKey.callValues.take 2 :=
    List.mem_cons_of_mem _ List.mem_cons_self
  obtain ⟨k, s, hk, hs, -, ha⟩ :=
    (hiff (.here 0) _ 0 (Sample.onForce 7 19) (.boolean true) rfl rfl List.mem_cons_self
      (by simp [Block.enclosing])).mpr ⟨.int 2, List.mem_append_right _ hsecond, hfails⟩
  exact ⟨hr, htests, ho, hopen, ss, k, s, hss, hk, hs, ha⟩

/-- An arm for when a test of a parameter fails need not be entered at all, even if no other condition
is routed to the parameter: the default of `code` is the very number that it is tested against. -/
theorem else_arm_not_entered :
    ¬∀ (source moduleName : String) (tree : Node) (cls : Class) (method : Method) (o : Options)
      (body : Block) (q : Place) (test : Condition) (thn els : Block) (name : String),
      cls ∈ Class.ofModule source moduleName tree → method ∈ cls.methods → method.body = some body →
      (∀ e ∈ body.trace, e.Renders) → body.at? q = some (.ifElse test thn (some els)) →
      test.Tests name → (Property.find? method.parameters name).isSome →
      Owned ⟨method, some cls, o⟩ body q name →
      ∀ (r : Place) (b : Branch) (j : Nat) (c : Condition),
        els.at? r = some b → b.conditions[j]? = some c →
        ∃ (ss : List Scenario) (k : Nat) (s : Scenario) (v : Value),
          (scenarios ⟨method, some cls, o⟩).1 = .ok ss ∧
          body.visits[k]? = some ⟨⟨c, v⟩, q.through .orelse r, j⟩ ∧ ss[k]? = some s ∧
          ∃ a ∈ s.invocation.args, a.name = name ∧ test.outcome? name a.value = some false := by
  intro h
  have hr : ∀ e ∈ Sample.body.trace, e.Renders := by decide +kernel
  have htests : Sample.onCode.Tests "code" := .equals _ _ _ rfl
  have hroute : Sample.gate.route Sample.onCode = .parameter "code" := route_of_tests htests rfl
  have ho : Sample.gate.Owned Sample.body (.here 0) "code" := by decide +kernel
  obtain ⟨ss, k, s, v, hss, hk, hs, ha⟩ := h Sample.source "module" Sample.outline Sample.cls
    Sample.method .standard Sample.body (.here 0) Sample.onCode _ _ "code"
    (by rw [Sample.ofModule_outline]; exact List.mem_cons_self) List.mem_cons_self rfl hr rfl
    htests rfl ho (.here 0) _ 0 (Sample.onForce 10 15) rfl rfl
  have hne : Sample.body.branches ≠ [] := by simp [Sample.body, Block.branches]
  have hcompose := congrArg Prod.fst (scenarios_eq Sample.gate rfl hne hr)
  obtain rfl := Except.ok.inj (hss.symm.trans hcompose)
  obtain ⟨o, hheld, hargs⟩ := exists_held_of_scenario (m := Sample.gate) hk hs
  rw [hargs] at ha
  obtain ⟨u, hu, hfails⟩ := (exists_argument_iff (m := Sample.gate)
    (P := fun u => Sample.onCode.outcome? "code" u = some false) (find?_of_route hroute)).mp ha
  have hv : v ∈ (Sample.onForce 10 15).callValues :=
    (Block.mem_visits_iff.mp (List.mem_of_getElem? hk)).2.1
  have hy : (⟨⟨Sample.onForce 10 15, v⟩, .here 0, 0⟩ : Visit) ∈
      (Block.mk [.ifElse (Sample.onForce 10 15) (.mk []) none]).visits :=
    Block.mem_visits_here.mpr ⟨_, rfl, rfl, hv⟩
  have hturns := turns_of_owned (m := Sample.gate) (v := .int 2) (w := .int 3) (q := .here 0) rfl
    rfl hroute ho (by simp [Block.enclosing]) hy
  -- In the only run through the test there are the default and the first value, which are one.
  have hu2 : u = .int 2 := by
    rcases (hturns.seen [] _).mp ⟨o, hheld, rfl⟩ with hnone | hfirst | ⟨hagain, -⟩
    · rw [hnone] at hu
      exact List.mem_singleton.mp hu
    · rw [hfirst] at hu
      exact List.mem_singleton.mp hu
    · exact absurd rfl hagain
  have hholds : Sample.onCode.outcome? "code" (.int 2) = some true := by decide +kernel
  rw [hu2, hholds] at hfails
  exact absurd hfails (by decide)

end Member
end BranchCover
