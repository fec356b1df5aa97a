import BranchCover.Proofs.CallValues
import BranchCover.Proofs.Place
import BranchCover.Proofs.Trace

/-! The trace of a block with places. It shows which conditions a composition comes to at all, and how
the visits to a decision repeat those below it, once for each value of each condition. -/
namespace BranchCover

/-- An entry of a trace with the place of its condition: the decision, and the number of the
condition there. -/
structure Visit extends Drive where
  place : Place
  index : Nat

namespace Visit

def under (i : Nat) (slot : Slot) (x : Visit) : Visit :=
  { x with place := .into i slot x.place }

/-- Every value of every condition of a decision in order, each after the visits below. -/
def driven (i : Nat) (below : List Visit) (cs : List Condition) : List Visit :=
  cs.zipIdx.flatMap fun p => p.1.callValues.flatMap fun v => below ++ [⟨⟨p.1, v⟩, .here i, p.2⟩]

end Visit

mutual

/-- The trace of a block with places. -/
def Block.visits : Block → List Visit
  | .mk bs => Branch.visitsFrom 0 bs

def Branch.visitsFrom : Nat → List Branch → List Visit
  | _, [] => []
  | i, b :: bs => b.visits i ++ Branch.visitsFrom (i + 1) bs

def Branch.visits : Branch → Nat → List Visit
  | .ifElse c body orelse, i =>
    Visit.driven i (body.visits.map (Visit.under i (.body 0)) ++ Block.visitsOf i orelse) [c]
  | .switch arms default, i =>
    Visit.driven i (Arm.visits i 0 arms ++ Block.visitsOf i default) (arms.map Arm.condition)
  | .ternary c, i => Visit.driven i [] [c]

def Arm.visits : Nat → Nat → List Arm → List Visit
  | _, _, [] => []
  | i, a, .mk _ body :: arms =>
    body.visits.map (Visit.under i (.body a)) ++ Arm.visits i (a + 1) arms

def Block.visitsOf : Nat → Option Block → List Visit
  | _, none => []
  | i, some b => b.visits.map (Visit.under i .orelse)

end

theorem Branch.visitsFrom_eq (i : Nat) (bs : List Branch) :
    Branch.visitsFrom i bs = (bs.zipIdx i).flatMap fun p => p.1.visits p.2 := by
  induction bs generalizing i with
  | nil => rfl
  | cons b bs ih => simp [Branch.visitsFrom, ih]

theorem Block.visits_eq (blk : Block) :
    blk.visits = blk.branches.zipIdx.flatMap fun p => p.1.visits p.2 := by
  cases blk with
  | mk bs => rw [Block.visits, Branch.visitsFrom_eq, Block.branches]

theorem Arm.visits_eq (i a : Nat) (arms : List Arm) :
    Arm.visits i a arms = ((arms.map Arm.body).zipIdx a).flatMap fun p =>
      p.1.visits.map (Visit.under i (.body p.2)) := by
  induction arms generalizing a with
  | nil => rfl
  | cons arm arms ih =>
    cases arm with
    | mk c body => simp [Arm.visits, Arm.body, ih]

namespace Branch

/-- The visits below a decision, which come before each of its own. -/
def visitsBelow (b : Branch) (i : Nat) : List Visit :=
  b.blocks.flatMap fun p => p.2.visits.map (Visit.under i p.1)

theorem visits_eq (b : Branch) (i : Nat) :
    b.visits i = Visit.driven i (b.visitsBelow i) b.conditions := by
  cases b with
  | ifElse c body orelse =>
    cases orelse <;>
      simp [visits, visitsBelow, blocks, bodies, Branch.orelse, conditions, Block.visitsOf]
  | switch arms default =>
    cases default <;>
      simp [visits, visitsBelow, blocks, bodies, Branch.orelse, conditions, Block.visitsOf,
        Arm.visits_eq, List.flatMap_map]
  | ternary c => simp [visits, visitsBelow, blocks, bodies, Branch.orelse, conditions]

end Branch

namespace Visit

@[simp] theorem toDrive_under (i : Nat) (slot : Slot) (x : Visit) :
    (x.under i slot).toDrive = x.toDrive := rfl

@[simp] theorem map_toDrive_under (i : Nat) (slot : Slot) (xs : List Visit) :
    (xs.map (under i slot)).map toDrive = xs.map toDrive := by
  simp [Function.comp_def]

theorem map_toDrive_driven (i : Nat) (below : List Visit) (cs : List Condition) :
    (driven i below cs).map toDrive = Drive.driven (below.map toDrive) cs := by
  have h : Drive.driven (below.map toDrive) (cs.zipIdx.map Prod.fst) =
      cs.zipIdx.flatMap fun p => p.1.callValues.flatMap fun v =>
        below.map toDrive ++ [⟨p.1, v⟩] := List.flatMap_map ..
  rw [List.zipIdx_map_fst] at h
  simp [driven, List.map_flatMap, h]

end Visit

mutual

theorem Block.map_toDrive_visits : ∀ blk : Block, blk.visits.map Visit.toDrive = blk.trace
  | .mk bs => by rw [Block.visits, Block.trace, Branch.map_toDrive_visitsFrom 0 bs]

theorem Branch.map_toDrive_visitsFrom : ∀ (i : Nat) (bs : List Branch),
    (Branch.visitsFrom i bs).map Visit.toDrive = Branch.traces bs
  | _, [] => rfl
  | i, b :: bs => by
    rw [Branch.visitsFrom, Branch.traces, List.map_append, Branch.map_toDrive_visits b i,
      Branch.map_toDrive_visitsFrom (i + 1) bs]

theorem Branch.map_toDrive_visits : ∀ (b : Branch) (i : Nat),
    (b.visits i).map Visit.toDrive = b.trace
  | .ifElse c body orelse, i => by
    rw [Branch.visits, Branch.trace, Visit.map_toDrive_driven, List.map_append,
      Visit.map_toDrive_under, Block.map_toDrive_visits body, Block.map_toDrive_visitsOf i orelse]
  | .switch arms default, i => by
    rw [Branch.visits, Branch.trace, Visit.map_toDrive_driven, List.map_append,
      Arm.map_toDrive_visits i 0 arms, Block.map_toDrive_visitsOf i default]
  | .ternary c, i => by rw [Branch.visits, Branch.trace, Visit.map_toDrive_driven, List.map_nil]

theorem Arm.map_toDrive_visits : ∀ (i a : Nat) (arms : List Arm),
    (Arm.visits i a arms).map Visit.toDrive = Arm.traces arms
  | _, _, [] => rfl
  | i, a, .mk c body :: arms => by
    rw [Arm.visits, Arm.traces, List.map_append, Visit.map_toDrive_under,
      Block.map_toDrive_visits body, Arm.map_toDrive_visits i (a + 1) arms]

theorem Block.map_toDrive_visitsOf : ∀ (i : Nat) (o : Option Block),
    (Block.visitsOf i o).map Visit.toDrive = Block.traceOf o
  | _, none => rfl
  | i, some b => by
    rw [Block.visitsOf, Block.traceOf, Visit.map_toDrive_under, Block.map_toDrive_visits b]

end

/-- A part of a concatenation with what stands before and behind it, all of which comes from items
with other keys. -/
theorem exists_flatMap_split {α β κ : Type} (key : α → κ) (f : α → List β) {l : List α}
    (hl : (l.map key).Nodup) {a : α} (ha : a ∈ l) :
    ∃ xs ys, l.flatMap f = xs ++ f a ++ ys ∧
      ∀ x ∈ xs ++ ys, ∃ b ∈ l, key b ≠ key a ∧ x ∈ f b := by
  obtain ⟨s, t, rfl⟩ := List.append_of_mem ha
  refine ⟨s.flatMap f, t.flatMap f, by simp, ?_⟩
  intro x hx
  rw [← List.flatMap_append] at hx
  obtain ⟨b, hb, hxb⟩ := List.mem_flatMap.mp hx
  have hne : ∀ b ∈ s ++ t, key b ≠ key a := by
    intro b hb he
    have hd : (key a :: (s ++ t).map key).Nodup := by
      refine List.Perm.nodup ?_ hl
      simp [List.perm_middle]
    exact (List.nodup_cons.mp hd).1 (he ▸ List.mem_map_of_mem hb)
  refine ⟨b, ?_, hne b hb, hxb⟩
  rcases List.mem_append.mp hb with h | h <;> simp [h]

namespace Visit

theorem mem_driven {i : Nat} {below : List Visit} {cs : List Condition} {x : Visit} :
    x ∈ driven i below cs ↔ (cs ≠ [] ∧ x ∈ below) ∨
      (x.place = .here i ∧ cs[x.index]? = some x.condition ∧ x.value ∈ x.condition.callValues) := by
  simp only [driven, List.mem_flatMap, List.mem_append, List.mem_singleton]
  constructor
  · rintro ⟨⟨c, j⟩, hc, v, hv, hx | rfl⟩
    · refine Or.inl ⟨?_, hx⟩
      rintro rfl
      simp at hc
    · exact Or.inr ⟨rfl, List.mem_zipIdx_iff_getElem?.mp hc, hv⟩
  · rintro (⟨hcs, hx⟩ | ⟨hp, hc, hv⟩)
    · obtain ⟨c, hc⟩ := List.exists_mem_of_ne_nil cs hcs
      obtain ⟨j, hj⟩ := List.mem_iff_getElem?.mp hc
      obtain ⟨v, hv⟩ := List.exists_mem_of_ne_nil _ c.callValues_ne_nil
      exact ⟨(c, j), List.mem_zipIdx_iff_getElem?.mpr hj, v, hv, Or.inl hx⟩
    · refine ⟨(x.condition, x.index), List.mem_zipIdx_iff_getElem?.mpr hc, x.value, hv, Or.inr ?_⟩
      cases x
      simp_all

end Visit

theorem Block.mem_visits {blk : Block} {x : Visit} :
    x ∈ blk.visits ↔ ∃ i, ∃ b : Branch, blk.branches[i]? = some b ∧ x ∈ b.visits i := by
  rw [Block.visits_eq, List.mem_flatMap]
  constructor
  · rintro ⟨⟨b, i⟩, hb, hx⟩
    exact ⟨i, b, List.mem_zipIdx_iff_getElem?.mp hb, hx⟩
  · rintro ⟨i, b, hb, hx⟩
    exact ⟨(b, i), List.mem_zipIdx_iff_getElem?.mpr hb, hx⟩

theorem Branch.mem_visitsBelow {b : Branch} {i : Nat} {x : Visit} :
    x ∈ b.visitsBelow i ↔ ∃ slot below, b.block? slot = some below ∧
      ∃ y ∈ below.visits, y.under i slot = x := by
  simp only [Branch.visitsBelow, List.mem_flatMap, List.mem_map]
  constructor
  · rintro ⟨⟨slot, below⟩, hb, hy⟩
    exact ⟨slot, below, mem_blocks.mp hb, hy⟩
  · rintro ⟨slot, below, hb, hy⟩
    exact ⟨(slot, below), mem_blocks.mpr hb, hy⟩

namespace Block

theorem mem_visits_here {blk : Block} {e : Drive} {i j : Nat} :
    (⟨e, .here i, j⟩ : Visit) ∈ blk.visits ↔ ∃ b, blk.branches[i]? = some b ∧
      b.conditions[j]? = some e.condition ∧ e.value ∈ e.condition.callValues := by
  rw [mem_visits]
  constructor
  · rintro ⟨k, b, hb, hx⟩
    rw [Branch.visits_eq, Visit.mem_driven] at hx
    rcases hx with ⟨-, hx⟩ | ⟨hk, hc, hv⟩
    · obtain ⟨slot, below, -, y, -, hy⟩ := Branch.mem_visitsBelow.mp hx
      exact absurd (congrArg Visit.place hy) (by simp [Visit.under])
    · obtain rfl : i = k := Place.here.inj hk
      exact ⟨b, hb, hc, hv⟩
  · rintro ⟨b, hb, hc, hv⟩
    refine ⟨i, b, hb, ?_⟩
    rw [Branch.visits_eq, Visit.mem_driven]
    exact Or.inr ⟨rfl, hc, hv⟩

/-- The visits below a decision of the block: there are none if the decision has no condition. -/
theorem mem_visits_into {blk : Block} {e : Drive} {i j : Nat} {slot : Slot} {rest : Place} :
    (⟨e, .into i slot rest, j⟩ : Visit) ∈ blk.visits ↔ ∃ b below, blk.branches[i]? = some b ∧
      b.block? slot = some below ∧ b.conditions ≠ [] ∧ (⟨e, rest, j⟩ : Visit) ∈ below.visits := by
  rw [mem_visits]
  constructor
  · rintro ⟨k, b, hb, hx⟩
    rw [Branch.visits_eq, Visit.mem_driven] at hx
    rcases hx with ⟨hne, hx⟩ | ⟨hk, -⟩
    · obtain ⟨s, below, hbelow, y, hy, he⟩ := Branch.mem_visitsBelow.mp hx
      simp only [Visit.under, Visit.mk.injEq, Place.into.injEq] at he
      obtain ⟨rfl, ⟨rfl, rfl, rfl⟩, rfl⟩ := he
      exact ⟨b, below, hb, hbelow, hne, hy⟩
    · simp at hk
  · rintro ⟨b, below, hb, hbelow, hne, hy⟩
    refine ⟨i, b, hb, ?_⟩
    rw [Branch.visits_eq, Visit.mem_driven]
    exact Or.inl ⟨hne, Branch.mem_visitsBelow.mpr ⟨slot, below, hbelow, _, hy, rfl⟩⟩

/-- A composition comes to a condition with a value exactly if the condition stands at its place,
the value drives it, and no decision around it is without conditions. -/
theorem mem_visits_iff {blk : Block} {e : Drive} {q : Place} {j : Nat} :
    (⟨e, q, j⟩ : Visit) ∈ blk.visits ↔
      (∃ b, blk.at? q = some b ∧ b.conditions[j]? = some e.condition) ∧
      e.value ∈ e.condition.callValues ∧ ∀ y ∈ blk.enclosing q, y.branch.conditions ≠ [] := by
  induction q generalizing blk with
  | here i => simp [mem_visits_here, at?, enclosing, ← and_assoc]
  | into i slot rest ih =>
    rw [mem_visits_into]
    constructor
    · rintro ⟨b, below, hb, hbelow, hne, hy⟩
      obtain ⟨⟨x, hat, hc⟩, hv, hopen⟩ := ih.mp hy
      refine ⟨⟨x, at?_into_eq_some.mpr ⟨b, below, hb, hbelow, hat⟩, hc⟩, hv, ?_⟩
      rw [enclosing_into hb hbelow]
      simpa [hne, Crossing.under] using hopen
    · rintro ⟨⟨x, hx, hc⟩, hv, hopen⟩
      obtain ⟨b, below, hb, hbelow, hat⟩ := at?_into_eq_some.mp hx
      rw [enclosing_into hb hbelow] at hopen
      have hne : b.conditions ≠ [] := hopen ⟨.here i, b, slot⟩ (by simp)
      have hrest : ∀ y ∈ below.enclosing rest, y.branch.conditions ≠ [] :=
        fun y hy => hopen (y.under i slot) (by simp [List.mem_map_of_mem hy])
      exact ⟨b, below, hb, hbelow, hne, ih.mpr ⟨⟨x, hat, hc⟩, hv, hrest⟩⟩

theorem value_mem_callValues {blk : Block} {e : Drive} (he : e ∈ blk.trace) :
    e.value ∈ e.condition.callValues := by
  rw [← blk.map_toDrive_visits] at he
  obtain ⟨x, hx, rfl⟩ := List.mem_map.mp he
  exact (mem_visits_iff.mp hx).2.1

end Block

namespace Branch

/-- The visits to a decision around one pass for each of the two values of a condition. -/
theorem visits_split {b : Branch} {a : Nat} {c : Condition} (hc : b.conditions[a]? = some c)
    (i : Nat) : ∃ v w xs ys, c.callValues = [v, w] ∧
      b.visits i = xs ++ (b.visitsBelow i ++ [⟨⟨c, v⟩, .here i, a⟩] ++
        (b.visitsBelow i ++ [⟨⟨c, w⟩, .here i, a⟩])) ++ ys := by
  obtain ⟨v, w, hvw⟩ := c.exists_callValues
  have hmem : (c, a) ∈ b.conditions.zipIdx := List.mem_zipIdx_iff_getElem?.mpr hc
  obtain ⟨xs, ys, hsplit, -⟩ := exists_flatMap_split Prod.snd
    (fun p => p.1.callValues.flatMap fun v => b.visitsBelow i ++ [⟨⟨p.1, v⟩, .here i, p.2⟩])
    (nodup_zipIdx_snd b.conditions) hmem
  refine ⟨v, w, xs, ys, hvw, ?_⟩
  rw [visits_eq, Visit.driven, hsplit]
  simp [hvw]

/-- The visits below a decision around those of one block; the others stand in other slots. -/
theorem visitsBelow_split {b : Branch} {slot : Slot} {below : Block}
    (h : b.block? slot = some below) (i : Nat) : ∃ xs ys,
      b.visitsBelow i = xs ++ below.visits.map (Visit.under i slot) ++ ys ∧
      ∀ x ∈ xs ++ ys, ∃ s rest, s ≠ slot ∧ x.place = .into i s rest := by
  obtain ⟨xs, ys, hsplit, hother⟩ := exists_flatMap_split Prod.fst
    (fun p => p.2.visits.map (Visit.under i p.1)) b.nodup_slots (mem_blocks.mpr h)
  refine ⟨xs, ys, hsplit, ?_⟩
  intro x hx
  obtain ⟨⟨s, blk⟩, -, hs, hx⟩ := hother x hx
  obtain ⟨y, -, rfl⟩ := List.mem_map.mp hx
  exact ⟨s, y.place, hs, rfl⟩

theorem first_of_mem_visits {b : Branch} {i : Nat} {x : Visit} (hx : x ∈ b.visits i) :
    x.place.first = i := by
  rw [visits_eq, Visit.mem_driven] at hx
  rcases hx with ⟨-, hx⟩ | ⟨hx, -⟩
  · obtain ⟨slot, below, -, y, -, rfl⟩ := mem_visitsBelow.mp hx
    rfl
  · rw [hx]
    rfl

theorem place_of_mem_visitsBelow {b : Branch} {i : Nat} {x : Visit} (hx : x ∈ b.visitsBelow i) :
    x.place ≠ .here i := by
  obtain ⟨slot, below, -, y, -, rfl⟩ := mem_visitsBelow.mp hx
  simp [Visit.under]

theorem visitsBelow_subset {b : Branch} {i : Nat} (hne : b.conditions ≠ []) :
    b.visitsBelow i ⊆ b.visits i := by
  intro x hx
  rw [visits_eq, Visit.mem_driven]
  exact Or.inl ⟨hne, hx⟩

end Branch

/-- The visits of a block around those of one decision; the others stand at other decisions. -/
theorem Block.visits_split {blk : Block} {i : Nat} {b : Branch} (h : blk.branches[i]? = some b) :
    ∃ xs ys, blk.visits = xs ++ b.visits i ++ ys ∧ ∀ x ∈ xs ++ ys, x.place.first ≠ i := by
  have hmem : (b, i) ∈ blk.branches.zipIdx := List.mem_zipIdx_iff_getElem?.mpr h
  obtain ⟨xs, ys, hsplit, hother⟩ := exists_flatMap_split Prod.snd
    (fun p => p.1.visits p.2) (nodup_zipIdx_snd blk.branches) hmem
  refine ⟨xs, ys, blk.visits_eq.trans hsplit, ?_⟩
  intro x hx
  obtain ⟨⟨b, j⟩, -, hj, hx⟩ := hother x hx
  rw [Branch.first_of_mem_visits hx]
  exact hj

end BranchCover
