import BranchCover.Subject.Branch
import Mathlib.Data.List.Nodup

/-! Where decisions stand in a block. A decision is known by its place, never by what it says: the same
test may stand at several places. All the decisions of a block can be listed with their places. -/
namespace BranchCover

/-- Which block below a decision: the one of a condition, or the one for when none holds. -/
inductive Slot where
  | body (a : Nat)
  | orelse
  deriving DecidableEq

/-- The way from a block to a decision: the number of one of its own decisions, or the number of a
decision to go through, a block below it, and the way from there. -/
inductive Place where
  | here (i : Nat)
  | into (i : Nat) (slot : Slot) (rest : Place)
  deriving DecidableEq

namespace Place

/-- The decision of the block itself that a way starts with. -/
def first : Place → Nat
  | here i | into i _ _ => i

/-- The way that goes on below the decision it leads to. -/
def through : Place → Slot → Place → Place
  | here i, slot, rest => into i slot rest
  | into i s q, slot, rest => into i s (q.through slot rest)

end Place

theorem nodup_zipIdx_snd {α : Type} (l : List α) : (l.zipIdx.map Prod.snd).Nodup := by
  rw [List.zipIdx_map_snd]
  exact List.nodup_range'

namespace Branch

def block? (b : Branch) : Slot → Option Block
  | .body a => b.bodies[a]?
  | .orelse => b.orelse

/-- The blocks below a decision, each with its slot. -/
def blocks (b : Branch) : List (Slot × Block) :=
  b.bodies.zipIdx.map (fun p => (.body p.2, p.1)) ++ b.orelse.toList.map (.orelse, ·)

theorem mem_blocks {b : Branch} {slot : Slot} {blk : Block} :
    (slot, blk) ∈ b.blocks ↔ b.block? slot = some blk := by
  cases slot with
  | body a => simp [blocks, block?, List.mem_zipIdx_iff_getElem?]
  | orelse => simp [blocks, block?]

theorem nodup_slots (b : Branch) : (b.blocks.map Prod.fst).Nodup := by
  have hinj : Function.Injective Slot.body := fun _ _ h => Slot.body.inj h
  have h : (b.bodies.zipIdx.map fun p => Slot.body p.2).Nodup := by
    rw [← Function.comp_def Slot.body Prod.snd, ← List.map_map]
    exact List.Nodup.map hinj (nodup_zipIdx_snd b.bodies)
  simp only [blocks, List.map_append, List.map_map, Function.comp_def]
  refine List.nodup_append.mpr ⟨h, by cases b.orelse <;> simp, ?_⟩
  rintro s hs t ht rfl
  obtain ⟨p, -, rfl⟩ := List.mem_map.mp hs
  simp at ht

end Branch

def Block.at? : Block → Place → Option Branch
  | blk, .here i => blk.branches[i]?
  | blk, .into i slot rest => do
    let b ← blk.branches[i]?
    let below ← b.block? slot
    below.at? rest

/-- A decision that a way goes through, and the slot by which the way leaves it. -/
structure Crossing where
  place : Place
  branch : Branch
  slot : Slot

def Crossing.under (i : Nat) (slot : Slot) (x : Crossing) : Crossing :=
  { x with place := .into i slot x.place }

/-- The decisions around a place, outermost first. -/
def Block.enclosing : Block → Place → List Crossing
  | _, .here _ => []
  | blk, .into i slot rest =>
    match blk.branches[i]? with
    | none => []
    | some b =>
      match b.block? slot with
      | none => []
      | some below => ⟨.here i, b, slot⟩ :: (below.enclosing rest).map (Crossing.under i slot)

theorem Block.at?_into_eq_some {blk : Block} {i : Nat} {slot : Slot} {rest : Place} {x : Branch} :
    blk.at? (.into i slot rest) = some x ↔ ∃ b below, blk.branches[i]? = some b ∧
      b.block? slot = some below ∧ below.at? rest = some x := by
  simp only [Block.at?, Option.bind_eq_bind, Option.bind_eq_some_iff]
  constructor
  · rintro ⟨b, hb, below, hbelow, hx⟩
    exact ⟨b, below, hb, hbelow, hx⟩
  · rintro ⟨b, below, hb, hbelow, hx⟩
    exact ⟨b, hb, below, hbelow, hx⟩

theorem Block.branches_ne_nil {blk : Block} {q : Place} {x : Branch} (h : blk.at? q = some x) :
    blk.branches ≠ [] := by
  rintro hnil
  cases q <;> simp [Block.at?, hnil] at h

theorem Block.enclosing_into {blk below : Block} {i : Nat} {slot : Slot} {b : Branch}
    (hb : blk.branches[i]? = some b) (hbelow : b.block? slot = some below) (rest : Place) :
    blk.enclosing (.into i slot rest) =
      ⟨.here i, b, slot⟩ :: (below.enclosing rest).map (Crossing.under i slot) := by
  simp [Block.enclosing, hb, hbelow]

mutual

/-- Every decision of a block at any depth with its place. -/
def Block.decisions : Block → List (Place × Branch)
  | .mk bs => Branch.decisionsFrom 0 bs

def Branch.decisionsFrom : Nat → List Branch → List (Place × Branch)
  | _, [] => []
  | i, b :: bs => (.here i, b) :: b.decisionsBelow i ++ Branch.decisionsFrom (i + 1) bs

def Branch.decisionsBelow : Branch → Nat → List (Place × Branch)
  | .ifElse _ body orelse, i =>
    body.decisions.map (Prod.map (.into i (.body 0)) id) ++ Block.decisionsOf i orelse
  | .switch arms default, i => Arm.decisions i 0 arms ++ Block.decisionsOf i default
  | .ternary _, _ => []

def Arm.decisions : Nat → Nat → List Arm → List (Place × Branch)
  | _, _, [] => []
  | i, a, .mk _ body :: arms =>
    body.decisions.map (Prod.map (.into i (.body a)) id) ++ Arm.decisions i (a + 1) arms

def Block.decisionsOf : Nat → Option Block → List (Place × Branch)
  | _, none => []
  | i, some b => b.decisions.map (Prod.map (.into i .orelse) id)

end

theorem Branch.decisionsFrom_eq (i : Nat) (bs : List Branch) :
    Branch.decisionsFrom i bs =
      (bs.zipIdx i).flatMap fun p => (.here p.2, p.1) :: p.1.decisionsBelow p.2 := by
  induction bs generalizing i with
  | nil => rfl
  | cons b bs ih => simp [Branch.decisionsFrom, ih]

theorem Arm.decisions_eq (i a : Nat) (arms : List Arm) :
    Arm.decisions i a arms = ((arms.map Arm.body).zipIdx a).flatMap fun p =>
      p.1.decisions.map (Prod.map (.into i (.body p.2)) id) := by
  induction arms generalizing a with
  | nil => rfl
  | cons arm arms ih =>
    cases arm with
    | mk c body => simp [Arm.decisions, Arm.body, ih]

theorem Branch.decisionsBelow_eq (b : Branch) (i : Nat) :
    b.decisionsBelow i =
      b.blocks.flatMap fun p => p.2.decisions.map (Prod.map (.into i p.1) id) := by
  cases b with
  | ifElse c body orelse =>
    cases orelse <;> simp [decisionsBelow, blocks, bodies, Branch.orelse, Block.decisionsOf]
  | switch arms default =>
    cases default <;>
      simp [decisionsBelow, blocks, bodies, Branch.orelse, Block.decisionsOf, Arm.decisions_eq,
        List.flatMap_map]
  | ternary c => simp [decisionsBelow, blocks, bodies, Branch.orelse]

theorem Branch.mem_decisionsBelow {x b : Branch} {i : Nat} {q : Place} :
    (q, b) ∈ x.decisionsBelow i ↔ ∃ slot below rest, x.block? slot = some below ∧
      q = .into i slot rest ∧ (rest, b) ∈ below.decisions := by
  simp only [decisionsBelow_eq, List.mem_flatMap, List.mem_map]
  constructor
  · rintro ⟨⟨slot, below⟩, hbelow, ⟨rest, y⟩, hy, he⟩
    obtain ⟨rfl, rfl⟩ := Prod.mk.inj he
    exact ⟨slot, below, rest, mem_blocks.mp hbelow, rfl, hy⟩
  · rintro ⟨slot, below, rest, hbelow, rfl, hb⟩
    exact ⟨(slot, below), mem_blocks.mpr hbelow, (rest, b), hb, rfl⟩

namespace Block

theorem mem_decisions_here {blk : Block} {i : Nat} {b : Branch} :
    (.here i, b) ∈ blk.decisions ↔ blk.branches[i]? = some b := by
  cases blk with
  | mk bs =>
    simp only [decisions, Branch.decisionsFrom_eq, List.mem_flatMap, List.mem_cons]
    constructor
    · rintro ⟨⟨x, k⟩, hx, he | hbelow⟩
      · obtain ⟨hk, rfl⟩ := Prod.mk.inj he
        obtain rfl : i = k := Place.here.inj hk
        exact List.mem_zipIdx_iff_getElem?.mp hx
      · obtain ⟨slot, below, rest, -, hq, -⟩ := Branch.mem_decisionsBelow.mp hbelow
        simp at hq
    · intro hb
      exact ⟨(b, i), List.mem_zipIdx_iff_getElem?.mpr hb, Or.inl rfl⟩

theorem mem_decisions_into {blk : Block} {i : Nat} {slot : Slot} {rest : Place} {b : Branch} :
    (.into i slot rest, b) ∈ blk.decisions ↔ ∃ x below, blk.branches[i]? = some x ∧
      x.block? slot = some below ∧ (rest, b) ∈ below.decisions := by
  cases blk with
  | mk bs =>
    simp only [decisions, Branch.decisionsFrom_eq, List.mem_flatMap, List.mem_cons]
    constructor
    · rintro ⟨⟨x, k⟩, hx, he | hbelow⟩
      · simp at he
      · obtain ⟨s, below, r, hbelow, hq, hb⟩ := Branch.mem_decisionsBelow.mp hbelow
        obtain ⟨rfl, rfl, rfl⟩ := Place.into.inj hq
        exact ⟨x, below, List.mem_zipIdx_iff_getElem?.mp hx, hbelow, hb⟩
    · rintro ⟨x, below, hx, hbelow, hb⟩
      exact ⟨(x, i), List.mem_zipIdx_iff_getElem?.mpr hx,
        Or.inr (Branch.mem_decisionsBelow.mpr ⟨slot, below, rest, hbelow, rfl, hb⟩)⟩

theorem mem_decisions {blk : Block} {q : Place} {b : Branch} :
    (q, b) ∈ blk.decisions ↔ blk.at? q = some b := by
  induction q generalizing blk with
  | here i => exact mem_decisions_here
  | into i slot rest ih => simp only [mem_decisions_into, at?_into_eq_some, ih]

end Block

end BranchCover
