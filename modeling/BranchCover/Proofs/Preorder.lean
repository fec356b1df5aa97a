import BranchCover.Outline.Search
import Mathlib.Data.List.Basic

/-! Addresses in an outline. An address is the list of places to go down by from the root, so the
addresses in lexicographic order are those in pre-order. A walk meets every address once and in this
order. -/
namespace BranchCover
namespace Node

def at? (n : Node) : List Nat → Option Node
  | [] => some n
  | i :: a => n.children[i]?.bind fun c => c.at? a

/-- The parent of the node at an address. The root has the given one. -/
def parentAt? (n : Node) (above : Option Parent) : List Nat → Option Parent
  | [] => above
  | i :: a => n.children[i]?.bind fun c => c.parentAt? (some ⟨n, i⟩) a

def addresses (n : Node) : List (List Nat) :=
  [] :: n.children.attach.zipIdx.flatMap fun (⟨c, h⟩, i) =>
    have := sizeOf_lt_of_mem_children h
    c.addresses.map (i :: ·)
termination_by sizeOf n

theorem addresses_eq (n : Node) :
    n.addresses = [] :: n.children.zipIdx.flatMap fun (c, i) => c.addresses.map (i :: ·) := by
  rw [addresses]
  congr 1
  conv => rhs; rw [← List.attach_map_subtype_val n.children]
  rw [List.zipIdx_map, List.flatMap_map]
  rfl

theorem induction_on_children {P : Node → Prop} (step : ∀ n, (∀ c ∈ n.children, P c) → P n)
    (n : Node) : P n :=
  step n fun c hc =>
    have := sizeOf_lt_of_mem_children hc
    induction_on_children step c
termination_by sizeOf n

theorem at?_concat (n : Node) (a : List Nat) (i : Nat) :
    n.at? (a ++ [i]) = (n.at? a).bind fun p => p.children[i]? := by
  induction a generalizing n with
  | nil => simp [at?]
  | cons j a ih =>
    cases hj : n.children[j]? with
    | none => simp [at?, hj]
    | some c => simpa [at?, hj] using ih c

/-- Below the root a parent is the node at the address without its last place. -/
theorem parentAt?_concat (n : Node) (above : Option Parent) (a : List Nat) (i : Nat) :
    n.parentAt? above (a ++ [i]) =
      (n.at? a).bind fun p => p.children[i]?.map fun _ => ⟨p, i⟩ := by
  induction a generalizing n above with
  | nil =>
    cases hi : n.children[i]? with
    | none => simp [at?, parentAt?, hi]
    | some c => simp [at?, parentAt?, hi]
  | cons j a ih =>
    cases hj : n.children[j]? with
    | none => simp [at?, parentAt?, hj]
    | some c => simpa [at?, parentAt?, hj] using ih c (some ⟨n, j⟩)

theorem mem_addresses_iff (n : Node) (a : List Nat) :
    a ∈ n.addresses ↔ ∃ m, n.at? a = some m := by
  induction n using induction_on_children generalizing a with
  | step n ih =>
    rw [addresses_eq, List.mem_cons, List.mem_flatMap]
    cases a with
    | nil => simp [at?]
    | cons i a =>
      constructor
      · rintro (h | ⟨⟨c, j⟩, hc, h⟩)
        · cases h
        obtain ⟨b, hb, heq⟩ := List.mem_map.mp h
        obtain ⟨rfl, rfl⟩ := List.cons.inj heq
        have hplace : n.children[j]? = some c := List.mem_zipIdx_iff_getElem?.mp hc
        obtain ⟨m, hm⟩ := (ih c (List.mem_of_getElem? hplace) b).mp hb
        exact ⟨m, by simp [at?, hplace, hm]⟩
      · rintro ⟨m, hm⟩
        obtain ⟨c, hplace, hc⟩ := Option.bind_eq_some_iff.mp hm
        have hin : a ∈ c.addresses := (ih c (List.mem_of_getElem? hplace) a).mpr ⟨m, hc⟩
        exact .inr ⟨(c, i), List.mem_zipIdx_iff_getElem?.mpr hplace, List.mem_map_of_mem hin⟩

theorem pairwise_zipIdx {α : Type} (xs : List α) :
    xs.zipIdx.Pairwise fun x y => x.2 < y.2 := by
  rw [List.pairwise_iff_getElem]
  intro i j hi hj hij
  simpa using hij

theorem pairwise_addresses (n : Node) : n.addresses.Pairwise (· < ·) := by
  induction n using induction_on_children with
  | step n ih =>
    rw [addresses_eq, List.pairwise_cons, List.pairwise_flatMap]
    refine ⟨?root, ?within, ?across⟩
    case root =>
      intro a ha
      obtain ⟨⟨c, i⟩, -, h⟩ := List.mem_flatMap.mp ha
      obtain ⟨b, -, rfl⟩ := List.mem_map.mp h
      exact List.nil_lt_cons i b
    case within =>
      rintro ⟨c, i⟩ hc
      have hplace : n.children[i]? = some c := List.mem_zipIdx_iff_getElem?.mp hc
      rw [List.pairwise_map]
      exact (ih c (List.mem_of_getElem? hplace)).imp fun h =>
        List.cons_lt_cons_iff.mpr (.inr ⟨rfl, h⟩)
    case across =>
      apply (pairwise_zipIdx n.children).imp
      rintro ⟨c, i⟩ ⟨d, j⟩ hij a ha b hb
      obtain ⟨a, -, rfl⟩ := List.mem_map.mp ha
      obtain ⟨b, -, rfl⟩ := List.mem_map.mp hb
      exact List.cons_lt_cons_iff.mpr (.inl hij)

/-- A walk goes by the addresses. -/
theorem walk_eq_addresses (n : Node) (above : Option Parent) :
    n.walk above = n.addresses.filterMap fun a => (n.at? a).map fun c => (c, n.parentAt? above a) := by
  induction n using induction_on_children generalizing above with
  | step n ih =>
    have hroot : n.at? [] = some n := rfl
    have habove : n.parentAt? above [] = above := rfl
    rw [walk_eq, addresses_eq, List.filterMap_cons, hroot, habove, List.filterMap_flatMap]
    congr 1
    apply List.flatMap_congr
    rintro ⟨c, i⟩ hc
    have hplace : n.children[i]? = some c := List.mem_zipIdx_iff_getElem?.mp hc
    have hat : ∀ a, n.at? (i :: a) = c.at? a := fun a => by simp [at?, hplace]
    have hparent : ∀ a, n.parentAt? above (i :: a) = c.parentAt? (some ⟨n, i⟩) a := fun a => by
      simp [parentAt?, hplace]
    have hbelow := ih c (List.mem_of_getElem? hplace) (some ⟨n, i⟩)
    simp only [List.filterMap_map, Function.comp_def, hat, hparent, hbelow]

/-- What a search finds in a part, at any depth, it finds in the whole. -/
theorem mem_findAll_trans {kinds : List NodeKind} {n p d : Node} (hp : p ∈ n.findAll [.node])
    (hd : d ∈ p.findAll kinds) : d ∈ n.findAll kinds := by
  induction n using induction_on_children with
  | step n ih =>
    rw [findAll_eq, if_pos (isOf_node n)] at hp
    rcases List.mem_cons.mp hp with rfl | hp
    · exact hd
    · obtain ⟨c, hc, hp⟩ := List.mem_flatMap.mp hp
      exact mem_findAll_of_mem_children hc (ih c hc hp)

/-- A search for the first node of some kinds with a name stops at the first of all nodes of these
kinds that has the name. -/
theorem findFirst_eq_find? (kinds : List NodeKind) (name : Option String) (n : Node) :
    n.findFirst kinds name = (n.findAll kinds).find? (isNamed name) := by
  induction n using induction_on_children with
  | step n ih =>
    have hbelow : n.children.findSome? (findFirst kinds name) =
        (n.children.flatMap (findAll kinds)).find? (isNamed name) := by
      rw [List.find?_flatMap, ← List.head?_filterMap, ← List.head?_filterMap,
        List.filterMap_congr ih]
    rw [findFirst_eq, findAll_eq, hbelow]
    cases hkind : n.isOf kinds with
    | false => rfl
    | true => cases hname : n.isNamed name <;> simp [hname]

end Node
end BranchCover
