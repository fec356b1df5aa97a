import BranchCover.Outline.Node

/-! Ways through an outline: each node with its parent, all nodes of a kind, the first of them. All
three go in pre-order. -/
namespace BranchCover
namespace Node

/-- The node that another one is a part of, and the place among its parts. -/
structure Parent where
  node : Node
  place : Nat

/-- Every node with its parent, the root with the given one. -/
def walk (n : Node) (parent : Option Parent) : List (Node × Option Parent) :=
  (n, parent) :: n.children.attach.zipIdx.flatMap fun (⟨c, h⟩, i) =>
    have := sizeOf_lt_of_mem_children h
    c.walk (some ⟨n, i⟩)
termination_by sizeOf n

theorem walk_eq (n : Node) (parent : Option Parent) :
    n.walk parent = (n, parent) :: n.children.zipIdx.flatMap fun (c, i) => c.walk (some ⟨n, i⟩) := by
  rw [walk]
  congr 1
  conv => rhs; rw [← List.attach_map_subtype_val n.children]
  rw [List.zipIdx_map, List.flatMap_map]
  rfl

/-- Every node with the place of its parent in this list, which starts at the given place. -/
def numbered (n : Node) (place : Nat) (parent : Option Nat) : List (Node × Option Nat) :=
  n.children.attach.foldl (fun rows ⟨c, h⟩ =>
    have := sizeOf_lt_of_mem_children h
    rows ++ c.numbered (place + rows.length) (some place)) [(n, parent)]
termination_by sizeOf n

theorem numbered_eq (n : Node) (place : Nat) (parent : Option Nat) :
    n.numbered place parent = n.children.foldl
      (fun rows c => rows ++ c.numbered (place + rows.length) (some place)) [(n, parent)] := by
  rw [numbered, List.foldl_subtype
    (g := fun rows c => rows ++ c.numbered (place + rows.length) (some place)) (by intros; rfl)]
  simp

def isOf (kinds : List NodeKind) (n : Node) : Bool :=
  kinds.any (·.covers n.kind)

theorem isOf_node (n : Node) : n.isOf [.node] = true := by
  simp [isOf, NodeKind.covers]

/-- Whether a node bears the name; without a name every node does. -/
def isNamed (name : Option String) (n : Node) : Bool :=
  name.all fun s => n.name? == some s

def findAll (kinds : List NodeKind) (n : Node) : List Node :=
  let below := n.children.attach.flatMap fun ⟨c, h⟩ =>
    have := sizeOf_lt_of_mem_children h
    c.findAll kinds
  if n.isOf kinds then n :: below else below
termination_by sizeOf n

theorem findAll_eq (kinds : List NodeKind) (n : Node) :
    n.findAll kinds = if n.isOf kinds then n :: n.children.flatMap (findAll kinds)
      else n.children.flatMap (findAll kinds) := by
  rw [findAll, List.flatMap_subtype (g := findAll kinds) (by intros; rfl)]
  simp

theorem mem_findAll_self (n : Node) : n ∈ n.findAll [.node] := by
  rw [findAll_eq, if_pos (isOf_node n)]
  exact List.mem_cons_self

theorem mem_findAll_of_mem_children {kinds : List NodeKind} {n c d : Node} (hc : c ∈ n.children)
    (hd : d ∈ c.findAll kinds) : d ∈ n.findAll kinds := by
  have hbelow : d ∈ n.children.flatMap (findAll kinds) := List.mem_flatMap.mpr ⟨c, hc, hd⟩
  rw [findAll_eq]
  split
  · exact List.mem_cons_of_mem _ hbelow
  · exact hbelow

theorem findAll_eq_filter (kinds : List NodeKind) (n : Node) :
    n.findAll kinds = (n.findAll [.node]).filter (isOf kinds) := by
  have hbelow : n.children.flatMap (findAll kinds) =
      (n.children.flatMap (findAll [.node])).filter (isOf kinds) := by
    rw [List.filter_flatMap, List.flatMap_def, List.flatMap_def]
    refine congrArg List.flatten (List.map_congr_left fun c hc => ?_)
    have := sizeOf_lt_of_mem_children hc
    exact findAll_eq_filter kinds c
  rw [findAll_eq, findAll_eq [.node], if_pos (isOf_node n), List.filter_cons, hbelow]
termination_by sizeOf n

theorem isOf_of_mem_findAll {kinds : List NodeKind} {n d : Node} (h : d ∈ n.findAll kinds) :
    d.isOf kinds := by
  rw [findAll_eq_filter] at h
  exact (List.mem_filter.mp h).2

def findFirst (kinds : List NodeKind) (name : Option String) (n : Node) : Option Node :=
  if n.isOf kinds && n.isNamed name then some n
  else n.children.attach.findSome? fun ⟨c, h⟩ =>
    have := sizeOf_lt_of_mem_children h
    c.findFirst kinds name
termination_by sizeOf n

theorem findFirst_eq (kinds : List NodeKind) (name : Option String) (n : Node) :
    n.findFirst kinds name = if n.isOf kinds && n.isNamed name then some n
      else n.children.findSome? (findFirst kinds name) := by
  rw [findFirst, List.findSome?_subtype (g := findFirst kinds name) (by intros; rfl)]
  simp

end Node
end BranchCover
