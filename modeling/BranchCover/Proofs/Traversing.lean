import BranchCover.Proofs.Preorder
import Mathlib.Data.List.Forall2

/-! The ways through an outline agree. A collection holds what a walk meets, as often and in the same order, a
search stops at the first of a collection, and a listing has one row for each step of a walk, with the
number of the row that holds the parent. -/
namespace BranchCover
namespace Node

variable {n : Node} {nodes : List Node} {k : Nat}

/-- A walk meets all nodes, whatever parent the root is given. -/
theorem map_fst_walk (n : Node) (above : Option Parent) :
    (n.walk above).map Prod.fst = n.findAll [.node] := by
  induction n using induction_on_children generalizing above with
  | step n ih =>
    have hplaces : n.children.flatMap (findAll [.node]) =
        n.children.zipIdx.flatMap fun c => c.1.findAll [.node] := by
      conv_lhs => rw [← List.zipIdx_map_fst 0 n.children, List.flatMap_map]
    rw [walk_eq, findAll_eq, if_pos (isOf_node n), List.map_cons, List.map_flatMap, hplaces]
    congr 1
    apply List.flatMap_congr
    rintro ⟨c, i⟩ hc
    have hplace : n.children[i]? = some c := List.mem_zipIdx_iff_getElem?.mp hc
    exact ih c (List.mem_of_getElem? hplace) (some ⟨n, i⟩)

/-- A row of a listing and a step of a walk are of one node below the root. The step names the parent with the
place where it has the node, and the row the number of the parent among the nodes that are listed. -/
structure Shows (nodes : List Node) (row : Node × Option Nat) (step : Node × Option Parent) : Prop where
  same : row.1 = step.1
  parent : ∃ i p, row.2 = some i ∧ step.2 = some p ∧ nodes[i]? = some p.node ∧
    p.node.children[p.place]? = some step.1

theorem Shows.append {row : Node × Option Nat} {step : Node × Option Parent} (h : Shows nodes row step)
    (more : List Node) : Shows (nodes ++ more) row step := by
  obtain ⟨i, p, hrow, hstep, hnode, hplace⟩ := h.parent
  obtain ⟨hlt, -⟩ := List.getElem?_eq_some_iff.mp hnode
  exact ⟨h.same, i, p, hrow, hstep, by rw [List.getElem?_append_left hlt, hnode], hplace⟩

/-- What a walk meets below a node. -/
def walkBelow (n : Node) : List (Node × Option Parent) :=
  n.children.zipIdx.flatMap fun (c, i) => c.walk (some ⟨n, i⟩)

/-- Behind the nodes before it a node is listed first, and then what a walk meets below it. -/
def ListedBehind (n : Node) (before : List Node) : Prop :=
  ∀ parent, ∃ rows, n.numbered before.length parent = (n, parent) :: rows ∧
    List.Forall₂ (Shows (before ++ n :: rows.map Prod.fst)) rows n.walkBelow

/-- By induction on the children that are left: their rows follow the ones that are there. -/
theorem listedBehind_of_children (before : List Node) (parent : Option Nat) (cs : List Node)
    (hcs : ∀ i c, cs[i]? = some c → n.children[k + i]? = some c)
    (hlisted : ∀ c ∈ cs, ∀ before, c.ListedBehind before) (rows : List (Node × Option Nat))
    {steps : List (Node × Option Parent)}
    (hrows : List.Forall₂ (Shows (before ++ n :: rows.map Prod.fst)) rows steps) :
    ∃ rows', cs.foldl (fun rows c => rows ++ c.numbered (before.length + rows.length) (some before.length))
        ((n, parent) :: rows) = (n, parent) :: rows' ∧
      List.Forall₂ (Shows (before ++ n :: rows'.map Prod.fst)) rows'
        (steps ++ (cs.zipIdx k).flatMap fun (c, i) => c.walk (some ⟨n, i⟩)) := by
  induction cs generalizing k rows steps with
  | nil => exact ⟨rows, rfl, by simpa using hrows⟩
  | cons c cs ih =>
    have hplace : n.children[k]? = some c := hcs 0 c rfl
    have hrest : ∀ i d, cs[i]? = some d → n.children[k + 1 + i]? = some d := fun i d hd => by
      rw [Nat.add_right_comm]
      exact hcs (i + 1) d hd
    have hlength : before.length + ((n, parent) :: rows).length =
        (before ++ n :: rows.map Prod.fst).length := by simp
    obtain ⟨below, hbelow, hsteps⟩ :=
      hlisted c List.mem_cons_self (before ++ n :: rows.map Prod.fst) (some before.length)
    have hnodes : before ++ n :: (rows ++ (c, some before.length) :: below).map Prod.fst =
        before ++ n :: rows.map Prod.fst ++ c :: below.map Prod.fst := by simp
    have hhead : Shows (before ++ n :: rows.map Prod.fst ++ c :: below.map Prod.fst)
        (c, some before.length) (c, some ⟨n, k⟩) :=
      ⟨rfl, before.length, ⟨n, k⟩, rfl, rfl, by simp, hplace⟩
    have hmore : List.Forall₂
        (Shows (before ++ n :: (rows ++ (c, some before.length) :: below).map Prod.fst))
        (rows ++ (c, some before.length) :: below) (steps ++ c.walk (some ⟨n, k⟩)) := by
      rw [hnodes, walk_eq]
      exact List.rel_append (hrows.imp fun _ _ h => h.append _) (.cons hhead hsteps)
    obtain ⟨rows', hfold, hall⟩ := ih hrest (fun d hd => hlisted d (List.mem_cons_of_mem c hd)) _ hmore
    refine ⟨rows', ?_, ?_⟩
    · rw [List.foldl_cons, hlength, hbelow]
      exact hfold
    · rw [List.zipIdx_cons, List.flatMap_cons, ← List.append_assoc]
      exact hall

theorem listedBehind (n : Node) (before : List Node) : n.ListedBehind before := by
  induction n using induction_on_children generalizing before with
  | step n ih =>
    intro parent
    obtain ⟨rows, hfold, hrows⟩ := listedBehind_of_children (k := 0) before parent n.children
      (fun i c hc => by rwa [Nat.zero_add]) ih [] .nil
    exact ⟨rows, by rw [numbered_eq, hfold], hrows⟩

/-- A search for nodes of some kinds finds those that a walk meets, in the same order and as often. A search
for the first of them, with a name or without one, stops at the first that is found, and finds none only if
there is none. Below the root, whatever parent it is given, a walk meets each node with a parent that it met
as well and that has the node among its children. A listing has the same nodes, and the number beside each
is that of the row of its parent. -/
theorem traversals_agree (n : Node) (kinds : List NodeKind) (above : Option Parent) :
    n.findAll kinds = ((n.walk above).map Prod.fst).filter (isOf kinds) ∧
    (∀ name, n.findFirst kinds (some name) = (n.findAll kinds).find? fun d => d.name? == some name) ∧
    n.findFirst kinds none = (n.findAll kinds).head? ∧
    ∃ steps, n.walk above = (n, above) :: steps ∧
      (∀ step ∈ steps, ∃ p, step.2 = some p ∧ p.node ∈ (n.walk above).map Prod.fst ∧
        p.node.children[p.place]? = some step.1) ∧
      ∃ rows, n.numbered 0 none = (n, none) :: rows ∧
        List.Forall₂ (Shows (n :: rows.map Prod.fst)) rows steps := by
  obtain ⟨rows, hnumbered, hrows⟩ := listedBehind n [] none
  refine ⟨?found, fun name => findFirst_eq_find? kinds (some name) n, ?first,
    n.walkBelow, walk_eq n above, ?parents, rows, hnumbered, hrows⟩
  case found => rw [map_fst_walk, ← findAll_eq_filter]
  case first =>
    rw [findFirst_eq_find?]
    cases n.findAll kinds <;> rfl
  case parents =>
    have hsame : rows.map Prod.fst = n.walkBelow.map Prod.fst := by
      rw [← List.forall₂_eq_eq_eq, List.forall₂_map_left_iff, List.forall₂_map_right_iff]
      exact hrows.imp fun _ _ h => h.same
    intro step hstep
    obtain ⟨j, rfl⟩ := List.mem_iff_get.mp hstep
    have hrow : j.val < rows.length := hrows.length_eq.symm ▸ j.isLt
    obtain ⟨i, p, -, hp, hnode, hplace⟩ := (hrows.get hrow j.isLt).parent
    refine ⟨p, hp, ?_, hplace⟩
    rw [walk_eq, List.map_cons]
    exact hsame ▸ List.mem_of_getElem? hnode

/-- A call of a method of a part, with an argument that has the name of the part. -/
def chain : Node :=
  .call (.memberAccess (.memberAccess (.identifier "self" .unknown) "part" .unknown) "open" .unknown)
    [.identifier "part" .unknown] [] [none] .unknown

theorem traversals_agree_chain :
    ∃ steps, chain.walk none = (chain, none) :: steps ∧
      (.identifier "part" .unknown, some ⟨chain, 1⟩) ∈ steps ∧
      ∃ p : Parent, some ⟨chain, 1⟩ = some p ∧ p.node ∈ (chain.walk none).map Prod.fst ∧
        p.node.children[p.place]? = some (.identifier "part" .unknown) := by
  obtain ⟨-, -, -, steps, hwalk, hparents, -⟩ := traversals_agree chain [.identifier] none
  have hmem : (.identifier "part" .unknown, some ⟨chain, 1⟩) ∈ steps := by
    have hbelow : steps = chain.walkBelow := (List.cons.inj (hwalk.symm.trans (walk_eq chain none))).2
    have hchild : (.identifier "part" .unknown, 1) ∈ chain.children.zipIdx := by simp [chain, children]
    have hmet : (.identifier "part" .unknown, some ⟨chain, 1⟩) ∈
        (identifier "part" .unknown).walk (some ⟨chain, 1⟩) := by
      rw [walk_eq]
      exact List.mem_cons_self
    exact hbelow ▸ List.mem_flatMap.mpr ⟨_, hchild, hmet⟩
  exact ⟨steps, hwalk, hmem, hparents _ hmem⟩

end Node
end BranchCover
