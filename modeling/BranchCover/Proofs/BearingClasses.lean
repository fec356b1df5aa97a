import BranchCover.Proofs.BearingStatements
import BranchCover.Proofs.Comments
import BranchCover.Proofs.Resolving

/-! The texts in the classes that a module declares. Names of fields, parameters and types are names in the
outline of the module, and the texts of conditions are read off its source. So none of them has a line end
of a sort if no name in the outline has one. -/
namespace BranchCover

open Line (Free Unbroken IsEnding)

/-- No name in the outline has a line end of a sort. -/
abbrev Outline.InLine (p : Char → Bool) (n : Node) : Prop :=
  Outline.Bears (fun s => Free p s.toList) n

namespace Node

variable {p : Char → Bool} {n d : Node}

theorem free_name (hp : IsEnding p) (h : Outline.InLine p n) {s : String} (hs : n.name? = some s) :
    Free p s.toList := by
  have hbears := h.self
  cases n with
  | hint k _ =>
    obtain rfl := Option.some.inj hs
    cases k <;> exact hp.free (by decide)
  | _ => exact hbears s hs

theorem inLine_of_mem_children (h : Outline.InLine p n) (hd : d ∈ n.children) : Outline.InLine p d :=
  (Throughout.iff.mp h).2 d hd

theorem Throughout.at? {P : Node → Prop} (h : n.Throughout P) {a : List Nat} (ha : n.at? a = some d) :
    d.Throughout P := by
  induction a generalizing n with
  | nil =>
    obtain rfl := Option.some.inj ha
    exact h
  | cons i a ih =>
    obtain ⟨c, hc, ha⟩ := Option.bind_eq_some_iff.mp ha
    exact ih ((Throughout.iff.mp h).2 c (List.mem_of_getElem? hc)) ha

end Node

structure Property.InLine (p : Char → Bool) (q : Property) : Prop where
  name : ∀ s, q.name = some s → Free p s.toList
  typeName : ∀ s, q.typeName = some s → Free p s.toList

namespace Property

variable {p : Char → Bool} {q r : Property} {n a d : Node} {s : Scope}

theorem inLine_unknown {name : Option String} (hname : ∀ t, name = some t → Free p t.toList)
    (node : Option Node) : (unknown name node).InLine p :=
  ⟨hname, nofun⟩

/-- By induction on the annotation. -/
theorem InLine.annotated (hp : IsEnding p) (h : q.InLine p) (ha : Outline.InLine p a) :
    (q.annotated a).InLine p := by
  fun_induction Property.annotated q a with
  | case1 element s r ih =>
    have helement := ih (Node.inLine_of_mem_children ha (by simp [Node.children]))
    exact ⟨helement.name, helement.typeName⟩
  | case2 => exact h
  | case3 => exact ⟨h.name, h.typeName⟩
  | case4 name s => exact ⟨h.name, fun t ht => Node.free_name hp ha ht⟩
  | case5 => exact h

theorem InLine.adopt (h : q.InLine p) (hr : r.InLine p) : (q.adopt r).InLine p :=
  ⟨h.name, hr.typeName⟩

theorem mem_children_of_typing? (h : typing? n = some a) : a ∈ n.children := by
  cases n with
  | property | param =>
    obtain rfl : _ = some a := h
    simp [Node.children]
  | _ => cases h

section

variable (hp : IsEnding p)

include hp

theorem inLine_own (hn : Outline.InLine p n) : (own n).InLine p := by
  have hunknown := inLine_unknown (fun _ => Node.free_name hp hn) (some n)
  unfold own
  split
  · rename_i a ha
    exact hunknown.annotated hp (Node.inLine_of_mem_children hn (mem_children_of_typing? ha))
  · exact hunknown

theorem inLine_declared (hn : Outline.InLine p n) {referenced : Option Property}
    (h : ∀ r, referenced = some r → r.InLine p) : (declared n referenced).InLine p := by
  have hown := inLine_own hp hn
  cases referenced with
  | none => rwa [declared_none]
  | some r =>
    rw [declared_some]
    split
    · exact hown.adopt (h r rfl)
    · exact hown

theorem inLine_getD_literal? (hn : Outline.InLine p n) {other : Property} (h : other.InLine p) :
    ((literal? n).getD other).InLine p := by
  cases hl : literal? n with
  | none => exact h
  | some q =>
    obtain ⟨node, c, rfl, -, -⟩ := literal?_eq_some hl
    exact ⟨fun _ => Node.free_name hp hn, nofun⟩

theorem inLine_ofNodeAlone (hn : Outline.InLine p n) : (ofNodeAlone n).InLine p :=
  inLine_getD_literal? hp hn (inLine_declared hp hn nofun)

/-- What is known of a node has no line ends if the names in it, and in what surrounds it, have none. -/
theorem inLine_ofNode (hs : ∀ r ∈ s.roots, Outline.InLine p r) (hn : Outline.InLine p n) :
    (ofNode s n).InLine p := by
  refine inLine_getD_literal? hp hn (inLine_declared hp hn fun r hr => ?_)
  obtain ⟨d, hd, rfl⟩ := Option.map_eq_some_iff.mp hr
  obtain ⟨init, -, hd⟩ := Option.bind_eq_some_iff.mp hd
  obtain ⟨name, -, hd⟩ := Option.bind_eq_some_iff.mp hd
  obtain ⟨root, hroot, hd⟩ := List.exists_of_findSome?_eq_some hd
  exact inLine_ofNodeAlone hp ((hs root hroot).of_mem_findAll (List.mem_of_find?_eq_some hd))

end

end Property

structure Method.InLine (p : Char → Bool) (m : Method) : Prop where
  name : Free p m.name.toList
  parameters : ∀ q ∈ m.parameters, q.InLine p
  conditions : ∀ e ∈ m.trace, Free p e.condition.text.toList

structure Class.InLine (p : Char → Bool) (c : Class) : Prop where
  name : Free p c.name.toList
  module : Free p c.module.toList
  properties : ∀ q ∈ c.properties, q.InLine p
  methods : ∀ m ∈ c.constructor.toList ++ c.methods, m.InLine p
  node : ∀ n, c.node = some n → Outline.InLine p n

section

variable {p : Char → Bool} (hp : IsEnding p)

include hp

theorem Method.inLine_ofParts {lines : List (List Char)} {s : Property.Scope}
    (hs : ∀ r ∈ s.roots, Outline.InLine p r) {head : MethodHead} {params : List Node} {body : Node}
    {returns : Option Node} {span : Span} (h : Outline.InLine p (.method head params body returns span)) :
    (ofParts lines s head params body).InLine p where
  name := Node.free_name hp h rfl
  parameters q hq := by
    obtain ⟨d, hd, rfl⟩ := List.mem_map.mp hq
    have hparam := Property.inLine_ofNode hp hs
      (Node.inLine_of_mem_children h (List.mem_append_left _ hd))
    exact ⟨hparam.name, hparam.typeName⟩
  conditions e he := hp.free (isRead_of_mem_trace rfl he).unbroken

theorem Class.inLine_ofMembers {lines : List (List Char)} {root : Node} {module name : String}
    {body : List Node} {span : Span} (hroot : Outline.InLine p root)
    (h : Outline.InLine p (.classDecl name body span)) (hmodule : Free p module.toList) :
    (ofMembers lines ⟨some (.classDecl name body span), some root⟩ module name body).InLine p := by
  have hmember : ∀ d ∈ body, Outline.InLine p d := fun d hd => Node.inLine_of_mem_children h hd
  have hroots : ∀ r ∈ Property.Scope.roots ⟨some (.classDecl name body span), some root⟩,
      Outline.InLine p r := by
    intro r hr
    rcases List.mem_pair.mp hr with rfl | rfl
    · exact h
    · exact hroot
  refine ⟨Node.free_name hp h rfl, hmodule, fun q hq => ?properties, fun m hm => ?methods, ?node⟩
  case properties =>
    obtain ⟨d, hd, hq⟩ := List.mem_filterMap.mp hq
    split at hq
    · obtain rfl := Option.some.inj hq
      have hfield := Property.inLine_ofNode hp hroots (hmember _ hd)
      exact ⟨hfield.name, hfield.typeName⟩
    · cases hq
  case methods =>
    rcases List.mem_append.mp hm with hm | hm
    · obtain ⟨d, hd, hm⟩ := List.exists_of_findSome?_eq_some (Option.mem_toList.mp hm)
      split at hm
      · obtain ⟨-, hm⟩ := Option.ite_none_right_eq_some.mp hm
        obtain rfl := Option.some.inj hm
        exact Method.inLine_ofParts hp hroots (hmember _ hd)
      · cases hm
    · obtain ⟨d, hd, hm⟩ := List.mem_filterMap.mp hm
      split at hm
      · obtain ⟨-, hm⟩ := Option.ite_none_left_eq_some.mp hm
        obtain rfl := Option.some.inj hm
        exact Method.inLine_ofParts hp hroots (hmember _ hd)
      · cases hm
  case node =>
    rintro n hn
    obtain rfl := Option.some.inj hn
    exact h

/-- The classes that a module declares have no line ends of a sort if no name in its outline has one. -/
theorem Class.inLine_of_mem_ofModule {source module : String} {root : Node} {c : Class}
    (hroot : Outline.InLine p root) (hmodule : Free p module.toList)
    (hc : c ∈ ofModule source module root) : c.InLine p := by
  obtain ⟨n, hn, hc⟩ := List.mem_filterMap.mp hc
  unfold ofNode? at hc
  split at hc
  · rw [← Option.some.inj hc]
    exact inLine_ofMembers hp hroot (Node.inLine_of_mem_children hroot hn) hmodule
  · cases hc

end

end BranchCover
