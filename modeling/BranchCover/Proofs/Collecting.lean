import BranchCover.Proofs.Preorder
import BranchCover.Proofs.Stubbing
import Mathlib.Data.List.Lex

/-! The stubs of a class. Each stubbed type has one stub, in the order in which the properties bring
the types in. The members of a stub are the attributes that the class reaches through the names of
the properties of its type, each with the use that the first access of the first such property makes
of it. -/
namespace BranchCover
namespace Node

/-- At the address there is an access to the attribute `m` of what is called `name`. -/
def Accesses (root : Node) (name m : String) (a : List Nat) : Prop :=
  ∃ target span, root.at? a = some (.memberAccess target m span) ∧ target.reference? = some name

/-- What is at the address is called, with these arguments. -/
def Calls (root : Node) (a : List Nat) (args keywords : List Node) : Prop :=
  ∃ b func names span, a = b ++ [0] ∧ root.at? b = some (.call func args keywords names span)

/-- The member is used as the access at the address uses it. -/
def Uses (root : Node) (a : List Nat) (m : StubMember) : Prop :=
  (∃ args keywords, root.Calls a args keywords ∧ m.isCallable = true ∧ m.arity = args.length ∧
    m.hasKeywords = !keywords.isEmpty) ∨
  ((∀ args keywords, ¬ root.Calls a args keywords) ∧ m.isCallable = false ∧ m.arity = 0 ∧
    m.hasKeywords = false)

end Node

namespace Stub

/-- The property is an object of a type that gets a stub. -/
def OfType (o : Options) (t : String) (p : Property) : Prop :=
  p.category = some .object ∧ p.typeName = some t ∧ o.stubbable (some t) = true

instance (o : Options) (t : String) (p : Property) : Decidable (OfType o t p) :=
  inferInstanceAs (Decidable (_ ∧ _))

/-- At the address of the tree the attribute `m` is reached through the name of the property. -/
def Reaches (root : Option Node) (p : Property) (m : String) (a : List Nat) : Prop :=
  ∃ r name, root = some r ∧ p.name = some name ∧ name ≠ "" ∧ r.Accesses name m a

/-- The member is used as at the first address at which it is reached through the property. -/
def FirstUsed (root : Option Node) (p : Property) (m : StubMember) : Prop :=
  ∃ r a, root = some r ∧ Reaches root p m.name a ∧ (∀ b, Reaches root p m.name b → a ≤ b) ∧
    r.Uses a m

structure Collected (o : Options) (mark : String) (root : Option Node) (ps : List Property)
    (stubs : List Stub) : Prop where
  className : ∀ s ∈ stubs, s.className = mark ++ s.typeName
  typed : ∀ t, (∃ s ∈ stubs, s.typeName = t) ↔ ∃ p ∈ ps, OfType o t p
  /-- In particular no type has two stubs. -/
  ordered : stubs.Pairwise fun s s' =>
    ps.findIdx (OfType o s.typeName ·) < ps.findIdx (OfType o s'.typeName ·)
  distinct : ∀ s ∈ stubs, (s.members.map (·.name)).Nodup
  reached : ∀ s ∈ stubs, ∀ name, (∃ m ∈ s.members, m.name = name) ↔
    ∃ p ∈ ps, OfType o s.typeName p ∧ ∃ a, Reaches root p name a
  used : ∀ s ∈ stubs, ∀ m ∈ s.members, ∃ before p after, ps = before ++ p :: after ∧
    OfType o s.typeName p ∧ FirstUsed root p m ∧
    ∀ q ∈ before, OfType o s.typeName q → ∀ a, ¬ Reaches root q m.name a

end Stub

/-- In a list that is in order, the first that passes is the least that passes. -/
theorem find?_eq_some_iff_least {α : Type} [Preorder α] {xs : List α} {q : α → Bool} {x : α}
    (hxs : xs.Pairwise (· < ·)) :
    xs.find? q = some x ↔ x ∈ xs ∧ q x = true ∧ ∀ y ∈ xs, q y = true → x ≤ y := by
  induction xs with
  | nil => simp
  | cons z zs ih =>
    obtain ⟨hz, hzs⟩ := List.pairwise_cons.mp hxs
    by_cases hq : q z = true
    · rw [List.find?_cons_of_pos hq, Option.some_inj]
      constructor
      · rintro rfl
        refine ⟨List.mem_cons_self, hq, fun y hy _ => ?_⟩
        rcases List.mem_cons.mp hy with rfl | hy
        · exact le_refl y
        · exact (hz y hy).le
      · rintro ⟨hx, -, hleast⟩
        rcases List.mem_cons.mp hx with rfl | hx
        · rfl
        · exact absurd (hleast z List.mem_cons_self hq) (hz x hx).not_ge
    · rw [List.find?_cons_of_neg hq, ih hzs]
      constructor
      · rintro ⟨hx, hqx, hleast⟩
        refine ⟨List.mem_cons_of_mem z hx, hqx, fun y hy hqy => ?_⟩
        rcases List.mem_cons.mp hy with rfl | hy
        · exact absurd hqy hq
        · exact hleast y hy hqy
      · rintro ⟨hx, hqx, hleast⟩
        rcases List.mem_cons.mp hx with rfl | hx
        · exact absurd hqx hq
        · exact ⟨hx, hqx, fun y hy => hleast y (List.mem_cons_of_mem z hy)⟩

theorem findSome?_filter {α β : Type} (q : α → Bool) (f : α → Option β) (xs : List α) :
    (xs.filter q).findSome? f = xs.findSome? fun x => if q x then f x else none := by
  induction xs with
  | nil => rfl
  | cons x xs ih =>
    by_cases hx : q x = true
    · simp [List.findSome?_cons, hx, ih]
    · simp [hx, ih]

namespace Node

section Accessing

variable {root : Node} {a : List Nat} {args keywords : List Node}

theorem calls_iff_parentAt? {c : Node} (hc : root.at? a = some c) :
    root.Calls a args keywords ↔
      ∃ func names span, root.parentAt? none a = some ⟨.call func args keywords names span, 0⟩ := by
  rcases List.eq_nil_or_concat' a with rfl | ⟨b, i, rfl⟩
  · simp [Calls, parentAt?]
  · rw [at?_concat] at hc
    obtain ⟨p, hp, hplace⟩ := Option.bind_eq_some_iff.mp hc
    have hparent : root.parentAt? none (b ++ [i]) = some ⟨p, i⟩ := by
      simp [parentAt?_concat, hp, hplace]
    rw [hparent]
    constructor
    · rintro ⟨b', func, names, span, heq, hb'⟩
      obtain ⟨rfl, hi⟩ := List.append_inj' heq rfl
      obtain rfl : i = 0 := List.singleton_inj.mp hi
      obtain rfl : p = .call func args keywords names span := Option.some.inj (hp.symm.trans hb')
      exact ⟨func, names, span, rfl⟩
    · rintro ⟨func, names, span, heq⟩
      obtain ⟨rfl, rfl⟩ := Parent.mk.inj (Option.some.inj heq)
      exact ⟨b, func, names, span, rfl, hp⟩

theorem Calls.unique {args' keywords' : List Node} (h : root.Calls a args keywords)
    (h' : root.Calls a args' keywords') : args = args' ∧ keywords = keywords' := by
  obtain ⟨b, func, names, span, rfl, hb⟩ := h
  obtain ⟨b', func', names', span', heq, hb'⟩ := h'
  obtain ⟨rfl, -⟩ := List.append_inj' heq rfl
  obtain ⟨-, hargs, hkeywords, -⟩ := Node.call.inj (Option.some.inj (hb.symm.trans hb'))
  exact ⟨hargs, hkeywords⟩

theorem eq_of_flags {m : StubMember} {callable keyworded : Bool} {arity : Nat}
    (hcallable : m.isCallable = callable) (harity : m.arity = arity)
    (hkeywords : m.hasKeywords = keyworded) : m = ⟨m.name, callable, arity, keyworded⟩ := by
  rw [← hcallable, ← harity, ← hkeywords]

theorem Calls.uses_iff {m : StubMember} (h : root.Calls a args keywords) :
    root.Uses a m ↔ m = ⟨m.name, true, args.length, !keywords.isEmpty⟩ := by
  constructor
  · rintro (⟨args', keywords', hcall, hcallable, harity, hkeywords⟩ | ⟨hnot, -⟩)
    · obtain ⟨rfl, rfl⟩ := h.unique hcall
      exact eq_of_flags hcallable harity hkeywords
    · exact absurd h (hnot args keywords)
  · intro hm
    rw [hm]
    exact .inl ⟨args, keywords, h, rfl, rfl, rfl⟩

theorem uses_iff_of_not_calls {m : StubMember} (h : ∀ args keywords, ¬ root.Calls a args keywords) :
    root.Uses a m ↔ m = ⟨m.name, false, 0, false⟩ := by
  constructor
  · rintro (⟨args, keywords, hcall, -⟩ | ⟨-, hcallable, harity, hkeywords⟩)
    · exact absurd hcall (h args keywords)
    · exact eq_of_flags hcallable harity hkeywords
  · intro hm
    rw [hm]
    exact .inr ⟨h, rfl, rfl, rfl⟩

theorem exists_uses (root : Node) (a : List Nat) (name : String) :
    ∃ m : StubMember, m.name = name ∧ root.Uses a m := by
  by_cases h : ∃ args keywords, root.Calls a args keywords
  · obtain ⟨args, keywords, hcall⟩ := h
    exact ⟨⟨name, true, args.length, !keywords.isEmpty⟩, rfl, hcall.uses_iff.mpr rfl⟩
  · have hnot : ∀ args keywords, ¬ root.Calls a args keywords := fun args keywords hcall =>
      h ⟨args, keywords, hcall⟩
    exact ⟨⟨name, false, 0, false⟩, rfl, (uses_iff_of_not_calls hnot).mpr rfl⟩

theorem memberAt?_access {target : Node} {attr name : String} {span : Span} {m : StubMember}
    (hc : root.at? a = some (.memberAccess target attr span)) (htarget : target.reference? = some name) :
    Stub.memberAt? name (.memberAccess target attr span) (root.parentAt? none a) = some m ↔
      attr = m.name ∧ root.Uses a m := by
  have hsome : ∀ callable arity keyworded,
      some ⟨attr, callable, arity, keyworded⟩ = some m ↔
        attr = m.name ∧ m = ⟨m.name, callable, arity, keyworded⟩ := fun _ _ _ => by
    constructor
    · intro h
      obtain rfl := Option.some.inj h
      exact ⟨rfl, rfl⟩
    · rintro ⟨rfl, hm⟩
      exact congrArg some hm.symm
  by_cases hcalled : ∃ args keywords, root.Calls a args keywords
  · obtain ⟨args, keywords, hcall⟩ := hcalled
    obtain ⟨func, names, span', hparent⟩ := (calls_iff_parentAt? hc).mp hcall
    have hmember : Stub.memberAt? name (.memberAccess target attr span) (root.parentAt? none a) =
        some ⟨attr, true, args.length, !keywords.isEmpty⟩ := by
      simp [Stub.memberAt?, htarget, hparent]
    rw [hmember, hcall.uses_iff, hsome]
  · have hnot : ∀ args keywords, ¬ root.Calls a args keywords := fun args keywords hcall =>
      hcalled ⟨args, keywords, hcall⟩
    have hmember : Stub.memberAt? name (.memberAccess target attr span) (root.parentAt? none a) =
        some ⟨attr, false, 0, false⟩ := by
      simp only [Stub.memberAt?, htarget, beq_self_eq_true, if_true]
      split
      · rename_i func args keywords names span' hparent
        exact absurd ((calls_iff_parentAt? hc).mpr ⟨func, names, span', hparent⟩) (hnot _ _)
      · rfl
    rw [hmember, uses_iff_of_not_calls hnot, hsome]

theorem memberAt?_eq_none {c : Node} {name : String}
    (h : ∀ target attr span, c = .memberAccess target attr span → target.reference? ≠ some name)
    (parent : Option Parent) : Stub.memberAt? name c parent = none := by
  unfold Stub.memberAt?
  split
  · rename_i target attr span
    simp [h target attr span rfl]
  · rfl

theorem memberAt?_eq_some_iff {c : Node} {name : String} {m : StubMember}
    (hc : root.at? a = some c) :
    Stub.memberAt? name c (root.parentAt? none a) = some m ↔
      root.Accesses name m.name a ∧ root.Uses a m := by
  by_cases haccess : ∃ target attr span,
      c = .memberAccess target attr span ∧ target.reference? = some name
  · obtain ⟨target, attr, span, rfl, htarget⟩ := haccess
    have hname : root.Accesses name m.name a ↔ attr = m.name := by
      constructor
      · rintro ⟨target', span', hat, -⟩
        exact (Node.memberAccess.inj (Option.some.inj (hc.symm.trans hat))).2.1
      · rintro rfl
        exact ⟨target, span, hc, htarget⟩
    rw [memberAt?_access hc htarget, hname]
  · have hnone := memberAt?_eq_none (fun target attr span hac h => haccess ⟨target, attr, span, hac, h⟩)
      (root.parentAt? none a)
    rw [hnone]
    constructor
    · intro h
      cases h
    · rintro ⟨⟨target, span, hat, htarget⟩, -⟩
      exact absurd ⟨target, m.name, span, Option.some.inj (hc.symm.trans hat), htarget⟩ haccess

theorem members_eq_addresses (root : Node) (name : String) :
    ((root.walk none).filterMap fun (c, parent) => Stub.memberAt? name c parent) =
      root.addresses.filterMap fun a =>
        (root.at? a).bind fun c => Stub.memberAt? name c (root.parentAt? none a) := by
  rw [walk_eq_addresses, List.filterMap_filterMap]
  apply List.filterMap_congr
  intro a _
  cases root.at? a <;> rfl

theorem memberOf_eq_some_iff {name : String} {m : StubMember} :
    ((root.at? a).bind fun c => Stub.memberAt? name c (root.parentAt? none a)) = some m ↔
      root.Accesses name m.name a ∧ root.Uses a m := by
  cases hc : root.at? a with
  | none =>
    constructor
    · intro h
      cases h
    · rintro ⟨⟨target, span, hat, -⟩, -⟩
      simp [hc] at hat
  | some c => exact memberAt?_eq_some_iff hc

theorem Accesses.unique {name attr attr' : String} (h : root.Accesses name attr a)
    (h' : root.Accesses name attr' a) : attr = attr' := by
  obtain ⟨target, span, hat, -⟩ := h
  obtain ⟨target', span', hat', -⟩ := h'
  exact (Node.memberAccess.inj (Option.some.inj (hat.symm.trans hat'))).2.1

theorem Accesses.mem_addresses {name attr : String} (h : root.Accesses name attr a) :
    a ∈ root.addresses := by
  obtain ⟨target, span, hat, -⟩ := h
  exact (mem_addresses_iff root a).mpr ⟨_, hat⟩

theorem any_memberOf_iff {name attr : String} :
    ((root.at? a).bind fun c => Stub.memberAt? name c (root.parentAt? none a)).any
        (·.name == attr) = true ↔ root.Accesses name attr a := by
  rw [Option.any_eq_true]
  constructor
  · rintro ⟨m, hm, hattr⟩
    obtain rfl : m.name = attr := eq_of_beq hattr
    exact (memberOf_eq_some_iff.mp hm).1
  · intro h
    obtain ⟨m, rfl, huses⟩ := exists_uses root a attr
    exact ⟨m, memberOf_eq_some_iff.mpr ⟨h, huses⟩, beq_self_eq_true m.name⟩

theorem find?_members_eq_some_iff {name attr : String} {m : StubMember} :
    ((root.walk none).filterMap fun (c, parent) => Stub.memberAt? name c parent).find?
        (·.name == attr) = some m ↔
      m.name = attr ∧ ∃ a, root.Accesses name attr a ∧ (∀ b, root.Accesses name attr b → a ≤ b) ∧
        root.Uses a m := by
  rw [members_eq_addresses, List.find?_filterMap, Option.bind_eq_some_iff]
  simp only [find?_eq_some_iff_least (pairwise_addresses root), any_memberOf_iff,
    memberOf_eq_some_iff]
  constructor
  · rintro ⟨a, ⟨-, haccess, hleast⟩, haccess', huses⟩
    exact ⟨haccess'.unique haccess, a, haccess, fun b hb => hleast b hb.mem_addresses hb, huses⟩
  · rintro ⟨rfl, a, haccess, hleast, huses⟩
    exact ⟨a, ⟨haccess.mem_addresses, haccess, fun b _ => hleast b⟩, haccess, huses⟩

theorem find?_members_eq_none_iff {name attr : String} :
    ((root.walk none).filterMap fun (c, parent) => Stub.memberAt? name c parent).find?
        (·.name == attr) = none ↔ ∀ a, ¬ root.Accesses name attr a := by
  rw [members_eq_addresses, List.find?_eq_none]
  constructor
  · intro h a haccess
    obtain ⟨m, hname, huses⟩ := exists_uses root a attr
    have hm : m ∈ root.addresses.filterMap fun a =>
        (root.at? a).bind fun c => Stub.memberAt? name c (root.parentAt? none a) :=
      List.mem_filterMap.mpr
        ⟨a, haccess.mem_addresses, memberOf_eq_some_iff.mpr ⟨hname ▸ haccess, huses⟩⟩
    exact h m hm (beq_iff_eq.mpr hname)
  · intro h m hm hname
    obtain ⟨a, -, ha⟩ := List.mem_filterMap.mp hm
    obtain rfl : m.name = attr := eq_of_beq hname
    exact h a (memberOf_eq_some_iff.mp ha).1

end Accessing

end Node

namespace Stub

section Distinct

variable {known : List String} {m : StubMember} {ms : List StubMember}

theorem distinct_cons_of_mem (h : m.name ∈ known) : distinct known (m :: ms) = distinct known ms := by
  simp [distinct, h]

theorem distinct_cons_of_not_mem (h : m.name ∉ known) :
    distinct known (m :: ms) = m :: distinct (m.name :: known) ms := by
  simp [distinct, h]

/-- By induction along the members, for any names that are known. -/
theorem find?_distinct {name : String} (hname : name ∉ known) (ms : List StubMember) :
    (distinct known ms).find? (·.name == name) = ms.find? (·.name == name) := by
  induction ms generalizing known with
  | nil => rfl
  | cons m ms ih =>
    by_cases hm : m.name ∈ known
    · have hne : m.name ≠ name := fun h => hname (h ▸ hm)
      rw [distinct_cons_of_mem hm, ih hname, List.find?_cons_of_neg (by simpa using hne)]
    · rw [distinct_cons_of_not_mem hm]
      by_cases heq : m.name = name
      · rw [List.find?_cons_of_pos (by simpa using heq), List.find?_cons_of_pos (by simpa using heq)]
      · have hname' : name ∉ m.name :: known := by
          rw [List.mem_cons]
          rintro (h | h)
          · exact heq h.symm
          · exact hname h
        rw [List.find?_cons_of_neg (by simpa using heq), List.find?_cons_of_neg (by simpa using heq),
          ih hname']

theorem name_not_mem_of_mem_distinct (h : m ∈ distinct known ms) : m.name ∉ known := by
  induction ms generalizing known with
  | nil => cases h
  | cons x ms ih =>
    by_cases hx : x.name ∈ known
    · rw [distinct_cons_of_mem hx] at h
      exact ih h
    · rw [distinct_cons_of_not_mem hx] at h
      rcases List.mem_cons.mp h with rfl | h
      · exact hx
      · exact fun hknown => ih h (List.mem_cons_of_mem x.name hknown)

theorem nodup_names_distinct (known : List String) (ms : List StubMember) :
    ((distinct known ms).map (·.name)).Nodup := by
  induction ms generalizing known with
  | nil => exact List.nodup_nil
  | cons x ms ih =>
    by_cases hx : x.name ∈ known
    · rw [distinct_cons_of_mem hx]
      exact ih known
    · have hfresh : x.name ∉ (distinct (x.name :: known) ms).map (·.name) := fun h => by
        obtain ⟨m, hm, hname⟩ := List.mem_map.mp h
        exact name_not_mem_of_mem_distinct hm (hname ▸ List.mem_cons_self)
      rw [distinct_cons_of_not_mem hx, List.map_cons, List.nodup_cons]
      exact ⟨hfresh, ih _⟩

/-- Where the names differ, a member is the one that is found by its name. -/
theorem mem_iff_find? (h : (ms.map (·.name)).Nodup) :
    m ∈ ms ↔ ms.find? (·.name == m.name) = some m := by
  induction ms with
  | nil => simp
  | cons x ms ih =>
    obtain ⟨hx, hms⟩ := List.nodup_cons.mp h
    by_cases heq : x.name = m.name
    · have hm : m ∉ ms := fun hm => hx (List.mem_map.mpr ⟨m, hm, heq.symm⟩)
      rw [List.find?_cons_of_pos (by simpa using heq), Option.some_inj, List.mem_cons]
      constructor
      · rintro (rfl | h)
        · rfl
        · exact absurd h hm
      · rintro rfl
        exact .inl rfl
    · have hne : m ≠ x := fun h => heq (h ▸ rfl)
      rw [List.find?_cons_of_neg (by simpa using heq), ← ih hms, List.mem_cons]
      simp [hne]

end Distinct

section Members

variable {o : Options} {mark name : String} {root : Option Node} {p : Property} {ps : List Property}
  {m : StubMember} {s : Stub}

theorem usedMembers_cases (root : Option Node) (p : Property) :
    (∃ r n, root = some r ∧ usedMembers root p.name =
      distinct [] ((r.walk none).filterMap fun (c, parent) => memberAt? n c parent) ∧
      ∀ name a, Reaches root p name a ↔ r.Accesses n name a) ∨
    (usedMembers root p.name = [] ∧ ∀ name a, ¬ Reaches root p name a) := by
  by_cases h : ∃ r n, root = some r ∧ p.name = some n ∧ n ≠ ""
  · obtain ⟨r, n, rfl, hname, hne⟩ := h
    refine .inl ⟨r, n, rfl, by simp [usedMembers, hname, hne], fun name a => ?_⟩
    constructor
    · rintro ⟨r', n', hr, hn, -, haccess⟩
      obtain rfl := Option.some.inj hr
      obtain rfl := Option.some.inj (hname.symm.trans hn)
      exact haccess
    · exact fun haccess => ⟨r, n, rfl, hname, hne, haccess⟩
  · have hnone : ∀ name a, ¬ Reaches root p name a := by
      rintro name a ⟨r, n, hr, hn, hne, -⟩
      exact h ⟨r, n, hr, hn, hne⟩
    refine .inr ⟨?_, hnone⟩
    unfold usedMembers
    split
    · rename_i r n hn
      have hempty : n = "" := by
        by_contra hne
        exact h ⟨r, n, rfl, hn, hne⟩
      simp [hempty]
    · rfl

theorem find?_usedMembers_eq_some_iff :
    (usedMembers root p.name).find? (·.name == name) = some m ↔
      m.name = name ∧ FirstUsed root p m := by
  rcases usedMembers_cases root p with ⟨r, n, rfl, hused, hreaches⟩ | ⟨hused, hnone⟩
  · rw [hused, find?_distinct List.not_mem_nil, Node.find?_members_eq_some_iff]
    apply and_congr_right
    rintro rfl
    simp only [FirstUsed, hreaches]
    constructor
    · rintro ⟨a, haccess, hleast, huses⟩
      exact ⟨r, a, rfl, haccess, hleast, huses⟩
    · rintro ⟨r', a, hr, haccess, hleast, huses⟩
      obtain rfl := Option.some.inj hr
      exact ⟨a, haccess, hleast, huses⟩
  · rw [hused]
    constructor
    · intro h
      cases h
    · rintro ⟨-, r, a, -, hreaches, -⟩
      exact absurd hreaches (hnone m.name a)

theorem find?_usedMembers_eq_none_iff :
    (usedMembers root p.name).find? (·.name == name) = none ↔ ∀ a, ¬ Reaches root p name a := by
  rcases usedMembers_cases root p with ⟨r, n, rfl, hused, hreaches⟩ | ⟨hused, hnone⟩
  · rw [hused, find?_distinct List.not_mem_nil, Node.find?_members_eq_none_iff]
    simp only [hreaches]
  · rw [hused]
    exact ⟨fun _ => hnone name, fun _ => rfl⟩

theorem ofType_iff {t : String} : OfType o t p ↔ stubbedType? o p = some t :=
  stubbedType?_eq_some_iff.symm

/-- By induction along the properties, for any types that are known. -/
theorem pairwise_firsts (o : Options) (known : List String) (ps : List Property) :
    (firsts known (ps.filterMap (stubbedType? o))).Pairwise fun t u =>
      ps.findIdx (OfType o t ·) < ps.findIdx (OfType o u ·) := by
  induction ps generalizing known with
  | nil => exact List.Pairwise.nil
  | cons p ps ih =>
    have hlater : ∀ t, stubbedType? o p ≠ some t →
        (p :: ps).findIdx (OfType o t ·) = ps.findIdx (OfType o t ·) + 1 := fun t ht => by
      have hnot : ¬ OfType o t p := fun h => ht (ofType_iff.mp h)
      simp [List.findIdx_cons, hnot]
    have hshift : ∀ t u, stubbedType? o p ≠ some t → stubbedType? o p ≠ some u →
        ps.findIdx (OfType o t ·) < ps.findIdx (OfType o u ·) →
        (p :: ps).findIdx (OfType o t ·) < (p :: ps).findIdx (OfType o u ·) := fun t u ht hu h => by
      rw [hlater t ht, hlater u hu]
      exact Nat.succ_lt_succ h
    cases hp : stubbedType? o p with
    | none =>
      rw [List.filterMap_cons_none hp]
      exact (ih known).imp fun {t u} => hshift t u (by simp [hp]) (by simp [hp])
    | some v =>
      rw [List.filterMap_cons_some hp]
      by_cases hv : v ∈ known
      · have hother : ∀ t ∈ firsts known (ps.filterMap (stubbedType? o)), stubbedType? o p ≠ some t := by
          rintro t ht heq
          obtain rfl := Option.some.inj (hp.symm.trans heq)
          exact (mem_firsts.mp ht).2 hv
        rw [firsts_cons_of_mem hv]
        exact (ih known).imp_of_mem fun ht hu => hshift _ _ (hother _ ht) (hother _ hu)
      · have hother : ∀ t ∈ firsts (v :: known) (ps.filterMap (stubbedType? o)),
            stubbedType? o p ≠ some t := by
          rintro t ht heq
          obtain rfl := Option.some.inj (hp.symm.trans heq)
          exact (mem_firsts.mp ht).2 List.mem_cons_self
        rw [firsts_cons_of_not_mem hv, List.pairwise_cons]
        refine ⟨fun u hu => ?_, (ih _).imp_of_mem fun ht hu => hshift _ _ (hother _ ht) (hother _ hu)⟩
        have hfirst : (p :: ps).findIdx (OfType o v ·) = 0 := by
          simp [List.findIdx_cons, ofType_iff.mpr hp]
        rw [hfirst, hlater u (hother u hu)]
        exact Nat.succ_pos _

/-- The members of a stub, by their names: the first property that reaches one decides. -/
theorem find?_members_collect (hs : s ∈ collect o mark root ps) (name : String) :
    s.members.find? (·.name == name) = ps.findSome? fun p =>
      if OfType o s.typeName p then (usedMembers root p.name).find? (·.name == name) else none := by
  obtain ⟨t, -, rfl⟩ := List.mem_map.mp hs
  rw [find?_distinct List.not_mem_nil, List.find?_flatMap, findSome?_filter]
  simp only [beq_iff_eq, ofType_iff]

theorem nodup_names_of_mem_collect (hs : s ∈ collect o mark root ps) :
    (s.members.map (·.name)).Nodup := by
  obtain ⟨t, -, rfl⟩ := List.mem_map.mp hs
  exact nodup_names_distinct [] _

theorem exists_member_iff (hs : s ∈ collect o mark root ps) (name : String) :
    (∃ m ∈ s.members, m.name = name) ↔
      ∃ p ∈ ps, OfType o s.typeName p ∧ ∃ a, Reaches root p name a := by
  have hfound : (∃ m ∈ s.members, m.name = name) ↔
      s.members.find? (·.name == name) ≠ none := by
    simp [List.find?_eq_none]
  rw [hfound, find?_members_collect hs, Ne, List.findSome?_eq_none_iff]
  push Not
  apply exists_congr
  intro p
  apply and_congr_right
  intro _
  by_cases ht : OfType o s.typeName p
  · rw [if_pos ht, Ne, find?_usedMembers_eq_none_iff]
    simp [ht]
  · simp [ht]

theorem first_use_of_mem (hs : s ∈ collect o mark root ps) (hm : m ∈ s.members) :
    ∃ before p after, ps = before ++ p :: after ∧ OfType o s.typeName p ∧ FirstUsed root p m ∧
      ∀ q ∈ before, OfType o s.typeName q → ∀ a, ¬ Reaches root q m.name a := by
  have hfind := (mem_iff_find? (nodup_names_of_mem_collect hs)).mp hm
  rw [find?_members_collect hs] at hfind
  obtain ⟨before, p, after, hps, hp, hbefore⟩ := List.findSome?_eq_some_iff.mp hfind
  obtain ⟨ht, hp⟩ := Option.ite_none_right_eq_some.mp hp
  refine ⟨before, p, after, hps, ht, (find?_usedMembers_eq_some_iff.mp hp).2, fun q hq hqt => ?_⟩
  have hnone := hbefore q hq
  rw [if_pos hqt] at hnone
  exact find?_usedMembers_eq_none_iff.mp hnone

theorem collected_collect (o : Options) (mark : String) (root : Option Node) (ps : List Property) :
    Collected o mark root ps (collect o mark root ps) where
  className _ := className_of_mem_collect
  typed t := by simp only [exists_mem_collect_iff, ofType_iff]
  ordered := by
    have htypes := pairwise_firsts o [] ps
    rw [← typeNames_collect o mark root ps, List.pairwise_map] at htypes
    exact htypes
  distinct _ := nodup_names_of_mem_collect
  reached _ := exists_member_iff
  used _ hs _ := first_use_of_mem hs

end Members

/-- The fakes are those of the fields, the injected stubs those of the constructor parameters. -/
theorem collected_stubs (o : Options) (c : Class) :
    Collected o o.fakeMark c.node c.properties (fakes o c) ∧
      Collected o o.stubMark c.node c.parameters (injected o c) := by
  have hinjected := collected_collect o o.stubMark c.node c.parameters
  rw [← injected_eq_collect] at hinjected
  exact ⟨collected_collect o o.fakeMark c.node c.properties, hinjected⟩

end Stub
end BranchCover
