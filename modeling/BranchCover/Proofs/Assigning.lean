import BranchCover.Proofs.Reading
import BranchCover.Proofs.Standing

/-! The fields of an instance. A class declares the attributes that its first initializer assigns, at
any depth, each once and in the order of their first assignments. Attributes count of the first parameter
that is not positional-only, which the receiver may be. -/
namespace BranchCover

namespace Span

theorem startsBy_refl (a : Span) : a.startsBy a := by
  simp [startsBy]

theorem startsBy_trans {a b c : Span} (hab : a.startsBy b) (hbc : b.startsBy c) :
    a.startsBy c := by
  simp only [startsBy, Bool.or_eq_true, Bool.and_eq_true, decide_eq_true_eq, beq_iff_eq] at hab hbc ⊢
  omega

theorem startsBy_total (a b : Span) : a.startsBy b || b.startsBy a := by
  simp only [startsBy, Bool.or_eq_true, Bool.and_eq_true, decide_eq_true_eq, beq_iff_eq]
  omega

end Span

namespace Outline

open Source

namespace Assignment

def ofStmt? : Stmt → Option Assignment
  | .assign targets value s => some ⟨targets, none, some value, s⟩
  | .annotate target typing value s => some ⟨[target], some typing, value, s⟩
  | _ => none

/-- The assignment stands in some statements, at any depth. -/
def Inside (a : Assignment) (ss : List Stmt) : Prop :=
  ∃ x, Within Stmt.parts x ss ∧ ofStmt? x = some a

namespace Inside

variable {a : Assignment} {s : Stmt} {ss ts : List Stmt}

@[simp] theorem nil : ¬ a.Inside [] := by
  simp [Inside]

@[simp] theorem append : a.Inside (ss ++ ts) ↔ a.Inside ss ∨ a.Inside ts := by
  simp only [Inside, Within.append, or_and_right, exists_or]

theorem singleton : a.Inside [s] ↔ ofStmt? s = some a ∨ a.Inside s.parts := by
  simp only [Inside, Within.singleton, or_and_right, exists_or, exists_eq_left]

theorem cons : a.Inside (s :: ss) ↔ a.Inside [s] ∨ a.Inside ss := by
  rw [← List.singleton_append, append]

end Inside

mutual

/-- By induction on the statement: the assignments that are collected are those inside it. -/
theorem mem_ofStmt_iff {a : Assignment} : ∀ s : Stmt, a ∈ ofStmt s ↔ a.Inside [s]
  | .assign targets value s => by
    rw [Inside.singleton, ofStmt, List.mem_singleton]
    simp [ofStmt?, Stmt.parts, eq_comm]
  | .annotate target typing value s => by
    rw [Inside.singleton, ofStmt, List.mem_singleton]
    simp [ofStmt?, Stmt.parts, eq_comm]
  | .function _ _ body _ _ _ _ => by
    simp [Inside.singleton, ofStmt, ofStmt?, Stmt.parts, mem_ofStmts_iff body]
  | .classDef _ _ _ body _ _ => by
    simp [Inside.singleton, ofStmt, ofStmt?, Stmt.parts, mem_ofStmts_iff body]
  | .forLoop _ _ body orelse _ _ => by
    simp [Inside.singleton, ofStmt, ofStmt?, Stmt.parts, mem_ofStmts_iff body,
      mem_ofStmts_iff orelse]
  | .whileLoop _ body orelse _ => by
    simp [Inside.singleton, ofStmt, ofStmt?, Stmt.parts, mem_ofStmts_iff body,
      mem_ofStmts_iff orelse]
  | .ifStmt _ body orelse _ => by
    simp [Inside.singleton, ofStmt, ofStmt?, Stmt.parts, mem_ofStmts_iff body,
      mem_ofStmts_iff orelse]
  | .withStmt _ body _ _ => by
    simp [Inside.singleton, ofStmt, ofStmt?, Stmt.parts, mem_ofStmts_iff body]
  | .matchStmt _ cases _ => by
    simp [Inside.singleton, ofStmt, ofStmt?, Stmt.parts, mem_ofCases_iff cases]
  | .tryStmt body handlers orelse final _ _ => by
    simp [Inside.singleton, ofStmt, ofStmt?, Stmt.parts, mem_ofStmts_iff body,
      mem_ofHandlers_iff handlers, mem_ofStmts_iff orelse, mem_ofStmts_iff final]
  | .returnStmt .. | .delete .. | .augment .. | .raise .. | .assert .. | .importStmt ..
  | .importFrom .. | .global .. | .nonlocal .. | .expr .. | .pass .. | .breakStmt ..
  | .continueStmt .. => by
    simp [Inside.singleton, ofStmt, ofStmt?, Stmt.parts]

theorem mem_ofStmts_iff {a : Assignment} : ∀ ss : List Stmt, a ∈ ofStmts ss ↔ a.Inside ss
  | [] => by simp [ofStmts]
  | s :: ss => by
    rw [ofStmts, List.mem_append, Inside.cons, mem_ofStmt_iff s, mem_ofStmts_iff ss]

theorem mem_ofCases_iff {a : Assignment} :
    ∀ cs : List MatchCase, a ∈ ofCases cs ↔ a.Inside (cs.flatMap MatchCase.body)
  | [] => by simp [ofCases]
  | .mk _ _ body :: cs => by
    rw [ofCases, List.mem_append, List.flatMap_cons, Inside.append, mem_ofStmts_iff body,
      mem_ofCases_iff cs, MatchCase.body]

theorem mem_ofHandlers_iff {a : Assignment} :
    ∀ hs : List Handler, a ∈ ofHandlers hs ↔ a.Inside (hs.flatMap Handler.body)
  | [] => by simp [ofHandlers]
  | .mk _ _ body _ :: hs => by
    rw [ofHandlers, List.mem_append, List.flatMap_cons, Inside.append, mem_ofStmts_iff body,
      mem_ofHandlers_iff hs, Handler.body]

end

theorem mem_sorted_iff {a : Assignment} {ss : List Stmt} : a ∈ sorted ss ↔ a.Inside ss := by
  rw [sorted, List.mem_mergeSort, mem_ofStmts_iff]

theorem pairwise_sorted (ss : List Stmt) :
    (sorted ss).Pairwise fun a b => a.span.startsBy b.span := by
  refine List.pairwise_mergeSort ?_ ?_ _
  · exact fun a b c => Span.startsBy_trans
  · exact fun a b => Span.startsBy_total a.span b.span

/-- An attribute of the receiver is one of the targets of the assignment. -/
def Gives (receiver : Option String) (n : String) (a : Assignment) : Prop :=
  ∃ r s t, receiver = some r ∧ .member (.name r s) n t ∈ a.targets

end Assignment

theorem attributeOf?_eq_some {r n : String} {e : Expr} :
    attributeOf? r e = some n ↔ ∃ s t, e = .member (.name r s) n t := by
  constructor
  · intro h
    unfold attributeOf? at h
    split at h
    · split at h
      · obtain rfl := Option.some.inj h
        rename_i hid
        obtain rfl := eq_of_beq hid
        exact ⟨_, _, rfl⟩
      · cases h
    · cases h
  · rintro ⟨s, t, rfl⟩
    simp [attributeOf?]

section Bindings

variable {r n : String} {a : Assignment} {b c : FieldBinding} {bs cs : List FieldBinding}
  {known : List String}

/-- The bindings of an assignment are its targets that are attributes of the receiver. -/
theorem mem_fields_iff : b ∈ a.fields r ↔
    b.assignment = a ∧ ∃ s t, a.targets[b.index]? = some (.member (.name r s) b.name t) := by
  simp only [Assignment.fields, List.mem_filterMap, Prod.exists, List.mem_zipIdx_iff_getElem?,
    Option.map_eq_some_iff, attributeOf?_eq_some]
  constructor
  · rintro ⟨e, i, hi, n, ⟨s, t, rfl⟩, rfl⟩
    exact ⟨rfl, s, t, hi⟩
  · rintro ⟨rfl, s, t, hi⟩
    exact ⟨_, b.index, hi, b.name, ⟨s, t, rfl⟩, rfl⟩

theorem exists_fields_iff :
    (∃ b ∈ a.fields r, b.name = n) ↔ a.Gives (some r) n := by
  simp only [mem_fields_iff, Assignment.Gives, Option.some.injEq]
  constructor
  · rintro ⟨b, ⟨-, s, t, hi⟩, rfl⟩
    exact ⟨r, s, t, rfl, List.mem_of_getElem? hi⟩
  · rintro ⟨_, s, t, rfl, hmem⟩
    obtain ⟨i, hi⟩ := List.mem_iff_getElem?.mp hmem
    exact ⟨⟨n, i, a⟩, ⟨rfl, s, t, hi⟩, rfl⟩

theorem pairwise_fields (r : String) (a : Assignment) :
    (a.fields r).Pairwise fun b c => b.index < c.index := by
  have hindex : (a.targets.zipIdx).Pairwise fun x y => x.2 < y.2 := by
    rw [← List.pairwise_map (f := Prod.snd), List.zipIdx_map_snd]
    exact List.pairwise_lt_range'
  refine hindex.filterMap _ ?_
  rintro ⟨x, i⟩ ⟨y, j⟩ hij b hb c hc
  obtain ⟨-, -, rfl⟩ := Option.map_eq_some_iff.mp hb
  obtain ⟨-, -, rfl⟩ := Option.map_eq_some_iff.mp hc
  exact hij

theorem firstBindings_sublist : (firstBindings known bs).Sublist bs := by
  fun_induction firstBindings known bs with
  | case1 => exact .slnil
  | case2 known b bs h ih => exact ih.cons b
  | case3 known b bs h ih => exact ih.cons_cons b

theorem name_notMem_known (h : b ∈ firstBindings known bs) : b.name ∉ known := by
  fun_induction firstBindings known bs with
  | case1 => cases h
  | case2 known c bs hc ih => exact ih h
  | case3 known c bs hc ih =>
    rcases List.mem_cons.mp h with rfl | h
    · simpa using hc
    · exact fun hknown => ih h (List.mem_cons_of_mem _ hknown)

theorem mem_names_firstBindings :
    n ∈ (firstBindings known bs).map FieldBinding.name ↔
      n ∉ known ∧ n ∈ bs.map FieldBinding.name := by
  fun_induction firstBindings known bs with
  | case1 => simp
  | case2 known b bs hb ih =>
    have hb : b.name ∈ known := by simpa using hb
    rw [ih, List.map_cons, List.mem_cons]
    constructor
    · exact fun ⟨hn, hmem⟩ => ⟨hn, .inr hmem⟩
    · rintro ⟨hn, rfl | hmem⟩
      · exact absurd hb hn
      · exact ⟨hn, hmem⟩
  | case3 known b bs hb ih =>
    have hb : b.name ∉ known := by simpa using hb
    rw [List.map_cons, List.map_cons, List.mem_cons, List.mem_cons, ih, List.mem_cons]
    by_cases h : n = b.name <;> simp_all

theorem nodup_names_firstBindings : ((firstBindings known bs).map FieldBinding.name).Nodup := by
  fun_induction firstBindings known bs with
  | case1 => exact .nil
  | case2 known b bs hb ih => exact ih
  | case3 known b bs hb ih =>
    refine List.nodup_cons.mpr ⟨fun hmem => ?_, ih⟩
    exact (mem_names_firstBindings.mp hmem).1 List.mem_cons_self

/-- In a list in some order, the binding found of a name stands before all others of that name. -/
theorem firstBindings_first {R : FieldBinding → FieldBinding → Prop} (hrefl : ∀ b, R b b)
    (hbs : bs.Pairwise R) (hb : b ∈ firstBindings known bs) (hc : c ∈ bs)
    (hname : c.name = b.name) : R b c := by
  fun_induction firstBindings known bs with
  | case1 => cases hc
  | case2 known d bs hd ih =>
    rcases List.mem_cons.mp hc with rfl | hc
    · have hknown : c.name ∈ known := by simpa using hd
      exact absurd (hname ▸ hknown) (name_notMem_known hb)
    · exact ih (List.pairwise_cons.mp hbs).2 hb hc
  | case3 known d bs hd ih =>
    rcases List.mem_cons.mp hb with rfl | hb
    · rcases List.mem_cons.mp hc with rfl | hc
      · exact hrefl _
      · exact (List.pairwise_cons.mp hbs).1 c hc
    · rcases List.mem_cons.mp hc with rfl | hc
      · exact absurd (hname ▸ List.mem_cons_self) (name_notMem_known hb)
      · exact ih (List.pairwise_cons.mp hbs).2 hb hc

theorem firstBindings_congr {known' : List String} (h : ∀ n, n ∈ known ↔ n ∈ known') :
    firstBindings known bs = firstBindings known' bs := by
  induction bs generalizing known known' with
  | nil => rfl
  | cons b bs ih =>
    have hb : known.contains b.name = known'.contains b.name := by
      rw [Bool.eq_iff_iff, List.contains_iff_mem, List.contains_iff_mem, h]
    have hcons : ∀ n, n ∈ b.name :: known ↔ n ∈ b.name :: known' := by simp [h]
    rw [firstBindings, firstBindings, hb, ih h, ih hcons]

theorem firstBindings_append : firstBindings known (bs ++ cs) =
    firstBindings known bs ++ firstBindings (bs.map FieldBinding.name ++ known) cs := by
  fun_induction firstBindings known bs with
  | case1 => rfl
  | case2 known b bs hb ih =>
    have hmem : b.name ∈ known := by simpa using hb
    rw [List.cons_append, firstBindings, if_pos hb, ih]
    congr 1
    refine firstBindings_congr fun n => ?_
    by_cases hn : n = b.name <;> simp_all
  | case3 known b bs hb ih =>
    rw [List.cons_append, firstBindings, if_neg hb, ih, List.cons_append]
    congr 2
    exact firstBindings_congr fun n => by simp [or_left_comm]

/-- The bindings found stand in the order of their assignments, and in that of its targets where they
are of one. -/
theorem pairwise_firstBindings {as : List Assignment}
    (has : as.Pairwise fun a b => a.span.startsBy b.span) :
    (firstBindings known (as.flatMap (·.fields r))).Pairwise fun b c =>
      b.assignment.span.startsBy c.assignment.span ∧
        (b.assignment = c.assignment → b.index < c.index) := by
  induction as generalizing known with
  | nil => exact .nil
  | cons a as ih =>
    obtain ⟨ha, has⟩ := List.pairwise_cons.mp has
    have hown : ∀ {b}, b ∈ firstBindings known (a.fields r) → b.assignment = a := fun hb =>
      (mem_fields_iff.mp (firstBindings_sublist.subset hb)).1
    rw [List.flatMap_cons, firstBindings_append, List.pairwise_append]
    refine ⟨?_, ih has, ?_⟩
    · refine ((pairwise_fields r a).sublist firstBindings_sublist).imp_of_mem ?_
      intro b c hb hc hlt
      rw [hown hb, hown hc]
      exact ⟨a.span.startsBy_refl, fun _ => hlt⟩
    · intro b hb c hc
      have hnew := name_notMem_known hc
      obtain ⟨a', ha', hc⟩ := List.mem_flatMap.mp (firstBindings_sublist.subset hc)
      obtain ⟨hassign, htarget⟩ := mem_fields_iff.mp hc
      rw [hown hb, hassign]
      refine ⟨ha a' ha', ?_⟩
      -- a name of the same assignment would be known
      rintro rfl
      exact absurd (List.mem_append_left _ (List.mem_map_of_mem hc)) hnew

end Bindings

/-- The bindings of attributes of a receiver in some statements, the first of each name that is not
known. -/
structure FirstGiven (receiver : Option String) (known : List String) (ss : List Stmt)
    (bs : List FieldBinding) : Prop where
  found : ∀ n, n ∉ known →
    (n ∈ bs.map FieldBinding.name ↔ ∃ a : Assignment, a.Inside ss ∧ a.Gives receiver n)
  new : ∀ b ∈ bs, b.name ∉ known
  once : (bs.map FieldBinding.name).Nodup
  given : ∀ b ∈ bs, b.assignment.Inside ss ∧ ∃ r s t, receiver = some r ∧
    b.assignment.targets[b.index]? = some (.member (.name r s) b.name t)
  first : ∀ b ∈ bs, ∀ a : Assignment, a.Inside ss → a.Gives receiver b.name →
    b.assignment.span.startsBy a.span
  ordered : bs.Pairwise fun b c => b.assignment.span.startsBy c.assignment.span ∧
    (b.assignment = c.assignment → b.index < c.index)

theorem firstGiven_nothing (known : List String) (ss : List Stmt) :
    FirstGiven none known ss [] where
  found _ _ := by simp [Assignment.Gives]
  new := by simp
  once := .nil
  given := by simp
  first := by simp
  ordered := .nil

theorem firstGiven_firstBindings (r : String) (known : List String) (ss : List Stmt) :
    FirstGiven (some r) known ss
      (firstBindings known ((Assignment.sorted ss).flatMap (·.fields r))) := by
  have hmem : ∀ {b : FieldBinding}, b ∈ (Assignment.sorted ss).flatMap (·.fields r) ↔
      b.assignment.Inside ss ∧ b ∈ b.assignment.fields r := by
    intro b
    rw [List.mem_flatMap]
    constructor
    · rintro ⟨a, ha, hb⟩
      obtain rfl := (mem_fields_iff.mp hb).1
      exact ⟨Assignment.mem_sorted_iff.mp ha, hb⟩
    · rintro ⟨ha, hb⟩
      exact ⟨_, Assignment.mem_sorted_iff.mpr ha, hb⟩
  refine ⟨?found, fun b hb => name_notMem_known hb, nodup_names_firstBindings, ?given, ?first,
    pairwise_firstBindings (Assignment.pairwise_sorted ss)⟩
  case found =>
    intro n hn
    rw [mem_names_firstBindings, List.mem_map]
    constructor
    · rintro ⟨-, b, hb, hname⟩
      obtain ⟨hinside, hb⟩ := hmem.mp hb
      exact ⟨_, hinside, exists_fields_iff.mp ⟨b, hb, hname⟩⟩
    · rintro ⟨a, hinside, hgives⟩
      obtain ⟨b, hb, hname⟩ := exists_fields_iff.mpr hgives
      obtain rfl := (mem_fields_iff.mp hb).1
      exact ⟨hn, b, hmem.mpr ⟨hinside, hb⟩, hname⟩
  case given =>
    intro b hb
    obtain ⟨hinside, hb⟩ := hmem.mp (firstBindings_sublist.subset hb)
    obtain ⟨-, s, t, htarget⟩ := mem_fields_iff.mp hb
    exact ⟨hinside, r, s, t, rfl, htarget⟩
  case first =>
    intro b hb a hinside hgives
    obtain ⟨c, hc, hname⟩ := exists_fields_iff.mpr hgives
    obtain rfl := (mem_fields_iff.mp hc).1
    have hordered : ((Assignment.sorted ss).flatMap (·.fields r)).Pairwise
        fun b c => b.assignment.span.startsBy c.assignment.span := by
      refine List.pairwise_flatMap.mpr ⟨fun a _ => ?_, (Assignment.pairwise_sorted ss).imp ?_⟩
      · exact (pairwise_fields r a).imp_of_mem fun hx hy _ => by
          rw [(mem_fields_iff.mp hx).1, (mem_fields_iff.mp hy).1]
          exact a.span.startsBy_refl
      · intro a a' haa' x hx y hy
        rw [(mem_fields_iff.mp hx).1, (mem_fields_iff.mp hy).1]
        exact haa'
    exact firstBindings_first (R := fun b c => b.assignment.span.startsBy c.assignment.span)
      (fun b => b.assignment.span.startsBy_refl) hordered hb (hmem.mpr ⟨hinside, hc⟩) hname

/-- A field is declared with the annotation and the value of its assignment. -/
def FieldOf (r : Reader) (owner : Span) (b : FieldBinding) (n : Node) : Prop :=
  ∃ typing, r.typing? b.assignment.typing = .ok typing ∧
    n = .property b.name typing (b.assignment.value.map ofExpr) ⟨owner, b.index⟩ b.assignment.span

/-- The fields of an instance are the attributes of the first parameter that is not
positional-only. -/
theorem exists_of_instanceFields {r : Reader} {owner : Span} {declared : List String}
    {ps : Parameters} {body : List Stmt} {fields : List Node}
    (h : instanceFields r owner declared ps body = .ok fields) :
    ∃ bs, FirstGiven (ps.args.head?.map Param.name) declared body bs ∧
      List.Forall₂ (FieldOf r owner) bs fields := by
  unfold instanceFields at h
  split at h
  · rename_i hnone
    obtain rfl := pure_eq_ok.mp h
    rw [hnone]
    exact ⟨[], firstGiven_nothing _ _, .nil⟩
  · rename_i receiver hsome
    rw [hsome]
    refine ⟨_, firstGiven_firstBindings receiver.name declared body, ?_⟩
    refine (mapM_eq_ok_iff.mp h).imp fun b n hn => ?_
    obtain ⟨typing, htyping, hn⟩ := bind_eq_ok.mp hn
    exact ⟨typing, htyping, (pure_eq_ok.mp hn).symm⟩

/-- What the members of a class are besides the constructor and the fields that it gives: a property is
of a name that the class binds itself. -/
def Beside (declared : List String) : Node → Prop
  | .property n _ _ _ _ => n ∈ declared
  | .method head _ _ _ _ => head.isConstructor = false
  | _ => True

theorem Beside.mono {names names' : List String} (hsub : names ⊆ names') {n : Node}
    (h : Beside names n) : Beside names' n := by
  cases n <;> first | exact hsub h | exact h

theorem beside_of_plain {names : List String} {n : Node} (h : n.Throughout Node.IsPlain) :
    Beside names n := by
  have hroot := (Node.Throughout.iff.mp h).1
  cases n <;> first | exact hroot.elim | trivial

theorem beside_of_method {names : List String} {r : Reader} {inClass : Bool} {f : Function}
    {body : Except Failure Node} {n : Node} (h : method r inClass false f body = .ok n) :
    Beside names n := by
  obtain ⟨_, _, _, _, _, -, -, -, -, rfl⟩ := method_parts h
  rfl

theorem beside_of_ofStmt {names : List String} {r : Reader} {s : Stmt} {n : Node}
    (h : ofStmt r s = .ok n) : Beside names n := by
  cases s with
  | function =>
    rw [ofStmt] at h
    exact beside_of_method h
  | classDef =>
    obtain ⟨_, -, rfl⟩ := ofStmt_classDef h
    trivial
  | ifStmt =>
    obtain ⟨_, _, rfl⟩ := ofStmt_ifStmt h
    trivial
  | matchStmt =>
    obtain ⟨_, -, rfl⟩ := ofStmt_matchStmt h
    trivial
  | forLoop =>
    obtain ⟨_, _, -, -, rfl⟩ := ofStmt_forLoop h
    trivial
  | whileLoop =>
    obtain ⟨_, _, -, -, rfl⟩ := ofStmt_whileLoop h
    trivial
  | withStmt =>
    obtain ⟨_, -, rfl⟩ := ofStmt_withStmt h
    trivial
  | tryStmt =>
    obtain ⟨_, _, _, _, -, -, -, -, rfl⟩ := ofStmt_tryStmt h
    trivial
  | _ => exact beside_of_plain (plain_of_isSimple rfl h)

theorem beside_of_declarations {r : Reader} {owner : Span} {s : Stmt}
    {ds : Except Failure (List Node)} {ns : List Node} (hs : declarations? r owner s = some ds)
    (h : ds = .ok ns) : ∀ n ∈ ns, Beside (boundNames [s]) n := by
  unfold declarations? at hs
  split at hs
  · obtain rfl := Option.some.inj hs
    obtain ⟨a, -, hn⟩ := bind_eq_ok.mp h
    obtain rfl := pure_eq_ok.mp hn
    intro n hn
    obtain rfl := List.mem_singleton.mp hn
    exact List.mem_cons_self
  · rename_i targets value s
    dsimp only at hs
    split at hs
    · cases hs
    · obtain rfl := Option.some.inj hs
      obtain rfl := pure_eq_ok.mp h
      intro n hn
      obtain ⟨⟨id, i⟩, hid, rfl⟩ := List.mem_map.mp hn
      obtain ⟨⟨e, j⟩, he, hid⟩ := List.mem_filterMap.mp hid
      cases e <;> cases hid
      have he := List.mem_of_getElem? (List.mem_zipIdx_iff_getElem?.mp he)
      exact List.mem_append_left _ (List.mem_filterMap.mpr ⟨_, he, rfl⟩)
  · cases hs

theorem boundNames_cons (s : Stmt) (ss : List Stmt) :
    boundNames (s :: ss) = boundNames [s] ++ boundNames ss := by
  cases s <;> try rfl
  case annotate target _ _ _ => cases target <;> rfl
  case assign => simp [boundNames]


theorem boundNames_append (ss ts : List Stmt) :
    boundNames (ss ++ ts) = boundNames ss ++ boundNames ts := by
  induction ss with
  | nil => rfl
  | cons s ss ih =>
    rw [List.cons_append, boundNames_cons, ih, boundNames_cons s ss, List.append_assoc]

/-- A member of a class that is no initializer that counts gives no fields. -/
theorem exists_beside_of_ofMembers_cons {r : Reader} {owner : Span} {declared : List String}
    {hasInit : Bool} {x : Stmt} {ss : List Stmt} {ns : List Node}
    (hx : hasInit = false → ∀ ps body ds returns isAsync s,
      x ≠ .function "__init__" ps body ds returns isAsync s)
    (h : ofMembers r owner declared hasInit (x :: ss) = .ok ns) :
    ∃ ms rest, ns = ms ++ rest ∧ (∀ m ∈ ms, Beside (boundNames [x]) m) ∧
      ofMembers r owner declared hasInit ss = .ok rest := by
  by_cases hfunction : ∀ name ps body ds returns isAsync s,
      x ≠ .function name ps body ds returns isAsync s
  · obtain ⟨ms, rest, rfl, hms | ⟨n, hn, rfl⟩, hrest⟩ := ofMembers_cons hfunction h
    · exact ⟨ms, rest, rfl, beside_of_declarations hms rfl, hrest⟩
    · exact ⟨[n], rest, rfl, by simpa using beside_of_ofStmt hn, hrest⟩
  · push Not at hfunction
    obtain ⟨name, ps, body, ds, returns, isAsync, s, rfl⟩ := hfunction
    obtain ⟨ms, rest, hasInit', rfl, hread, hrest⟩ := exists_of_ofMembers_function h
    cases hread with
    | method _ hm => exact ⟨_, rest, rfl, by simpa using beside_of_method hm, hrest⟩
    | further => exact ⟨_, rest, rfl, by simp [Beside], hrest⟩
    | constructor hname =>
      obtain rfl : name = "__init__" := hname
      exact absurd rfl (hx rfl ps body ds returns isAsync s)

/-- Members of a class among which there is no initializer that counts give no fields. -/
theorem exists_of_ofMembers_append {r : Reader} {owner : Span} {declared : List String}
    {hasInit : Bool} {pre ss : List Stmt} {ns : List Node}
    (hpre : hasInit = false → ∀ ps body ds returns isAsync s,
      .function "__init__" ps body ds returns isAsync s ∉ pre)
    (h : ofMembers r owner declared hasInit (pre ++ ss) = .ok ns) :
    ∃ ms rest, ns = ms ++ rest ∧ (∀ m ∈ ms, Beside (boundNames pre) m) ∧
      ofMembers r owner declared hasInit ss = .ok rest := by
  induction pre generalizing ns with
  | nil => exact ⟨[], ns, rfl, by simp, h⟩
  | cons x pre ih =>
    simp only [List.mem_cons, not_or, forall_and] at hpre
    obtain ⟨ms, rest, rfl, hms, hrest⟩ := exists_beside_of_ofMembers_cons
      (fun hinit ps body ds returns isAsync s => Ne.symm (hpre.1 hinit ps body ds returns isAsync s)) h
    obtain ⟨ms', rest, rfl, hms', hrest⟩ := ih hpre.2 hrest
    refine ⟨ms ++ ms', rest, (List.append_assoc ..).symm, ?_, hrest⟩
    rw [boundNames_cons]
    intro m hm
    rcases List.mem_append.mp hm with hm | hm
    · exact (hms m hm).mono (List.subset_append_left _ _)
    · exact (hms' m hm).mono (List.subset_append_right _ _)

/-- The first initializer of a class is read as its constructor, after the fields that it gives. -/
theorem exists_of_ofMembers_init {r : Reader} {owner : Span} {declared : List String}
    {ps : Parameters} {body : List Stmt} {ds : List Expr} {returns : Option Expr} {isAsync : Bool}
    {s : Span} {ss : List Stmt} {ns : List Node} {modifiers : List String} {p : Source.Param}
    (hp : ps.positional.head? = some p) (hds : ds.mapM decoratorName = .ok modifiers)
    (hstatic : "staticmethod" ∉ modifiers)
    (h : ofMembers r owner declared false
      (.function "__init__" ps body ds returns isAsync s :: ss) = .ok ns) :
    ∃ fields head params block ret rest, ns = fields ++ .method head params block ret s :: rest ∧
      instanceFields r owner declared ps body = .ok fields ∧ head.isConstructor ∧
      head.receiver = some p.name ∧ ofMembers r owner declared true ss = .ok rest := by
  obtain ⟨ms, rest, hasInit', rfl, hread, hrest⟩ := exists_of_ofMembers_function h
  cases hread with
  | method hname => exact absurd rfl hname
  | @constructor fields m _ hfields hm =>
    obtain ⟨modifiers', params, block, ret, _, hds', -, -, -, rfl⟩ := method_parts hm
    obtain rfl := Except.ok.inj (hds.symm.trans hds')
    exact ⟨fields, _, params, block, ret, rest, (List.append_cons ..).symm, hfields, rfl,
      by simp [hstatic, hp], hrest⟩

/-- The constructor of a class is its first initializer, with its first parameter for the receiver. The
attributes that it assigns of its first parameter that is not positional-only are declared right before
it, each name once that the class does not bind itself, and no other property has such a name. These are
the attributes of the receiver where no parameter is positional-only. In general, a name is declared just
where it is assigned of the receiver if it is assigned of both parameters or of neither, and only then. -/
theorem fields_of_first_ordinary {r : Reader} {name : String} {bases : List Expr}
    {ks : List Keyword} {pre post body : List Stmt} {ps : Parameters} {ds cds : List Expr}
    {returns : Option Expr} {isAsync : Bool} {s cs : Span} {n : Node} {modifiers : List String}
    {p : Source.Param}
    (hpre : ∀ ps body ds returns isAsync s,
      .function "__init__" ps body ds returns isAsync s ∉ pre)
    (hp : ps.positional.head? = some p) (hds : ds.mapM decoratorName = .ok modifiers)
    (hstatic : "staticmethod" ∉ modifiers)
    (h : ofStmt r (.classDef name bases ks
      (pre ++ .function "__init__" ps body ds returns isAsync s :: post) cds cs) = .ok n) :
    ∃ before bs fields head params block ret after,
      n = .classDecl name (before ++ (fields ++ .method head params block ret s :: after)) cs ∧
      head.isConstructor ∧ head.receiver = some p.name ∧
      (∀ m ∈ before ++ after, Beside (boundNames pre ++ boundNames post) m) ∧
      List.Forall₂ (FieldOf r cs) bs fields ∧
      FirstGiven (ps.args.head?.map Param.name) (boundNames pre ++ boundNames post) body bs ∧
      (ps.positional = ps.args →
        FirstGiven (some p.name) (boundNames pre ++ boundNames post) body bs) ∧
      ∀ x, x ∉ boundNames pre ++ boundNames post →
        ((x ∈ bs.map FieldBinding.name ↔ ∃ a : Assignment, a.Inside body ∧ a.Gives p.name x) ↔
          ((∃ a : Assignment, a.Inside body ∧ a.Gives p.name x) ↔
            ∃ a : Assignment, a.Inside body ∧ a.Gives (ps.args.head?.map Param.name) x)) := by
  rw [ofStmt] at h
  obtain ⟨items, hitems, h⟩ := bind_eq_ok.mp h
  obtain rfl := pure_eq_ok.mp h
  have hnames : boundNames (pre ++ .function "__init__" ps body ds returns isAsync s :: post) =
      boundNames pre ++ boundNames post := boundNames_append _ _
  rw [hnames] at hitems
  obtain ⟨before, rest, rfl, hbefore, hrest⟩ := exists_of_ofMembers_append (fun _ => hpre) hitems
  obtain ⟨fields, head, params, block, ret, after, rfl, hfields, hinit, hreceiver, hafter⟩ :=
    exists_of_ofMembers_init hp hds hstatic hrest
  obtain ⟨bs, hfirst, hof⟩ := exists_of_instanceFields hfields
  -- there are no members besides those after the constructor
  rw [← List.append_nil post] at hafter
  obtain ⟨after, rest, rfl, hbeside, hnil⟩ := exists_of_ofMembers_append Bool.noConfusion hafter
  rw [ofMembers] at hnil
  obtain rfl := pure_eq_ok.mp hnil
  refine ⟨before, bs, fields, head, params, block, ret, after, by rw [List.append_nil], hinit,
    hreceiver, ?beside, hof, hfirst, ?ordinary, ?names⟩
  case beside =>
    intro m hm
    rcases List.mem_append.mp hm with hm | hm
    · exact (hbefore m hm).mono (List.subset_append_left _ _)
    · exact (hbeside m hm).mono (List.subset_append_right _ _)
  case ordinary =>
    intro hargs
    rwa [← hargs, hp] at hfirst
  case names =>
    intro x hx
    rw [hfirst.found x hx]
    exact iff_comm

/-! A class whose initializer has a positional-only receiver, and assigns an attribute of it and one of the
parameter that follows. -/
namespace Slashed

def param (name : String) (column : Nat) : Source.Param :=
  .mk name none none ⟨2, column, 2, column + name.length⟩

def params : Parameters := .mk [param "self" 17] [param "part" 26] none [] none

def assign (target name : String) (value : Int) (line length : Nat) : Stmt :=
  .assign [.member (.name target ⟨line, 8, line, 12⟩) name ⟨line, 8, line, 13 + length⟩]
    (.constant (.number (.int value)) ⟨line, 16 + length, line, 17 + length⟩)
    ⟨line, 8, line, 17 + length⟩

def body : List Stmt := [assign "self" "limit" 1 3 5, assign "part" "size" 2 4 4]

def gate : Stmt :=
  .classDef "Gate" [] [] [.function "__init__" params body [] none false ⟨2, 4, 4, 21⟩] []
    ⟨1, 0, 4, 21⟩

def size : Node :=
  .property "size" none (some (.numeric (.int 2) ⟨4, 20, 4, 21⟩)) ⟨⟨1, 0, 4, 21⟩, 0⟩ ⟨4, 8, 4, 21⟩

def constructor : Node :=
  .method ⟨true, "__init__", none, [], false, some "self"⟩
    [.param "part" none none false ⟨2, 26, 2, 30⟩]
    (.block [
      .compound "Assign" [.memberAccess (.identifier "self" ⟨3, 8, 3, 12⟩) "limit" ⟨3, 8, 3, 18⟩,
        .numeric (.int 1) ⟨3, 21, 3, 22⟩] ⟨3, 8, 3, 22⟩,
      .compound "Assign" [.memberAccess (.identifier "part" ⟨4, 8, 4, 12⟩) "size" ⟨4, 8, 4, 17⟩,
        .numeric (.int 2) ⟨4, 20, 4, 21⟩] ⟨4, 8, 4, 21⟩] ⟨3, 8, 3, 22⟩)
    none ⟨2, 4, 4, 21⟩

def outline : Node := .classDecl "Gate" [size, constructor] ⟨1, 0, 4, 21⟩

theorem sorted_body : Assignment.sorted body = Assignment.ofStmts body := by
  refine List.mergeSort_of_pairwise ?_
  simp [body, assign, Assignment.ofStmts, Assignment.ofStmt, Span.startsBy]

theorem instanceFields_body (r : Reader) :
    instanceFields r ⟨1, 0, 4, 21⟩ [] params body = .ok [size] := by
  simp only [instanceFields, params, Parameters.args, List.head?_cons, sorted_body]
  rfl

theorem ofStmt_gate (r : Reader) : ofStmt r gate = .ok outline := by
  rw [gate, ofStmt, ofMembers]
  simp only [bne_self_eq_false, Bool.false_eq_true, if_false, boundNames, instanceFields_body]
  rfl

theorem limit_assigned : ∃ a : Assignment, a.Inside body ∧ a.Gives "self" "limit" :=
  ⟨_, ⟨_, .here List.mem_cons_self, rfl⟩, "self", _, _, rfl, List.mem_cons_self⟩

theorem size_assigned : ∃ a : Assignment, a.Inside body ∧ a.Gives "part" "size" :=
  ⟨_, ⟨_, .here (List.mem_cons_of_mem _ List.mem_cons_self), rfl⟩, "part", _, _, rfl,
    List.mem_cons_self⟩

theorem not_static : "staticmethod" ∉ ([] : List String) := by
  simp

end Slashed

open scoped Interpreter in
/-- The attribute of the parameter after the receiver is the one that is found. -/
theorem fields_of_first_ordinary_slashed :
    ofStmt (Reader.ofSource "") Slashed.gate = .ok Slashed.outline ∧
      ∃ bs, FirstGiven (some "part") [] Slashed.body bs ∧
        "size" ∈ bs.map FieldBinding.name := by
  have h := Slashed.ofStmt_gate (Reader.ofSource "")
  have hpre : ∀ ps body ds returns isAsync s,
      .function "__init__" ps body ds returns isAsync s ∉ ([] : List Stmt) := by simp
  obtain ⟨before, bs, fields, head, params, block, ret, after, -, -, -, -, -, hfirst, -⟩ :=
    fields_of_first_ordinary hpre rfl rfl Slashed.not_static h
  exact ⟨h, bs, hfirst, (hfirst.found "size" (by simp [boundNames])).mpr Slashed.size_assigned⟩

open scoped Interpreter in
/-- A receiver that is positional-only is given no fields. -/
theorem fields_missed_of_positional_only :
    ¬ ∀ (r : Reader) (name : String) (bases : List Expr) (ks : List Keyword)
      (pre post body : List Stmt) (ps : Parameters) (ds cds : List Expr) (returns : Option Expr)
      (isAsync : Bool) (s cs : Span) (items : List Node) (modifiers : List String)
      (p : Source.Param),
      (∀ ps body ds returns isAsync s,
        .function "__init__" ps body ds returns isAsync s ∉ pre) →
      ps.positional.head? = some p → ds.mapM decoratorName = .ok modifiers →
      "staticmethod" ∉ modifiers →
      ofStmt r (.classDef name bases ks
        (pre ++ .function "__init__" ps body ds returns isAsync s :: post) cds cs) =
          .ok (.classDecl name items cs) →
      ∀ x, x ∉ boundNames pre ++ boundNames post →
        ((∃ a v site s, .property x a v site s ∈ items) ↔
          ∃ a : Assignment, a.Inside body ∧ a.Gives p.name x) := by
  intro h
  obtain ⟨a, v, site, s, hmem⟩ := (h (Reader.ofSource "") "Gate" [] [] [] [] Slashed.body
    Slashed.params [] [] none false ⟨2, 4, 4, 21⟩ ⟨1, 0, 4, 21⟩ _ [] _ (by simp) rfl rfl
    Slashed.not_static (Slashed.ofStmt_gate _) "limit" (by simp [boundNames])).mpr
      Slashed.limit_assigned
  simp [Slashed.size, Slashed.constructor] at hmem

end Outline
end BranchCover
