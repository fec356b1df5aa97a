import BranchCover.Proofs.CallValues

/-! What is known of a node, with or without its reference: however it became known, the sort, the type
and whether it is a literal agree. A field or parameter that is declared an array is known as one, unless
nothing else is declared of it and what it refers to is no array. -/
namespace BranchCover
namespace Property

/-- The declaration that a node refers to, if references are followed. -/
def followed? (s : Scope) (follow : Bool) (n : Node) : Option Node :=
  if follow then referenced? s n else none

theorem followed?_of_reference {s : Scope} {n init : Node} {name : String}
    (hinit : initializer? n = some init) (hname : init.reference? = some name) :
    followed? s true n = s.lookup name (some n) := by
  simp [followed?, referenced?, hinit, hname]

/-- What the first place declares under a name is what the name refers to. -/
theorem lookup_of_find {s : Scope} {root d : Node} {roots : List Node} {name : String}
    {exclude : Option Node} (hroots : s.roots = root :: roots)
    (hd : (root.findAll [.property, .param]).find? (fun d =>
      !exclude.any (d.isSameDeclaration ·) && d.name? == some name) = some d) :
    s.lookup name exclude = some d := by
  rw [Scope.lookup, hroots, List.findSome?_cons, hd]

/-- What is known of a node, where a reference is followed or not. -/
def resolve (s : Scope) (follow : Bool) (n : Node) : Property :=
  if follow then ofNode s n else ofNodeAlone n

theorem resolve_eq (s : Scope) (follow : Bool) (n : Node) :
    resolve s follow n =
      (literal? n).getD (declared n ((followed? s follow n).map ofNodeAlone)) := by
  cases follow <;> rfl

/-- What a declaration says by its annotation alone. -/
def own (n : Node) : Property :=
  match typing? n with
  | some a => (unknown n.name? (some n)).annotated a
  | none => unknown n.name? (some n)

/-- What is taken over from a literal leaves nothing of an annotation. -/
theorem adopt_annotated {r : Property} (h : r.isLiteral = true) (p : Property) (a : Node) :
    (p.annotated a).adopt r = p.adopt r := by
  fun_induction annotated p a with
  | case1 element s q ih => exact ih
  | case2 | case5 => rfl
  | case3 | case4 => simp [adopt, h]

theorem declared_none (n : Node) : declared n none = own n := by
  unfold declared own
  cases typing? n <;> rfl

/-- A declaration takes over what is known of a literal, and otherwise what it does not say itself. -/
theorem declared_some (n : Node) (r : Property) :
    declared n (some r) = if r.isLiteral || (own n).isUnknown then (own n).adopt r else own n := by
  unfold declared own
  cases hr : r.isLiteral with
  | true => cases typing? n <;> simp [adopt_annotated hr, hr]
  | false => cases typing? n <;> simp [hr, unknown, isUnknown]

theorem annotated_name (p : Property) (n : Node) : (p.annotated n).name = p.name := by
  fun_induction Property.annotated p n with
  | case1 _ _ _ ih => exact ih
  | case2 | case3 | case4 | case5 => rfl

theorem own_name (n : Node) : (own n).name = n.name? := by
  unfold own
  split
  · exact annotated_name _ _
  · rfl

theorem declared_name (n : Node) (referenced : Option Property) :
    (declared n referenced).name = n.name? := by
  cases referenced with
  | none => rw [declared_none, own_name]
  | some r =>
    rw [declared_some]
    split
    · exact own_name n
    · exact own_name n

theorem ofNode_name (s : Scope) (n : Node) : (ofNode s n).name = n.name? := by
  unfold ofNode
  cases hn : literal? n with
  | none => exact declared_name n _
  | some p =>
    obtain ⟨node, c, rfl, -, -⟩ := literal?_eq_some hn
    rfl

/-! Sorts and types. -/

/-- A literal is of a primitive sort and no array, and a type is known by name for objects alone. -/
structure WellFormed (p : Property) : Prop where
  literal : p.isLiteral → (∃ c, p.category = some c ∧ c ≠ .object) ∧ p.isArray = false ∧
    p.typeName = none
  typed : p.category = some .object ↔ p.typeName.isSome

theorem ne_object_of_primitive {n : Node} {c : Category} (h : primitive? n = some c) :
    c ≠ .object := by
  unfold primitive? at h
  split at h <;> cases h <;> decide

theorem wellFormed_literal {node : Node} {c : Category} (h : primitive? node = some c)
    (name : Option String) : (literal name node c).WellFormed where
  literal _ := ⟨⟨c, rfl, ne_object_of_primitive h⟩, rfl, rfl⟩
  typed := by simpa [Property.literal] using ne_object_of_primitive h

theorem wellFormed_unknown (name : Option String) (node : Option Node) :
    (unknown name node).WellFormed where
  literal := by simp [unknown]
  typed := by simp [unknown]

/-- By induction on the annotation: an array is typed as its element is. -/
theorem wellFormed_annotated (name : Option String) (node : Option Node) (a : Node) :
    ((unknown name node).annotated a).WellFormed where
  literal h := by
    rw [annotated_isLiteral] at h
    cases h
  typed := by
    fun_induction annotated (unknown name node) a with
    | case1 element s q ih => exact ih
    | case2 => exact (wellFormed_unknown name node).typed
    | case3 h s =>
      have hobject : primitive? (.hint h s) ≠ some .object := fun hc => ne_object_of_primitive hc rfl
      simpa [unknown] using hobject
    | case4 => simp
    | case5 => exact (wellFormed_unknown name node).typed

theorem wellFormed_own (n : Node) : (own n).WellFormed := by
  unfold own
  split
  · exact wellFormed_annotated _ _ _
  · exact wellFormed_unknown _ _

theorem WellFormed.adopt {r : Property} (h : r.WellFormed) (p : Property) :
    (p.adopt r).WellFormed :=
  ⟨h.literal, h.typed⟩

theorem wellFormed_declared (n : Node) {referenced : Option Property}
    (h : ∀ r ∈ referenced, r.WellFormed) : (declared n referenced).WellFormed := by
  cases referenced with
  | none =>
    rw [declared_none]
    exact wellFormed_own n
  | some r =>
    rw [declared_some]
    split
    · exact (h r rfl).adopt _
    · exact wellFormed_own n

theorem wellFormed_getD (n : Node) {referenced : Option Property}
    (h : ∀ r ∈ referenced, r.WellFormed) :
    ((literal? n).getD (declared n referenced)).WellFormed := by
  cases hn : literal? n with
  | none => exact wellFormed_declared n h
  | some p =>
    obtain ⟨node, c, rfl, hc, -⟩ := literal?_eq_some hn
    exact wellFormed_literal hc _

theorem wellFormed_ofNodeAlone (n : Node) : (ofNodeAlone n).WellFormed :=
  wellFormed_getD n (by simp)

theorem wellFormed_ofNode (s : Scope) (n : Node) : (ofNode s n).WellFormed := by
  apply wellFormed_getD
  intro r hr
  obtain ⟨d, -, rfl⟩ := Option.map_eq_some_iff.mp hr
  exact wellFormed_ofNodeAlone d

theorem wellFormed_resolve (s : Scope) (follow : Bool) (n : Node) :
    (resolve s follow n).WellFormed := by
  cases follow with
  | false => exact wellFormed_ofNodeAlone n
  | true => exact wellFormed_ofNode s n

/-! Declared arrays. -/

/-- An annotation tells a sort or a type, of the elements where it is an array. -/
def tells : Node → Bool
  | .arrayType element _ => tells element
  | .hint h _ => h != .any
  | .typeRef _ _ => true
  | _ => false

theorem isUnknown_annotated (name : Option String) (node : Option Node) (a : Node) :
    ((unknown name node).annotated a).isUnknown = !tells a := by
  fun_induction annotated (unknown name node) a with
  | case1 element s q ih => exact ih
  | case2 => rfl
  | case3 h => cases h <;> rfl
  | case4 => rfl
  | case5 a harray hany hhint htype =>
    rw [tells]
    · rfl
    · exact harray
    · exact hhint
    · exact htype

variable {n element : Node} {span : Span}

theorem isArray_declared_iff (ha : typing? n = some (.arrayType element span))
    {referenced : Option Property} (hr : ∀ r ∈ referenced, r.isLiteral = false) :
    (declared n referenced).isArray = true ↔
      tells element = true ∨ ∀ r ∈ referenced, r.isArray = true := by
  have hown : own n = (unknown n.name? (some n)).annotated (.arrayType element span) := by
    rw [own, ha]
  have harray : (own n).isArray = true := by
    rw [hown]
    rfl
  have hunknown : (own n).isUnknown = !tells element := by
    rw [hown, isUnknown_annotated, tells]
  cases referenced with
  | none => simp [declared_none, harray]
  | some r =>
    rw [declared_some, hr r rfl, hunknown]
    cases tells element <;> simp [harray, adopt]

theorem isLiteral_resolve_of_primitive {c : Category} (h : primitive? n = some c) (s : Scope)
    (follow : Bool) : (resolve s follow n).isLiteral = true := by
  have hliteral : literal? n = some (literal n.name? n c) := by simp [literal?, h, literal, unknown]
  rw [resolve_eq, hliteral]
  rfl

theorem primitive?_of_typing {a : Node} (h : typing? n = some a) : primitive? n = none := by
  cases n <;> first | rfl | cases h

/-- A field or parameter that is declared an array, and is no literal, is known as an array if and only
if a sort of elements is declared too, or the declaration that it refers to, if any, is an array. -/
theorem isArray_resolve_iff (s : Scope) (follow : Bool)
    (ha : typing? n = some (.arrayType element span))
    (hinit : ∀ init, initializer? n = some init → (resolve s follow init).isLiteral = false)
    (hdecl : ∀ d, followed? s follow n = some d → (ofNodeAlone d).isLiteral = false) :
    (resolve s follow n).isArray = true ↔
      tells element = true ∨ ∀ d, followed? s follow n = some d → (ofNodeAlone d).isArray = true := by
  have hliteral : literal? n = none := by
    rw [literal?, primitive?_of_typing ha]
    cases hn : initializer? n with
    | none => rfl
    | some init =>
      cases hc : primitive? init with
      | none => simp [hc]
      | some c =>
        have hfalse := hinit init hn
        rw [isLiteral_resolve_of_primitive hc] at hfalse
        cases hfalse
  rw [resolve_eq, hliteral, Option.getD_none, isArray_declared_iff ha]
  · simp
  · simpa using hdecl

/-! A shop whose field is declared an array and set from a parameter of which nothing is declared. -/

namespace Shop

def elementType (h : Hint) : Node := .hint h ⟨3, 19, 3, 23⟩

def given : Node := .param "tags" none none false ⟨2, 23, 2, 27⟩

def field (h : Hint) : Node :=
  .property "tags" (some (.arrayType (elementType h) ⟨3, 19, 3, 23⟩))
    (some (.identifier "tags" ⟨3, 26, 3, 30⟩)) ⟨⟨1, 0, 3, 30⟩, 0⟩ ⟨3, 8, 3, 30⟩

def shop (h : Hint) : Node :=
  .classDecl "Shop"
    [field h, .method ⟨true, "__init__", none, [], false, some "self"⟩ [given]
      (.block [] ⟨3, 8, 3, 30⟩) none ⟨2, 4, 3, 30⟩] ⟨1, 0, 3, 30⟩

def scope (h : Hint) : Scope :=
  ⟨some (shop h), some (.module [shop h])⟩

theorem findAll_shop (h : Hint) : (shop h).findAll [.property, .param] = [field h, given] := by
  simp [shop, field, elementType, given, Node.findAll_eq, Node.isOf, Node.kind, NodeKind.covers,
    Node.children]

theorem followed?_field (h : Hint) : followed? (scope h) true (field h) = some given := by
  rw [followed?_of_reference rfl rfl]
  apply lookup_of_find rfl
  rw [findAll_shop]
  rfl

theorem initializer_not_literal (h : Hint) : ∀ init, initializer? (field h) = some init →
    (resolve (scope h) true init).isLiteral = false := by
  intro init hinit
  obtain rfl := Option.some.inj hinit
  rfl

theorem given_not_literal (h : Hint) : ∀ d, followed? (scope h) true (field h) = some d →
    (ofNodeAlone d).isLiteral = false := by
  intro d hd
  obtain rfl := Option.some.inj ((followed?_field h).symm.trans hd)
  rfl

end Shop

/-- A field that is declared an array of numbers is one. -/
theorem isArray_resolve_iff_shop :
    (resolve (Shop.scope .number) true (Shop.field .number)).isArray = true :=
  (isArray_resolve_iff (Shop.scope .number) true rfl (Shop.initializer_not_literal .number)
    (Shop.given_not_literal .number)).mpr (.inl rfl)

/-- An array of which no more is declared is lost to a parameter that is not known as one. -/
theorem array_lost_for_reference :
    ¬ ∀ (s : Scope) (follow : Bool) (n element : Node) (span : Span),
      typing? n = some (.arrayType element span) →
      (∀ init, initializer? n = some init → (resolve s follow init).isLiteral = false) →
      (∀ d, followed? s follow n = some d → (ofNodeAlone d).isLiteral = false) →
        (resolve s follow n).isArray = true := by
  intro h
  have harray := h (Shop.scope .any) true (Shop.field .any) (Shop.elementType .any) ⟨3, 19, 3, 23⟩ rfl
    (Shop.initializer_not_literal .any) (Shop.given_not_literal .any)
  have hliteral : literal? (Shop.field .any) = none := rfl
  rw [resolve_eq, hliteral, Shop.followed?_field] at harray
  cases harray

end Property
end BranchCover
