import BranchCover.Outline.Statement
import BranchCover.Proofs.Defaults
import BranchCover.Proofs.Private
import BranchCover.Proofs.Sample
import BranchCover.Proofs.Wiring

/-! How calls give their arguments to the parameters of a function. Arguments without a name fill the
parameters that take one by position, in order; what is left of them goes to the rest parameter. An
argument with a name goes to the parameter that is stored under this name and is not filled yet, or else
to the keyword mapping. The name of a private parameter is stored with the name of the class in front, but
the name of an argument is not. -/
namespace BranchCover

structure Formal where
  name : String
  hasDefault : Bool
  deriving DecidableEq

structure Signature where
  posOnly : List Formal
  args : List Formal
  hasRest : Bool
  kwOnly : List Formal
  hasKeywords : Bool

/-- What a call gives to the parameters. One that is given nothing has its default. -/
structure Bound (α : Type) where
  positional : List (Option α)
  rest : List α
  kwOnly : List (Option α)
  keywords : List (String × α)
  deriving DecidableEq

namespace Signature

variable {α : Type} (s : Signature) (given : List α) (named : List (String × α))

/-- How many parameters take an argument by position. -/
def places : Nat :=
  s.posOnly.length + s.args.length

def unfilled : List Formal :=
  s.args.drop (given.length - s.posOnly.length) ++ s.kwOnly

/-- The arguments by name that no parameter takes. -/
def surplus : List (String × α) :=
  named.filter fun a => !(s.unfilled given).any (·.name == a.1)

def bound : Bound α where
  positional := (given.take s.places).map some ++ (s.posOnly.drop given.length).map (fun _ => none) ++
    (s.args.drop (given.length - s.posOnly.length)).map fun f => named.lookup f.name
  rest := given.drop s.places
  kwOnly := s.kwOnly.map fun f => named.lookup f.name
  keywords := s.surplus given named

/-- Whether a call is in order: no name is given twice or to a filled parameter, what no parameter takes
has a place to go, and parameters that are given nothing have defaults. -/
def accepts : Bool :=
  decide (named.map Prod.fst).Nodup &&
  (decide (given.length ≤ s.places) || s.hasRest) &&
  ((s.surplus given named).isEmpty || s.hasKeywords) &&
  (s.surplus given named).all (fun a => !s.args.any (·.name == a.1)) &&
  (s.posOnly.drop given.length).all (·.hasDefault) &&
  (s.unfilled given).all fun f => (named.lookup f.name).isSome || f.hasDefault

/-- The rule by which a call gives its arguments to parameters. -/
def bind? : Option (Bound α) :=
  if s.accepts given named then some (s.bound given named) else none

variable {s} {given} {named}

theorem bind?_eq_some_iff {b : Bound α} :
    s.bind? given named = some b ↔ s.accepts given named = true ∧ b = s.bound given named := by
  rw [bind?, Option.ite_none_right_eq_some, Option.some.injEq]
  exact and_congr_right fun _ => eq_comm

theorem length_le_of_accepts (h : s.accepts given named = true) (hrest : s.hasRest = false) :
    given.length ≤ s.places := by
  simp only [accepts, Bool.and_eq_true, hrest, Bool.or_false, decide_eq_true_eq] at h
  exact h.1.1.1.1.2

/-- An argument by name that does not go to the keyword mapping goes to a parameter of its name. -/
theorem exists_of_surplus_eq_nil (h : s.surplus given named = []) {a : String × α} (ha : a ∈ named) :
    ∃ f ∈ s.args ++ s.kwOnly, f.name = a.1 := by
  have hnot := List.filter_eq_nil_iff.mp h a ha
  simp only [Bool.not_eq_true', Bool.not_eq_false, List.any_eq_true, beq_iff_eq] at hnot
  obtain ⟨f, hf, hname⟩ := hnot
  rcases List.mem_append.mp hf with hf | hf
  · exact ⟨f, List.mem_append_left _ (List.mem_of_mem_drop hf), hname⟩
  · exact ⟨f, List.mem_append_right _ hf, hname⟩

theorem lookup_zip {ks : List String} (hks : ks.Nodup) {ws : List α} (hlength : ks.length = ws.length) :
    ks.map (fun k => (ks.zip ws).lookup k) = ws.map some := by
  induction ks generalizing ws with
  | nil => simpa using hlength.symm
  | cons k ks ih =>
    obtain ⟨w, ws, rfl⟩ := List.exists_cons_of_length_eq_add_one hlength.symm
    obtain ⟨hk, hks⟩ := List.nodup_cons.mp hks
    have hrest := ih hks (Nat.succ.inj hlength)
    have hother : ks.map (fun j => ((k, w) :: ks.zip ws).lookup j) =
        ks.map fun j => (ks.zip ws).lookup j := by
      refine List.map_congr_left fun j hj => ?_
      have hne : (j == k) = false := by
        simpa using fun h : j = k => hk (h ▸ hj)
      rw [List.lookup_cons, hne]
    simp only [List.zip_cons_cons, List.map_cons, List.lookup_cons_self, hother, hrest]

/-- A call with an argument for every parameter, those by name under the names of their parameters. -/
theorem bind?_of_full {vs more ws : List α} (hvs : vs.length = s.places)
    (hmore : more = [] ∨ s.hasRest = true) (hkeys : (s.kwOnly.map Formal.name).Nodup)
    (hws : s.kwOnly.length = ws.length) :
    s.bind? (vs ++ more) ((s.kwOnly.map Formal.name).zip ws) =
      some ⟨vs.map some, more, ws.map some, []⟩ := by
  have hposOnly : s.posOnly.drop (vs ++ more).length = [] := by
    refine List.drop_eq_nil_of_le ?_
    rw [List.length_append, hvs, places]
    omega
  have hargs : s.args.drop ((vs ++ more).length - s.posOnly.length) = [] := by
    refine List.drop_eq_nil_of_le ?_
    rw [List.length_append, hvs, places]
    omega
  have hunfilled : s.unfilled (vs ++ more) = s.kwOnly := by
    rw [unfilled, hargs, List.nil_append]
  have hnames : ((s.kwOnly.map Formal.name).zip ws).map Prod.fst = s.kwOnly.map Formal.name :=
    List.map_fst_zip (by simp [hws])
  have hlookup : s.kwOnly.map (fun f => ((s.kwOnly.map Formal.name).zip ws).lookup f.name) =
      ws.map some := by
    rw [← lookup_zip hkeys (by simpa using hws), List.map_map]
    rfl
  have hsurplus : s.surplus (vs ++ more) ((s.kwOnly.map Formal.name).zip ws) = [] := by
    refine List.filter_eq_nil_iff.mpr fun a ha => ?_
    have hkey : a.1 ∈ s.kwOnly.map Formal.name := hnames ▸ List.mem_map_of_mem ha
    obtain ⟨f, hf, hname⟩ := List.mem_map.mp hkey
    simp only [hunfilled, Bool.not_eq_true', Bool.not_eq_false, List.any_eq_true, beq_iff_eq]
    exact ⟨f, hf, hname⟩
  have hfilled : ∀ f ∈ s.kwOnly, (((s.kwOnly.map Formal.name).zip ws).lookup f.name).isSome = true := by
    intro f hf
    have hmem := List.mem_map_of_mem (f := fun f : Formal =>
      ((s.kwOnly.map Formal.name).zip ws).lookup f.name) hf
    rw [hlookup] at hmem
    obtain ⟨w, -, hw⟩ := List.mem_map.mp hmem
    rw [← hw]
    rfl
  refine bind?_eq_some_iff.mpr ⟨?_, ?_⟩
  · have hfit : (decide ((vs ++ more).length ≤ s.places) || s.hasRest) = true := by
      rcases hmore with rfl | hrest
      · simp [hvs]
      · simp [hrest]
    have hall : (s.kwOnly.all fun f =>
        (((s.kwOnly.map Formal.name).zip ws).lookup f.name).isSome || f.hasDefault) = true :=
      List.all_eq_true.mpr fun f hf => by simp [hfilled f hf]
    simp only [accepts, hnames, hkeys, hfit, hsurplus, hposOnly, hunfilled, hall, decide_true,
      List.isEmpty_nil, List.all_nil, Bool.true_or, Bool.and_true]
  · have htake : (vs ++ more).take s.places = vs := List.take_left' hvs
    have hdrop : (vs ++ more).drop s.places = more := List.drop_left' hvs
    simp only [bound, htake, hdrop, hposOnly, hargs, hlookup, hsurplus, List.map_nil,
      List.append_nil]

end Signature

namespace Source.Parameters

def posOnly : Parameters → List Param
  | mk posOnly _ _ _ _ => posOnly

def rest : Parameters → Option Param
  | mk _ _ rest _ _ => rest

def keywords : Parameters → Option Param
  | mk _ _ _ _ keywords => keywords

theorem positional_eq (ps : Parameters) : ps.positional = ps.posOnly ++ ps.args := by
  cases ps
  rfl

end Source.Parameters

inductive Passed where
  | receiver
  | value (v : Value)

namespace Invocation

def unnamed (i : Invocation) : List Value :=
  (i.args.filter (!·.keyword)).map Argument.value

def named (i : Invocation) : List (String × Value) :=
  (i.args.filter (·.keyword)).map fun a => (a.name, a.value)

end Invocation

namespace Outline

open Source

def formal (cls : String) (p : Param) : Formal :=
  ⟨mangle p.name (some cls), p.default.isSome⟩

namespace Function

def signature (f : Function) (cls : String) : Signature where
  posOnly := f.params.posOnly.map (formal cls)
  args := f.params.args.map (formal cls)
  hasRest := f.params.rest.isSome
  kwOnly := f.params.kwOnly.map (formal cls)
  hasKeywords := f.params.keywords.isSome

/-- How a call of a method binds. A method that is not static is given first what it is called on. The
method that makes instances is static by itself. -/
def bind? (f : Function) (cls : String) (isStatic : Bool) (i : Invocation) : Option (Bound Passed) :=
  (f.signature cls).bind?
    ((if isStatic || f.name == "__new__" then [] else [.receiver]) ++ i.unnamed.map .value)
    (i.named.map fun a => (a.1, .value a.2))

end Function

/-- The node declares a parameter with a default. -/
def Reader.Declares (r : Reader) (kwOnly : Bool) (p : Param × Option Expr) (n : Node) : Prop :=
  ∃ a, r.typing? p.1.typing = .ok a ∧ n = .param p.1.name a (p.2.map ofExpr) kwOnly p.1.span

/-- The parameters that take an argument by position, each with the default that belongs to it. -/
def paired (ps : Parameters) : List (Param × Option Expr) :=
  ps.positional.zip ps.pairedDefaults

theorem paired_eq {ps : Parameters} (h : Param.Ordered ps.positional) :
    paired ps = ps.positional.map fun p => (p, p.default) := by
  rw [paired, Parameters.pairedDefaults_eq h, List.map_prod_left_eq_zip]

/-- How many parameters of a method are left to what it is called on. -/
def dropped (isStatic : Bool) : Nat :=
  if isStatic then 0 else 1

/-- A method that is not static by its decorators is called on something. -/
def isStatic (head : MethodHead) : Bool :=
  head.modifiers.contains "staticmethod"

section Declared

variable {r : Reader} {isConstructor : Bool} {f : Function} {body : Except Failure Node}
  {head : MethodHead} {nodes : List Node} {block : Node} {returns : Option Node} {span : Span}

theorem forall₂_declares {kwOnly : Bool} {ps : List Param} {ns : List Node}
    (h : (ps.map (·, kwOnly)).mapM (param r) = .ok ns) :
    List.Forall₂ (r.Declares kwOnly) (ps.map fun p => (p, p.default)) ns := by
  rw [mapM_eq_ok_iff, List.forall₂_map_left_iff] at h
  rw [List.forall₂_map_left_iff]
  refine h.imp fun p n hn => ?_
  obtain ⟨a, ha, hn⟩ := bind_eq_ok.mp hn
  exact ⟨a, ha, (pure_eq_ok.mp hn).symm⟩

/-- A method declares the parameters that take an argument by position, but for the receiver, and then
those that take one by name. -/
theorem declared_of_method
    (h : method r true isConstructor f body = .ok (.method head nodes block returns span))
    (hordered : Param.Ordered f.params.positional) :
    head.name = f.name ∧ ∃ first byName, nodes = first ++ byName ∧
      List.Forall₂ (r.Declares false) ((paired f.params).drop (dropped (isStatic head))) first ∧
      List.Forall₂ (r.Declares true) (f.params.kwOnly.map fun p => (p, p.default)) byName := by
  unfold method at h
  obtain ⟨modifiers, -, h⟩ := bind_eq_ok.mp h
  obtain ⟨params, hparams, h⟩ := bind_eq_ok.mp h
  obtain ⟨b, -, h⟩ := bind_eq_ok.mp h
  obtain ⟨returns', -, h⟩ := bind_eq_ok.mp h
  obtain ⟨rfl, rfl, -⟩ := Node.method.inj (pure_eq_ok.mp h)
  rw [shownParams, List.mapM_append] at hparams
  obtain ⟨first, hfirst, hparams⟩ := bind_eq_ok.mp hparams
  obtain ⟨byName, hbyName, hparams⟩ := bind_eq_ok.mp hparams
  refine ⟨rfl, first, byName, (pure_eq_ok.mp hparams).symm, ?_, forall₂_declares hbyName⟩
  have hdropped : (if true && !modifiers.contains "staticmethod" then f.params.positional.drop 1
      else f.params.positional) =
      f.params.positional.drop (dropped (modifiers.contains "staticmethod")) := by
    cases modifiers.contains "staticmethod" <;> rfl
  rw [hdropped] at hfirst
  rw [paired_eq hordered, ← List.map_drop]
  exact forall₂_declares hfirst

end Declared

end Outline

/-- The value that a call gives to a declared parameter: the one in force for its name, or else its base
value. -/
def Overrides.valueFor (values : Overrides) (s : Property.Scope) (n : Node) : Value :=
  (values.find? (n.name?.getD "")).getD (Value.make (Method.paramOf s n))

namespace Outline.Reader.Declares

variable {r : Reader} {kwOnly : Bool} {p : Source.Param × Option Source.Expr} {n : Node}

theorem name?_eq (h : r.Declares kwOnly p n) : n.name? = some p.1.name := by
  obtain ⟨a, -, rfl⟩ := h
  rfl

theorem paramOf_spec (h : r.Declares kwOnly p n) (s : Property.Scope) :
    (Method.paramOf s n).name = n.name? ∧ (Method.paramOf s n).kwOnly = kwOnly := by
  refine ⟨Property.ofNode_name s n, ?_⟩
  obtain ⟨a, -, rfl⟩ := h
  rfl

end Outline.Reader.Declares

section Arguments

open Outline

variable {r : Reader} {kwOnly : Bool} {ps : List (Source.Param × Option Source.Expr)} {ns : List Node}

theorem baseArguments_declared (h : List.Forall₂ (r.Declares kwOnly) ps ns) (s : Property.Scope)
    (values : Overrides) :
    baseArguments (ns.map (Method.paramOf s)) values =
      ns.map fun n => ⟨n.name?.getD "", values.valueFor s n, kwOnly⟩ := by
  induction h with
  | nil => rfl
  | cons hn _ ih =>
    obtain ⟨hname, hkwOnly⟩ := hn.paramOf_spec s
    rw [List.map_cons, List.map_cons, ← ih]
    simp only [baseArguments, List.map_cons, hname, hkwOnly, Overrides.valueFor]

theorem names_declared (h : List.Forall₂ (r.Declares kwOnly) ps ns) :
    ns.map (fun n => n.name?.getD "") = ps.map fun p => p.1.name := by
  induction h with
  | nil => rfl
  | cons hn _ ih => rw [List.map_cons, List.map_cons, ih, hn.name?_eq, Option.getD_some]

end Arguments

/-- Every parameter is given what is meant for it: those that take an argument by position what the
method is called on and the first values, those that take one by name the others. No value is left. -/
structure Bound.Faithful (b : Bound Passed) (receivers : Nat) (first byName : List Value) : Prop where
  positional : b.positional = (List.replicate receivers Passed.receiver ++ first.map Passed.value).map some
  rest : ∀ x ∈ b.rest, x = .receiver
  kwOnly : b.kwOnly = byName.map fun v => some (.value v)
  keywords : b.keywords = []

namespace Outline.Function

open Source

variable {f : Function} {cls : String} {isStatic : Bool} {i : Invocation} {first byName : List Value}

/-- How many parameters are given what the method is called on. -/
def receivers (f : Function) (isStatic : Bool) : Nat :=
  (f.params.positional.take (dropped isStatic)).length

/-- There is a parameter for what a method is called on if and only if it is called on something. -/
def PlacesReceiver (f : Function) (isStatic : Bool) : Prop :=
  isStatic = true ∨ if f.name = "__new__" then f.params.positional = []
    else f.params.positional ≠ [] ∨ f.params.rest.isSome = true

theorem places_signature (f : Function) (cls : String) :
    (f.signature cls).places = f.params.positional.length := by
  simp [Signature.places, signature, Parameters.positional_eq]

/-- What is passed by position are arguments for the parameters, and at most the receiver besides. -/
theorem exists_more (h : f.PlacesReceiver isStatic) :
    ∃ more : List Passed, (∀ x ∈ more, x = .receiver) ∧
      (more = [] ∨ f.params.rest.isSome = true) ∧
      ∀ vs : List Passed, vs.length = (f.params.positional.drop (dropped isStatic)).length →
        (if isStatic || f.name == "__new__" then [] else [.receiver]) ++ vs =
          List.replicate (f.receivers isStatic) .receiver ++ vs ++ more := by
  cases isStatic with
  | true => exact ⟨[], by simp, .inl rfl, fun vs _ => by simp [receivers, dropped]⟩
  | false =>
    have hplaces := h.resolve_left Bool.false_ne_true
    cases hpositional : f.params.positional with
    | nil =>
      by_cases hnew : f.name = "__new__"
      · exact ⟨[], by simp, .inl rfl, fun vs _ => by simp [receivers, hnew, hpositional]⟩
      · rw [if_neg hnew, hpositional] at hplaces
        have hrest := hplaces.resolve_left (by simp)
        refine ⟨[.receiver], by simp, .inr hrest, fun vs hvs => ?_⟩
        obtain rfl : vs = [] := List.eq_nil_of_length_eq_zero hvs
        simp [receivers, hnew, hpositional]
    | cons p ps =>
      have hnew : f.name ≠ "__new__" := by
        intro hnew
        rw [if_pos hnew, hpositional] at hplaces
        cases hplaces
      refine ⟨[], by simp, .inl rfl, fun vs _ => ?_⟩
      simp [receivers, dropped, hnew, hpositional]

theorem faithful_of_named (hunnamed : i.unnamed = first)
    (hnamed : i.named = (f.params.kwOnly.map Param.name).zip byName)
    (hfirst : first.length = (f.params.positional.drop (dropped isStatic)).length)
    (hbyName : byName.length = f.params.kwOnly.length)
    (hdistinct : (f.params.kwOnly.map fun p => mangle p.name (some cls)).Nodup)
    (hreceiver : f.PlacesReceiver isStatic)
    (hprivate : ∀ p ∈ f.params.kwOnly, IsPrivate p.name → OnlyUnderscores cls) :
    ∃ b, f.bind? cls isStatic i = some b ∧
      b.Faithful (f.receivers isStatic) first byName := by
  obtain ⟨more, hmore, hrest, hpassed⟩ := exists_more hreceiver
  have hstored : (f.signature cls).kwOnly.map Formal.name = f.params.kwOnly.map Param.name := by
    simp only [signature, List.map_map]
    refine List.map_congr_left fun p hp => ?_
    exact mangle_eq_self_iff.mpr fun h => h.2 (hprivate p hp h.1)
  have hkeys : ((f.signature cls).kwOnly.map Formal.name).Nodup := by
    simpa [signature, List.map_map, Function.comp_def, formal] using hdistinct
  have hgiven := hpassed (first.map .value) (by rw [List.length_map, hfirst])
  have hvs : (List.replicate (f.receivers isStatic) .receiver ++
      first.map .value : List Passed).length = (f.signature cls).places := by
    rw [places_signature, List.length_append, List.length_replicate, List.length_map, hfirst, receivers,
      ← List.length_append, List.take_append_drop]
  have hvalues : (i.named.map fun a => (a.1, Passed.value a.2)) =
      ((f.signature cls).kwOnly.map Formal.name).zip (byName.map .value) := by
    rw [hnamed, hstored, List.zip_map_right]
    rfl
  have hws : (f.signature cls).kwOnly.length = (byName.map Passed.value).length := by
    simp [signature, hbyName]
  have hbind := Signature.bind?_of_full hvs hrest hkeys hws
  rw [bind?, hunnamed, hgiven, hvalues]
  exact ⟨_, hbind, rfl, hmore, List.map_map, rfl⟩

/-- A call of a method that is not called on anything passes values alone. -/
theorem receiver_not_mem_positional {b : Bound Passed} (hb : f.bind? cls isStatic i = some b)
    (hnone : (isStatic || f.name == "__new__") = true) : some .receiver ∉ b.positional := by
  obtain ⟨-, rfl⟩ := Signature.bind?_eq_some_iff.mp hb
  rw [hnone]
  intro hmem
  simp only [Signature.bound, if_true, List.nil_append, List.mem_append, List.mem_map] at hmem
  rcases hmem with (⟨x, hx, hreceiver⟩ | ⟨x, -, hnothing⟩) | ⟨x, -, hnamed⟩
  · obtain ⟨v, -, rfl⟩ := List.mem_map.mp (List.mem_of_mem_take hx)
    cases hreceiver
  · cases hnothing
  · obtain ⟨before, after, hvalues, -⟩ := List.lookup_eq_some_iff.mp hnamed
    have hvalue : (x.name, Passed.receiver) ∈ i.named.map fun a => (a.1, Passed.value a.2) := by
      rw [hvalues]
      simp
    obtain ⟨a, -, ha⟩ := List.mem_map.mp hvalue
    cases (Prod.mk.inj ha).2

theorem placesReceiver_of_faithful {b : Bound Passed} (hb : f.bind? cls isStatic i = some b)
    (hfaithful : b.Faithful (f.receivers isStatic) first byName) :
    f.PlacesReceiver isStatic := by
  cases isStatic with
  | true => exact .inl rfl
  | false =>
    refine .inr ?_
    by_cases hnew : f.name = "__new__"
    · rw [if_pos hnew]
      by_contra hpositional
      refine receiver_not_mem_positional hb (by simp [hnew]) ?_
      have hone : f.receivers false = 1 :=
        (List.length_take).trans (min_eq_left (List.length_pos_iff.mpr hpositional))
      rw [hfaithful.positional, hone]
      simp
    · rw [if_neg hnew]
      by_contra hneither
      obtain ⟨hpositional, hrest⟩ := not_or.mp hneither
      have hpositional : f.params.positional = [] := not_not.mp hpositional
      obtain ⟨haccepts, -⟩ := Signature.bind?_eq_some_iff.mp hb
      have hlength := Signature.length_le_of_accepts haccepts (by simpa [signature] using hrest)
      rw [places_signature, hpositional] at hlength
      simp [hnew] at hlength

theorem onlyUnderscores_of_faithful {b : Bound Passed} (hb : f.bind? cls isStatic i = some b)
    (hnamed : i.named = (f.params.kwOnly.map Param.name).zip byName)
    (hbyName : byName.length = f.params.kwOnly.length) {receivers : Nat}
    (hfaithful : b.Faithful receivers first byName) :
    ∀ p ∈ f.params.kwOnly, IsPrivate p.name → OnlyUnderscores cls := by
  intro p hp hprivate
  have hname : p.name ∈ i.named.map Prod.fst := by
    rw [hnamed, List.map_fst_zip (by simp [hbyName])]
    exact List.mem_map_of_mem hp
  obtain ⟨a, ha, haname⟩ := List.mem_map.mp hname
  obtain ⟨-, rfl⟩ := Signature.bind?_eq_some_iff.mp hb
  obtain ⟨g, hg, hgname⟩ := Signature.exists_of_surplus_eq_nil hfaithful.keywords
    (List.mem_map_of_mem (f := fun a : String × Value => (a.1, Passed.value a.2)) ha)
  have hstored : ∃ q : Param, g.name = mangle q.name (some cls) := by
    rcases List.mem_append.mp hg with hg | hg <;>
    · obtain ⟨q, -, rfl⟩ := List.mem_map.mp hg
      exact ⟨q, rfl⟩
  obtain ⟨q, hq⟩ := hstored
  have hmangled : IsPrivate (mangle q.name (some cls)) := by
    rw [← hq, hgname]
    simpa [haname] using hprivate
  exact (isPrivate_mangle_iff.mp hmangled).2

end Outline.Function

namespace Outline

open Source

/-- The call of a method that a class declares. It passes, first and by position, a value for each
parameter that takes one by position except the receiver, then one by name for each that takes one by
name; each is the value in force for the name of the parameter, or else its base value. Every parameter is
given what is meant for it if and only if there is one for what the method is called on, and no parameter
that takes its value by name is private, unless the class is named by underscores alone. -/
theorem call_binds_iff {r : Reader} {isConstructor : Bool} {f : Function}
    {body : Except Failure Node} {head : MethodHead} {nodes : List Node} {block : Node}
    {returns : Option Node} {span : Span}
    (hmethod : method r true isConstructor f body = .ok (.method head nodes block returns span))
    (haccess : Modifier.accessor? head.modifiers = none)
    (hordered : Param.Ordered f.params.positional) {c : Class}
    (hdistinct : (f.params.kwOnly.map fun p => mangle p.name (some c.name)).Nodup)
    (lines : List (List Char)) (s : Property.Scope) (o : Options) (values : Overrides) :
    let i := Member.invocation ⟨Method.ofParts lines s head nodes block, some c, o⟩ values
    ∃ first byName : List Node, nodes = first ++ byName ∧
      List.Forall₂ (r.Declares false) ((paired f.params).drop (dropped (isStatic head))) first ∧
      List.Forall₂ (r.Declares true) (f.params.kwOnly.map fun p => (p, p.default)) byName ∧
      i.args = first.map (fun n => ⟨n.name?.getD "", values.valueFor s n, false⟩) ++
        byName.map (fun n => ⟨n.name?.getD "", values.valueFor s n, true⟩) ∧
      (∀ text, i.source = .ok text ↔ (∀ n ∈ nodes, (values.valueFor s n).Renders) ∧
        text = i.target ++ "(" ++ ", ".intercalate
          (first.map (fun n => (values.valueFor s n).rendered) ++
            byName.map fun n => n.name?.getD "" ++ "=" ++ (values.valueFor s n).rendered) ++ ")") ∧
      ((∃ b, f.bind? c.name (isStatic head) i = some b ∧
          b.Faithful (f.receivers (isStatic head)) (first.map (values.valueFor s))
            (byName.map (values.valueFor s))) ↔
        f.PlacesReceiver (isStatic head) ∧
          ∀ p ∈ f.params.kwOnly, IsPrivate p.name → OnlyUnderscores c.name) := by
  intro i
  obtain ⟨-, first, byName, rfl, hfirst, hbyName⟩ := declared_of_method hmethod hordered
  have hargs : i.args = first.map (fun n => ⟨n.name?.getD "", values.valueFor s n, false⟩) ++
      byName.map (fun n => ⟨n.name?.getD "", values.valueFor s n, true⟩) := by
    rw [← baseArguments_declared hfirst s values, ← baseArguments_declared hbyName s values]
    change baseArguments ((first ++ byName).map (Method.paramOf s)) values = _
    simp only [baseArguments, List.map_append]
  refine ⟨first, byName, rfl, hfirst, hbyName, hargs, ?_, ?_⟩
  · intro text
    have hwritten : i.written = i.target ++ "(" ++ ", ".intercalate (i.args.map Argument.rendered) ++
        ")" := by
      rw [Invocation.written, show i.access = none from haccess]
    rw [Invocation.source_eq_ok_iff, hwritten, hargs]
    simp only [List.forall_mem_append, List.forall_mem_map, List.map_append, List.map_map,
      Function.comp_def, Argument.rendered, if_true, Bool.false_eq_true, if_false]
  · have hunnamed : i.unnamed = first.map (values.valueFor s) := by
      simp [Invocation.unnamed, hargs, List.filter_append, List.filter_map, Function.comp_def]
    have hnames : byName.map (fun n => n.name?.getD "") = f.params.kwOnly.map Param.name := by
      rw [names_declared hbyName, List.map_map]
      rfl
    have hnamed : i.named = (f.params.kwOnly.map Param.name).zip (byName.map (values.valueFor s)) := by
      rw [← hnames, List.zip_map']
      simp [Invocation.named, hargs, List.filter_append, List.filter_map, Function.comp_def]
    have hlengthFirst : (first.map (values.valueFor s)).length =
        (f.params.positional.drop (dropped (isStatic head))).length := by
      rw [List.length_map, ← hfirst.length_eq, paired_eq hordered, ← List.map_drop, List.length_map]
    have hlengthByName : (byName.map (values.valueFor s)).length = f.params.kwOnly.length := by
      rw [List.length_map, ← hbyName.length_eq, List.length_map]
    constructor
    · rintro ⟨b, hb, hfaithful⟩
      exact ⟨Function.placesReceiver_of_faithful hb hfaithful,
        Function.onlyUnderscores_of_faithful hb hnamed hlengthByName hfaithful⟩
    · rintro ⟨hreceiver, hprivate⟩
      exact Function.faithful_of_named hunnamed hnamed hlengthFirst hlengthByName hdistinct hreceiver
        hprivate

/-! A method with a default, and with a parameter of some name that takes its value by name. -/

def opening (name : String) : Function where
  name := "open"
  params := .mk [] [.mk "self" none none Span.unknown,
    .mk "code" none (some (.constant (.number (.int 1)) Span.unknown)) Span.unknown] none
    [.mk name none none Span.unknown] none
  decorators := []
  returns := none
  isAsync := false
  span := Span.unknown

def openingHead : MethodHead :=
  ⟨false, "open", none, [], false, some "self"⟩

def codeNode : Node :=
  .param "code" none (some (.numeric (.int 1) Span.unknown)) false Span.unknown

def nameNode (name : String) : Node :=
  .param name none none true Span.unknown

/-- Reads no quoted annotations. -/
def plainReader : Reader :=
  ⟨[], fun _ => .error .nullByte⟩

/-- What the method is called with when a code is in force. -/
def openingCall (name : String) : Invocation :=
  Member.invocation ⟨Method.ofParts [] Property.Scope.empty openingHead [codeNode, nameNode name]
    (.block [] Span.unknown), some Sample.cls, .standard⟩ [("code", .number (.int 7))]

theorem method_opening (name : String) :
    method plainReader true false (opening name) (.ok (.block [] Span.unknown)) =
      .ok (.method openingHead [codeNode, nameNode name] (.block [] Span.unknown) none Span.unknown) :=
  rfl

theorem ordered_opening (name : String) : Param.Ordered (opening name).params.positional := by
  have hself : Param.Ordered [.mk "self" none none Span.unknown] :=
    Param.ordered_of_bare (by simp [Param.default])
  exact hself.append (by simp [Param.default])

theorem call_binds_iff_opening :
    Modifier.accessor? openingHead.modifiers = none ∧
    Param.Ordered (opening "force").params.positional ∧
    ((opening "force").params.kwOnly.map fun p => mangle p.name (some Sample.cls.name)).Nodup ∧
    ∃ b, (opening "force").bind? "Gate" false (openingCall "force") = some b ∧
      b.Faithful 1 [.number (.int 7)] [.null] := by
  have hdistinct : ((opening "force").params.kwOnly.map fun p =>
      mangle p.name (some Sample.cls.name)).Nodup := List.nodup_singleton _
  obtain ⟨first, byName, hnodes, hfirst, hbyName, -, -, hbinds⟩ :=
    call_binds_iff (method_opening "force") rfl (ordered_opening "force") hdistinct [] .empty
      .standard [("code", .number (.int 7))]
  obtain ⟨n, rfl⟩ := List.length_eq_one_iff.mp hfirst.length_eq.symm
  obtain ⟨rfl, rfl⟩ := List.cons.inj hnodes
  refine ⟨rfl, ordered_opening "force", hdistinct, hbinds.mpr ⟨.inr (by decide), ?_⟩⟩
  intro p hp hprivate
  obtain rfl := List.mem_singleton.mp hp
  exact absurd hprivate.1 (by decide)

/-- A call does not bind where it gives a value by name to a private parameter. -/
theorem call_refused_for_private :
    ¬ ∀ (r : Reader) (f : Function) (body : Except Failure Node) (head : MethodHead)
      (nodes : List Node) (block : Node) (returns : Option Node) (span : Span) (c : Class)
      (lines : List (List Char)) (s : Property.Scope) (o : Options) (values : Overrides),
      method r true false f body = .ok (.method head nodes block returns span) →
      Modifier.accessor? head.modifiers = none → Param.Ordered f.params.positional →
      (f.params.kwOnly.map fun p => mangle p.name (some c.name)).Nodup →
      ∃ b, f.bind? c.name (isStatic head)
        (Member.invocation ⟨Method.ofParts lines s head nodes block, some c, o⟩ values) = some b := by
  intro h
  obtain ⟨b, hb⟩ := h _ _ _ _ _ _ _ _ Sample.cls [] .empty .standard [("code", .number (.int 7))]
    (method_opening "__force") rfl (ordered_opening "__force") (List.nodup_singleton _)
  have hnone : (opening "__force").bind? "Gate" false (openingCall "__force") = none := by
    decide +kernel
  exact Option.some_ne_none b (hb.symm.trans hnone)

end Outline
end BranchCover
