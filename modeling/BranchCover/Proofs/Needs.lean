import BranchCover.Outline.Statement
import BranchCover.Proofs.Except
import BranchCover.Proofs.Spoiled

/-! What the outline of a source takes from it that may be refused: readings of annotations and names of
decorators, in the order in which they are taken. An outline fails as the first of them that fails. -/
namespace BranchCover
namespace Outline

open Source

/-- Something of a source that its outline cannot do without. -/
inductive Need where
  | typing (e : Expr)
  | decorator (e : Expr)

namespace Need

def check (r : Reader) : Need → Except Failure Unit
  | typing e => (r.typing e).map fun _ => ()
  | decorator e => (decoratorName e).map fun _ => ()

/-- Whether it is there: an annotation has a reading if it comes to no text that is no source, a decorator
is a name or has a written form. -/
def Met [Interpreter] : Need → Prop
  | typing e => ¬ Typing.Spoiled none e
  | decorator e => ∃ name, decoratorName e = .ok name

def ofTyping (type : Option Expr) : List Need :=
  type.toList.map typing

def ofParams (ps : List (Param × Bool)) : List Need :=
  ps.flatMap fun p => ofTyping p.1.typing

end Need

def namesStatic (ds : List Expr) : Bool :=
  ds.any fun d => (decoratorName d).toOption == some "staticmethod"

def methodNeeds (inClass : Bool) (f : Function) (body : List Need) : List Need :=
  let params := shownParams (inClass && !namesStatic f.decorators) f.params
  f.decorators.map .decorator ++ (Need.ofParams params ++ (body ++ Need.ofTyping f.returns))

/-- The needs of the fields that a constructor gives to its receiver. -/
def fieldNeeds (declared : List String) (ps : Parameters) (body : List Stmt) : List Need :=
  match ps.args.head? with
  | none => []
  | some receiver =>
    let bindings := (Assignment.sorted body).flatMap (·.fields receiver.name)
    (firstBindings declared bindings).flatMap fun b => Need.ofTyping b.assignment.typing

mutual

def needs : Stmt → List Need
  | .function name ps body ds returns isAsync s =>
    methodNeeds false ⟨name, ps, ds, returns, isAsync, s⟩ (needsAll body)
  | .classDef _ _ _ body _ _ => memberNeeds (boundNames body) false body
  | .ifStmt _ body orelse _ => needsAll body ++ needsAll orelse
  | .matchStmt _ cases _ => caseNeeds cases
  | .forLoop _ _ body orelse _ _ => needsAll body ++ needsAll orelse
  | .whileLoop _ body orelse _ => needsAll body ++ needsAll orelse
  | .withStmt _ body _ _ => needsAll body
  | .tryStmt body handlers orelse final _ _ =>
    needsAll body ++ (handlerNeeds handlers ++ (needsAll orelse ++ needsAll final))
  | _ => []

def needsAll : List Stmt → List Need
  | [] => []
  | s :: ss => needs s ++ needsAll ss

/-- The needs of the members of a class. Of an initializer after the first only those of its body count. -/
def memberNeeds (declared : List String) (hasInit : Bool) : List Stmt → List Need
  | [] => []
  | .function name ps body ds returns isAsync s :: ss =>
    let f : Function := ⟨name, ps, ds, returns, isAsync, s⟩
    if name != "__init__" then
      methodNeeds true f (needsAll body) ++ memberNeeds declared hasInit ss
    else if hasInit then
      needsAll body ++ memberNeeds declared hasInit ss
    else
      fieldNeeds declared ps body ++
        (methodNeeds true f (needsAll body) ++ memberNeeds declared true ss)
  | .annotate (.name _ _) typing _ _ :: ss => .typing typing :: memberNeeds declared hasInit ss
  | s :: ss => needs s ++ memberNeeds declared hasInit ss

def caseNeeds : List MatchCase → List Need
  | [] => []
  | .mk _ _ body :: cs => needsAll body ++ caseNeeds cs

def handlerNeeds : List Handler → List Need
  | [] => []
  | .mk _ _ body _ :: hs => needsAll body ++ handlerNeeds hs

end

/-- The needs of a statement of a module or class, which may declare names. -/
def ownNeeds : Stmt → List Need
  | .annotate (.name _ _) typing _ _ => [.typing typing]
  | s => needs s

def moduleNeeds (body : List Stmt) : List Need :=
  body.flatMap ownNeeds

theorem memberNeeds_cons {s : Stmt}
    (hs : ∀ name ps body ds returns isAsync sp, s ≠ .function name ps body ds returns isAsync sp)
    (declared : List String) (hasInit : Bool) (ss : List Stmt) :
    memberNeeds declared hasInit (s :: ss) = ownNeeds s ++ memberNeeds declared hasInit ss := by
  unfold ownNeeds
  split
  · rw [memberNeeds]
    rfl
  · rename_i hname
    rw [memberNeeds]
    · exact fun name ps body ds returns isAsync sp h => hs name ps body ds returns isAsync sp h
    · exact fun id sp typing value s' h => hname id sp typing value s' h

/-- The computation fails as the first of these needs that fails, and succeeds if none does. -/
def Takes {α : Type} (r : Reader) (ns : List Need) (x : Except Failure α) : Prop :=
  (x.map fun _ => ()) = forM ns (Need.check r)

namespace Takes

variable {α β : Type} {r : Reader} {ns ms : List Need} {x : Except Failure α}

theorem pure (a : α) : Takes r [] (Pure.pure a) := rfl

theorem bind {f : α → Except Failure β} (hx : Takes r ns x) (hf : ∀ a, x = .ok a → Takes r ms (f a)) :
    Takes r (ns ++ ms) (x >>= f) := by
  unfold Takes at *
  rw [List.forM_append, ← hx]
  cases x with
  | error e => rfl
  | ok a => exact hf a rfl

theorem map {f : α → β} (hx : Takes r ns x) : Takes r ns (x >>= fun a => Pure.pure (f a)) := by
  have h := hx.bind fun a _ => pure (f a)
  rwa [List.append_nil] at h

theorem mapM {γ : Type} {xs : List γ} {f : γ → Except Failure β} {needs : γ → List Need}
    (h : ∀ x ∈ xs, Takes r (needs x) (f x)) : Takes r (xs.flatMap needs) (xs.mapM f) := by
  induction xs with
  | nil => exact pure []
  | cons x xs ih =>
    rw [List.mapM_cons, List.flatMap_cons]
    exact (h x List.mem_cons_self).bind fun _ _ =>
      (ih fun y hy => h y (List.mem_cons_of_mem _ hy)).map

theorem of_check {n : Need} (h : n.check r = x.map fun _ => ()) : Takes r [n] x := by
  unfold Takes
  rw [List.forM_cons, List.forM_nil, h]
  cases x <;> rfl

theorem typing (e : Expr) : Takes r [.typing e] (r.typing e) :=
  of_check rfl

theorem typing? (typing : Option Expr) : Takes r (Need.ofTyping typing) (r.typing? typing) := by
  cases typing with
  | none => exact pure none
  | some e => exact (Takes.typing e).map

theorem decorators (ds : List Expr) : Takes r (ds.map .decorator) (ds.mapM decoratorName) := by
  rw [List.map_eq_flatMap]
  exact mapM fun d _ => of_check rfl

theorem params (ps : List (Param × Bool)) : Takes r (Need.ofParams ps) (ps.mapM (param r)) :=
  mapM fun p _ => (typing? p.1.typing).map

end Takes

theorem contains_modifiers {ds : List Expr} {modifiers : List String}
    (h : ds.mapM decoratorName = .ok modifiers) : modifiers.contains "staticmethod" = namesStatic ds := by
  induction ds generalizing modifiers with
  | nil =>
    cases h
    rfl
  | cons d ds ih =>
    rw [List.mapM_cons] at h
    obtain ⟨m, hm, h⟩ := bind_eq_ok.mp h
    obtain ⟨ms, hms, h⟩ := bind_eq_ok.mp h
    obtain rfl := pure_eq_ok.mp h
    have htail := ih hms
    have hhead : ((decoratorName d).toOption == some "staticmethod") = ("staticmethod" == m) := by
      rw [hm, Bool.beq_comm]
      rfl
    rw [List.contains_cons, htail, namesStatic, namesStatic, List.any_cons, hhead]

variable {r : Reader}

theorem method_takes {inClass isConstructor : Bool} {f : Function} {body : Except Failure Node}
    {ns : List Need} (h : Takes r ns body) :
    Takes r (methodNeeds inClass f ns) (method r inClass isConstructor f body) := by
  refine (Takes.decorators f.decorators).bind fun modifiers hmodifiers => ?_
  rw [← contains_modifiers hmodifiers]
  refine (Takes.params _).bind fun _ _ => h.bind fun _ _ => ?_
  exact (Takes.typing? f.returns).map

theorem instanceFields_takes (owner : Span) (declared : List String) (ps : Parameters) (body : List Stmt) :
    Takes r (fieldNeeds declared ps body) (instanceFields r owner declared ps body) := by
  unfold fieldNeeds instanceFields
  cases ps.args.head? with
  | none => exact .pure []
  | some receiver =>
    exact Takes.mapM fun (b : FieldBinding) _ => (Takes.typing? b.assignment.typing).map

/-- A statement of a module or class takes what it needs, whether it declares names or not. -/
theorem declared_takes (owner : Span) {s : Stmt} (h : Takes r (needs s) (ofStmt r s)) :
    Takes r (ownNeeds s) (match declarations? r owner s with
      | some ds => ds
      | none => do
        let n ← ofStmt r s
        pure [n]) := by
  cases s with
  | annotate target typing value sp =>
    cases target with
    | name id _ => exact (Takes.typing typing).map
    | _ => exact h.map
  | assign targets value sp =>
    simp only [declarations?]
    split
    · rename_i ds hds
      split_ifs at hds
      obtain rfl := Option.some.inj hds
      exact .pure _
    · exact h.map
  | _ => exact h.map

theorem takes_cons (owner : Span) {s : Stmt} {ns : List Need} {more : Except Failure (List Node)}
    (h : Takes r (needs s) (ofStmt r s)) (hmore : Takes r ns more) :
    Takes r (ownNeeds s ++ ns) (do
      let ns ← match declarations? r owner s with
        | some ds => ds
        | none => do
          let n ← ofStmt r s
          pure [n]
      let rest ← more
      pure (ns ++ rest)) := by
  have hown := declared_takes owner h
  split at hown
  · exact hown.bind fun _ _ => hmore.map
  · have hboth := hown.bind fun ms _ => hmore.map (f := fun rest => ms ++ rest)
    rwa [bind_assoc] at hboth

theorem ofMembers_takes_other {owner : Span} {declared : List String} {hasInit : Bool} {s : Stmt}
    {ss : List Stmt}
    (hs : ∀ name ps body ds returns isAsync sp, s ≠ .function name ps body ds returns isAsync sp)
    (h : Takes r (needs s) (ofStmt r s))
    (hss : Takes r (memberNeeds declared hasInit ss) (ofMembers r owner declared hasInit ss)) :
    Takes r (memberNeeds declared hasInit (s :: ss)) (ofMembers r owner declared hasInit (s :: ss)) := by
  rw [memberNeeds_cons hs, ofMembers]
  · exact takes_cons owner h hss
  · exact fun name ps body ds returns isAsync sp h => hs name ps body ds returns isAsync sp h

/-- A method, the constructor with the fields that it gives, or an initializer after the first. -/
theorem ofMembers_takes_function {owner : Span} {declared : List String} {hasInit : Bool} {name : String}
    {ps : Parameters} {body : List Stmt} {ds : List Expr} {returns : Option Expr} {isAsync : Bool} {s : Span}
    {ss : List Stmt} (h : Takes r (needsAll body) (ofStmts r body))
    (hss : ∀ hasInit, Takes r (memberNeeds declared hasInit ss) (ofMembers r owner declared hasInit ss)) :
    Takes r (memberNeeds declared hasInit (.function name ps body ds returns isAsync s :: ss))
      (ofMembers r owner declared hasInit (.function name ps body ds returns isAsync s :: ss)) := by
  have hbody := h.map (f := fun b => Node.block b (blockSpan s body))
  rw [ofMembers, memberNeeds]
  dsimp only
  split
  · exact (method_takes hbody).bind fun _ _ => (hss hasInit).map
  split
  · exact hbody.bind fun _ _ => (hss hasInit).map
  · exact (instanceFields_takes owner declared ps body).bind fun _ _ =>
      (method_takes hbody).bind fun _ _ => (hss true).map

mutual

/-- By induction on the statement, along what is read of it. -/
theorem ofStmt_takes : ∀ s : Stmt, Takes r (needs s) (ofStmt r s)
  | .function name ps body ds returns isAsync s => by
    rw [ofStmt, needs]
    exact method_takes (ofStmts_takes body).map
  | .classDef name bases ks body ds s => by
    rw [ofStmt, needs]
    exact (ofMembers_takes s (boundNames body) false body).map
  | .ifStmt test body orelse s => by
    rw [ofStmt, needs]
    exact (ofStmts_takes body).bind fun _ _ => (ofBlock_takes s orelse).map
  | .matchStmt subject cases s => by
    rw [ofStmt, needs]
    exact (ofCases_takes false cases).map
  | .forLoop target iter body orelse isAsync s => by
    rw [ofStmt, needs]
    exact (ofBlock_takes s body).bind fun _ _ => (ofBlock_takes s orelse).map
  | .whileLoop test body orelse s => by
    rw [ofStmt, needs]
    exact (ofBlock_takes s body).bind fun _ _ => (ofBlock_takes s orelse).map
  | .withStmt items body isAsync s => by
    rw [ofStmt, needs]
    exact (ofBlock_takes s body).map
  | .tryStmt body handlers orelse final isStar s => by
    rw [ofStmt, needs]
    exact (ofBlock_takes s body).bind fun _ _ => (ofHandlers_takes handlers).bind fun _ _ =>
      (ofBlock_takes s orelse).bind fun _ _ => (ofBlock_takes s final).map
  | .expr .. | .returnStmt .. | .delete .. | .assign .. | .augment .. | .annotate .. | .raise .. | .assert ..
  | .importStmt .. | .importFrom .. | .global .. | .nonlocal .. | .pass .. | .breakStmt .. | .continueStmt .. =>
    .pure _

theorem ofStmts_takes : ∀ ss : List Stmt, Takes r (needsAll ss) (ofStmts r ss)
  | [] => .pure []
  | s :: ss => by
    rw [ofStmts, needsAll]
    exact (ofStmt_takes s).bind fun _ _ => (ofStmts_takes ss).map

theorem ofBlock_takes (fallback : Span) : ∀ ss : List Stmt, Takes r (needsAll ss) (ofBlock r fallback ss)
  | [] => .pure []
  | s :: ss => by
    rw [ofBlock, needsAll]
    exact (ofStmt_takes s).bind fun _ _ => (ofStmts_takes ss).map

theorem ofMembers_takes (owner : Span) (declared : List String) : ∀ (hasInit : Bool) (ss : List Stmt),
    Takes r (memberNeeds declared hasInit ss) (ofMembers r owner declared hasInit ss)
  | hasInit, [] => .pure []
  | hasInit, s :: ss => by
    have hss := fun hasInit => ofMembers_takes owner declared hasInit ss
    cases s with
    | function name ps body ds returns isAsync s => exact ofMembers_takes_function (ofStmts_takes body) hss
    | _ => exact ofMembers_takes_other (by simp) (ofStmt_takes _) (hss hasInit)

theorem ofCases_takes (hasDefault : Bool) : ∀ cs : List MatchCase,
    Takes r (caseNeeds cs) (ofCases r hasDefault cs)
  | [] => .pure []
  | .mk pattern guard body :: cs => by
    rw [ofCases, caseNeeds]
    exact (ofStmts_takes body).bind fun _ _ => (ofCases_takes _ cs).map

theorem ofHandlers_takes : ∀ hs : List Handler, Takes r (handlerNeeds hs) (ofHandlers r hs)
  | [] => .pure []
  | .mk type name body s :: hs => by
    rw [ofHandlers, handlerNeeds]
    exact (ofBlock_takes s body).bind fun _ _ => (ofHandlers_takes hs).map

end

theorem ofTopLevel_takes (ss : List Stmt) : Takes r (moduleNeeds ss) (ofTopLevel r ss) := by
  induction ss with
  | nil => exact .pure []
  | cons s ss ih => exact takes_cons Span.unknown (ofStmt_takes s) ih

theorem exists_unwritable {e : Expr} {failure : Failure} (h : decoratorName e = .error failure) :
    ∃ u, failure = .unwritable u := by
  have hwritten : ∀ d : Expr, d.written.mapError .unwritable = .error failure →
      ∃ u, failure = .unwritable u := by
    intro d hd
    cases hw : d.written with
    | ok t =>
      rw [hw] at hd
      cases hd
    | error u =>
      rw [hw] at hd
      exact ⟨u, (Except.error.inj hd).symm⟩
  unfold decoratorName at h
  dsimp only at h
  split at h
  · cases h
  · cases h
  · exact hwritten _ h

section

variable [Interpreter]

/-- A need is met, or its failure is no fault of the source. -/
theorem check_settled (ls : List (List Char)) (n : Need) :
    (n.Met ∧ n.check ⟨ls, readExpression⟩ = .ok ()) ∨
      (¬ n.Met ∧ ∃ e, n.check ⟨ls, readExpression⟩ = .error e ∧ ∀ f, e ≠ .refused (.fault f)) := by
  cases n with
  | typing e =>
    obtain ⟨hsound, m, hm⟩ | ⟨hspoiled, r, hr, hplace⟩ := Typing.read_settled none e
    · exact .inl ⟨hsound, by simp only [Need.check, Reader.typing, hm]; rfl⟩
    · refine .inr ⟨not_not.mpr hspoiled, .refused r, by simp only [Need.check, Reader.typing, hr]; rfl, ?_⟩
      exact fun f hf => hplace f (Failure.refused.inj hf)
  | decorator e =>
    cases hname : decoratorName e with
    | ok name => exact .inl ⟨⟨name, hname⟩, by simp only [Need.check, hname]; rfl⟩
    | error failure =>
      refine .inr ⟨?_, failure, by simp only [Need.check, hname]; rfl, ?_⟩
      · rintro ⟨name, h⟩
        rw [hname] at h
        cases h
      · intro f hf
        obtain ⟨u, hu⟩ := exists_unwritable hname
        rw [hu] at hf
        cases hf

/-- The first need that is not met, with its failure. -/
structure FirstUnmet (r : Reader) (ns : List Need) (e : Failure) : Prop where
  exists_first : ∃ pre n post, ns = pre ++ n :: post ∧ (∀ m ∈ pre, m.Met) ∧ ¬ n.Met ∧ n.check r = .error e
  placeless : ∀ f, e ≠ .refused (.fault f)

theorem forM_check (ls : List (List Char)) (ns : List Need) :
    ((∀ n ∈ ns, n.Met) ∧ forM ns (Need.check ⟨ls, readExpression⟩) = .ok ()) ∨
      ∃ e, FirstUnmet ⟨ls, readExpression⟩ ns e ∧ forM ns (Need.check ⟨ls, readExpression⟩) = .error e := by
  induction ns with
  | nil => exact .inl ⟨by simp, rfl⟩
  | cons n ns ih =>
    rw [List.forM_cons]
    obtain ⟨hmet, hcheck⟩ | ⟨hunmet, e, hcheck, hplace⟩ := check_settled ls n
    · rw [hcheck]
      obtain ⟨hall, hrest⟩ | ⟨e, hfirst, hrest⟩ := ih
      · exact .inl ⟨List.forall_mem_cons.mpr ⟨hmet, hall⟩, hrest⟩
      · obtain ⟨pre, m, post, rfl, hpre, hm⟩ := hfirst.exists_first
        have hbefore : ∀ x ∈ n :: pre, x.Met := List.forall_mem_cons.mpr ⟨hmet, hpre⟩
        exact .inr ⟨e, ⟨⟨n :: pre, m, post, rfl, hbefore, hm⟩, hfirst.placeless⟩, hrest⟩
    · rw [hcheck]
      exact .inr ⟨e, ⟨⟨[], n, ns, rfl, by simp, hunmet, hcheck⟩, hplace⟩, rfl⟩

theorem FirstUnmet.not_met {r : Reader} {ns : List Need} {e : Failure} (h : FirstUnmet r ns e) :
    ¬ ∀ n ∈ ns, n.Met := by
  obtain ⟨pre, n, post, rfl, -, hn, -⟩ := h.exists_first
  exact fun hall => hn (hall n (by simp))

theorem ofSource_of_exhausts {source : String} (h : Interpreter.exhausts source = true) :
    ofSource source = .error .exhausted :=
  if_pos h

theorem ofSource_of_not_read {source : String} {r : Refusal} (hroom : Interpreter.exhausts source = false)
    (h : readModule source = .error r) : ofSource source = .error (.refused r) := by
  rw [ofSource, hroom, h]
  rfl

theorem ofSource_takes {source : String} {body : List Stmt} (hroom : Interpreter.exhausts source = false)
    (h : readModule source = .ok body) :
    Takes (Reader.ofSource source) (moduleNeeds body) (ofSource source) := by
  have hsource : ofSource source =
      ofTopLevel (Reader.ofSource source) body >>= fun items => pure (.module items) := by
    rw [ofSource, hroom, h]
    rfl
  rw [hsource]
  exact (ofTopLevel_takes body).map

/-- A source that is read has an outline, or the first of its needs that is not met ends it. -/
theorem ofSource_of_read {source : String} {body : List Stmt} (hroom : Interpreter.exhausts source = false)
    (h : readModule source = .ok body) :
    ((∀ n ∈ moduleNeeds body, n.Met) ∧ ∃ m, ofSource source = .ok m) ∨
      ∃ e, FirstUnmet (Reader.ofSource source) (moduleNeeds body) e ∧ ofSource source = .error e := by
  have htakes := ofSource_takes hroom h
  obtain ⟨hall, hchecks⟩ | ⟨e, hfirst, hchecks⟩ :=
    forM_check (Excerpt.fullLines source.toList) (moduleNeeds body)
  · obtain ⟨m, hm, -⟩ := map_eq_ok.mp (htakes.trans hchecks)
    exact .inl ⟨hall, m, hm⟩
  · exact .inr ⟨e, hfirst, map_eq_error.mp (htakes.trans hchecks)⟩

/-- How the outline of a source fails: for want of room, as the source is refused, or as the first of its
needs that is not met. -/
inductive Fails (source : String) : Failure → Prop where
  | exhausted (h : Interpreter.exhausts source = true) : Fails source .exhausted
  | refused {r : Refusal} (hroom : Interpreter.exhausts source = false) (h : readModule source = .error r) :
      Fails source (.refused r)
  | unmet {body : List Stmt} {e : Failure} (hroom : Interpreter.exhausts source = false)
      (h : readModule source = .ok body)
      (first : FirstUnmet (Reader.ofSource source) (moduleNeeds body) e) : Fails source e

theorem fails_of_error {source : String} {e : Failure} (h : ofSource source = .error e) :
    Fails source e := by
  cases hroom : Interpreter.exhausts source with
  | true =>
    obtain rfl := Except.error.inj ((ofSource_of_exhausts hroom).symm.trans h)
    exact .exhausted hroom
  | false =>
    cases hread : readModule source with
    | error r =>
      obtain rfl := Except.error.inj ((ofSource_of_not_read hroom hread).symm.trans h)
      exact .refused hroom hread
    | ok body =>
      obtain ⟨-, m, hm⟩ | ⟨e', hfirst, he⟩ := ofSource_of_read hroom hread
      · rw [hm] at h
        cases h
      · obtain rfl := Except.error.inj (he.symm.trans h)
        exact .unmet hroom hread hfirst

/-- Only faults of the source itself are faults of its outline. -/
theorem ofSource_fault_iff (source : String) (f : Fault) :
    ofSource source = .error (.refused (.fault f)) ↔
      Interpreter.exhausts source = false ∧ readModule source = .error (.fault f) := by
  constructor
  · intro h
    cases fails_of_error h with
    | refused hroom hread => exact ⟨hroom, hread⟩
    | unmet _ _ hfirst => exact absurd rfl (hfirst.placeless f)
  · rintro ⟨hroom, hread⟩
    exact ofSource_of_not_read hroom hread

/-- A source that is read has an outline just if there is room and all its needs are met. -/
theorem exists_ofSource_iff {source : String} {body : List Stmt} (h : readModule source = .ok body) :
    (∃ m, ofSource source = .ok m) ↔
      Interpreter.exhausts source = false ∧ ∀ n ∈ moduleNeeds body, n.Met := by
  constructor
  · rintro ⟨m, hm⟩
    cases hroom : Interpreter.exhausts source with
    | true =>
      rw [ofSource_of_exhausts hroom] at hm
      cases hm
    | false =>
      obtain ⟨hall, -⟩ | ⟨e, -, he⟩ := ofSource_of_read hroom h
      · exact ⟨rfl, hall⟩
      · rw [he] at hm
        cases hm
  · rintro ⟨hroom, hall⟩
    obtain ⟨-, hm⟩ | ⟨e, hfirst, -⟩ := ofSource_of_read hroom h
    · exact hm
    · exact absurd hall hfirst.not_met

theorem placed_iff (source : String) :
    (∀ e, ofSource source = .error e → ∃ f, e = .refused (.fault f)) ↔
      Interpreter.exhausts source = false ∧
        ('\x00' ∈ source.toList → Interpreter.nullIsFault = true) ∧
        ∀ body, readModule source = .ok body → ∀ n ∈ moduleNeeds body, n.Met := by
  constructor
  · intro honly
    have hroom : Interpreter.exhausts source = false := by
      by_contra hfull
      obtain ⟨f, hf⟩ := honly _ (ofSource_of_exhausts (eq_true_of_ne_false hfull))
      cases hf
    refine ⟨hroom, fun hnull => ?_, fun body hbody => ?_⟩
    · by_contra hfault
      have hread := (readModule_refused_iff source .nullByte (fun f hf => nomatch hf)).mpr
        ⟨⟨hnull, eq_false_of_ne_true hfault⟩, rfl⟩
      obtain ⟨f, hf⟩ := honly _ (ofSource_of_not_read hroom hread)
      cases hf
    · obtain ⟨hall, -⟩ | ⟨e, hfirst, he⟩ := ofSource_of_read hroom hbody
      · exact hall
      · obtain ⟨f, hf⟩ := honly e he
        exact absurd hf (hfirst.placeless f)
  · rintro ⟨hroom, hnull, hmet⟩ e he
    cases fails_of_error he with
    | exhausted hfull =>
      rw [hroom] at hfull
      cases hfull
    | @refused r _ hread =>
      by_cases hplace : ∃ f, r = .fault f
      · obtain ⟨f, rfl⟩ := hplace
        exact ⟨f, rfl⟩
      · obtain ⟨⟨hzero, hfault⟩, -⟩ := (readModule_refused_iff source r (not_exists.mp hplace)).mp hread
        rw [hnull hzero] at hfault
        cases hfault
    | unmet _ hread hfirst => exact absurd (hmet _ hread) hfirst.not_met

/-- A quoted annotation has a reading if its text is a source and, if that is an expression, so has this. A
text that is a source and no expression tells nothing. -/
theorem typing_string (r : Reader) (hr : r.expression = readExpression) (t : Text) (marked : Bool)
    (s : Span) :
    ((∃ n, r.typing (.constant (.string t marked) s) = .ok n) ↔
      t.IsSource ∧ ∀ e, readExpression t = .ok e → ¬ Typing.Spoiled (some t.length) e) ∧
    ((∀ e, readExpression t ≠ .ok e) →
      (r.typing (.constant (.string t marked) s) = .ok (.hint .any s) ↔ t.IsSource)) := by
  have hquoted : Typing.Shape.ofExpr (.constant (.string t marked) s) = .quoted t := rfl
  have hok : ∀ n, r.typing (.constant (.string t marked) s) = .ok n ↔
      Typing.read readExpression none (.constant (.string t marked) s) = .ok n := by
    intro n
    rw [Reader.typing, hr, mapError_eq_ok]
  refine ⟨?_, fun hnone => ⟨fun h => ?_, fun h => ?_⟩⟩
  · simp only [hok, Typing.exists_read_iff, Typing.spoiled_iff_of_quoted hquoted (Typing.fits_none t), not_or,
      not_not, not_exists, not_and]
  · have hsound := Typing.exists_read_iff.mp ⟨_, (hok _).mp h⟩
    rw [Typing.spoiled_iff_of_quoted hquoted (Typing.fits_none t), not_or, not_not] at hsound
    exact hsound.1
  · rw [hok, Typing.read_of_quoted hquoted, if_pos (Typing.fits_none t)]
    obtain ⟨e, he⟩ | ⟨f, hf⟩ := readExpression_of_isSource h
    · exact absurd he (hnone e)
    · rw [hf]
      rfl

/-- A source fails with faults only, just if there is room for it, null bytes are faults if it has any and, where
it can be read, all that its outline needs is there. -/
theorem failures_placed_iff (source : String) :
    ((∀ e, ofSource source = .error e → ∃ f, e = .refused (.fault f)) ↔
      Interpreter.exhausts source = false ∧
        ('\x00' ∈ source.toList → Interpreter.nullIsFault = true) ∧
        ∀ body, readModule source = .ok body → ∀ n ∈ moduleNeeds body, n.Met) ∧
    (∀ f, ofSource source = .error (.refused (.fault f)) ↔
      Interpreter.exhausts source = false ∧ readModule source = .error (.fault f)) ∧
    (∀ body, readModule source = .ok body →
      ((∃ m, ofSource source = .ok m) ↔
        Interpreter.exhausts source = false ∧ ∀ n ∈ moduleNeeds body, n.Met)) ∧
    (∀ e, ofSource source = .error e → Fails source e) ∧
    ∀ (t : Text) (marked : Bool) (s : Span),
      ((∃ n, (Reader.ofSource source).typing (.constant (.string t marked) s) = .ok n) ↔
        t.IsSource ∧ ∀ e, readExpression t = .ok e → ¬ Typing.Spoiled (some t.length) e) ∧
      ((∀ e, readExpression t ≠ .ok e) →
        ((Reader.ofSource source).typing (.constant (.string t marked) s) = .ok (.hint .any s) ↔
          t.IsSource)) :=
  ⟨placed_iff source, ofSource_fault_iff source, fun _ hbody => exists_ofSource_iff hbody,
    fun _ he => fails_of_error he, fun t marked s => typing_string _ rfl t marked s⟩

end

/-! A class with a quoted annotation whose text is a surrogate, written by an escape. -/

def surrogate : Text := [⟨0xD800, by decide⟩]

def surrogateSource : String := "class Gate:\n    x: '\\ud800'\n"

theorem not_isSource_surrogate [Interpreter] : ¬ surrogate.IsSource := fun h =>
  Bool.false_ne_true (h _ List.mem_cons_self).1.symm

def Need.text? : Need → Option Text
  | typing (.constant (.string t _) _) => some t
  | _ => none

theorem Need.exists_of_text? {n : Need} {t : Text} (h : n.text? = some t) :
    ∃ marked s, n = .typing (.constant (.string t marked) s) := by
  unfold text? at h
  split at h
  · obtain rfl := Option.some.inj h
    exact ⟨_, _, rfl⟩
  · cases h

section

open scoped Interpreter

theorem needs_surrogateSource :
    (readModule surrogateSource).toOption.map (fun body => (moduleNeeds body).map Need.text?) =
      some [some surrogate] := by
  decide +kernel

theorem check_surrogate (r : Reader) (hr : r.expression = readExpression) (marked : Bool) (s : Span) :
    (Need.typing (.constant (.string surrogate marked) s)).check r =
      .error (.refused (.unencodable 0 0 0xD800)) := by
  have hquoted : Typing.Shape.ofExpr (.constant (.string surrogate marked) s) = .quoted surrogate := rfl
  have hrefused : readExpression surrogate = .error (.unencodable 0 0 0xD800) := rfl
  rw [Need.check, Reader.typing, hr, Typing.read_of_quoted hquoted, if_pos (Typing.fits_none _), hrefused]
  rfl

/-- The annotation is all that the outline needs, and has no reading. -/
theorem ofSource_surrogateSource :
    ofSource surrogateSource = .error (.refused (.unencodable 0 0 0xD800)) := by
  obtain ⟨body, hbody, hneeds⟩ := Option.map_eq_some_iff.mp needs_surrogateSource
  obtain ⟨n, hn, htext⟩ := List.map_eq_singleton_iff.mp hneeds
  obtain ⟨marked, s, rfl⟩ := Need.exists_of_text? htext
  have hread : readModule surrogateSource = .ok body := toOption_eq_some.mp hbody
  have htakes := ofSource_takes rfl hread
  rw [hn] at htakes
  refine map_eq_error.mp (htakes.trans ?_)
  rw [List.forM_cons, check_surrogate _ rfl]
  rfl

/-- A surrogate ends an outline without a fault, though the source is read and the text of the annotation is one
that a string can have. -/
theorem refused_at_no_place :
    (¬ ∀ source : String, (∃ m, ofSource source = .ok m) ∨
      ∃ f, ofSource source = .error (.refused (.fault f))) ∧
    ¬ ∀ (source : String) (t : Text) (marked : Bool) (s : Span),
      ∃ n, (Reader.ofSource source).typing (.constant (.string t marked) s) = .ok n := by
  constructor
  · intro h
    rcases h surrogateSource with ⟨m, hm⟩ | ⟨f, hf⟩
    · rw [ofSource_surrogateSource] at hm
      cases hm
    · rw [ofSource_surrogateSource] at hf
      cases hf
  · intro h
    have hreading := (typing_string (Reader.ofSource "") rfl surrogate false ⟨2, 7, 2, 15⟩).1.mp (h "" _ _ _)
    exact not_isSource_surrogate hreading.1

end

end Outline
end BranchCover
