import BranchCover.Proofs.Named
import BranchCover.Text.NormalForm
import Std.Data.TreeMap.Lemmas

/-! Reading with names in mind. Where every name among the tokens has a property, so has every name in
what a parser reads, and in what it leaves behind to be read again. A parser that explains errors yields
nothing, so this is about readings without explanations. -/
namespace BranchCover
namespace Source

structure Arguments.Named (P : String → Prop) (a : Arguments) : Prop where
  positional : ∀ e ∈ a.positional, e.Named P
  keywords : ∀ k ∈ a.keywords, k.Named P

/-- Every name in what a rule reads has the property. -/
def Rule.Named (P : String → Prop) : (ρ : Rule) → ρ.Result → Prop
  | .closedPattern | .pattern => Pattern.Named P
  | .simpleStmt | .elseIf => Stmt.Named P
  | .block => fun ss => ∀ s ∈ ss, Stmt.Named P s
  | .arguments => Arguments.Named P
  | .misplacedEquals => fun _ => True
  | .expression | .namedExpression | .starExpression | .starExpressions | .disjunction | .inversion
  | .bitwiseOr | .factor | .primary | .strings | .targetPrimary | .starTarget | .starTargets
  | .targetAtom | .singleTarget | .delTarget | .annotatedTarget => Expr.Named P

/-- The property holds of a token that is a name. -/
def Token.Named (P : String → Prop) (t : Token) : Prop :=
  t.kind = .name → P (NormalForm.ofName t.text)

structure Feed.Named (P : String → Prop) (e : Feed) : Prop where
  plain : e.diagnose = false
  tokens : ∀ t ∈ e.tokens, t.Named P

/-- Every name in what is kept has the property. -/
def Memo.Named (P : String → Prop) (m : Memo) : Prop :=
  ∀ (k : Nat × Nat) (ρ : Rule) (a : ρ.Result) (n : Nat),
    m[k]? = some ⟨ρ, some (a, n)⟩ → ρ.Named P a

namespace Memo

variable {P : String → Prop}

theorem named_empty : Memo.Named P ∅ := by
  intro k ρ a n h
  simp at h

theorem Named.insert {m : Memo} (hm : m.Named P) (k : Nat × Nat) {ρ : Rule}
    {o : Option (ρ.Result × Nat)} (ho : ∀ a n, o = some (a, n) → ρ.Named P a) :
    Memo.Named P (Std.TreeMap.insert m k ⟨ρ, o⟩) := by
  intro k' ρ' a n h
  rw [Std.TreeMap.getElem?_insert] at h
  split at h
  · cases h
    exact ho a n rfl
  · exact hm k' ρ' a n h

end Memo

namespace Parse

variable {α β : Type} {P : String → Prop} {p q : Parse α} {Q Q' : α → Prop} {R : β → Prop}
  {f : α → Parse β}

/-- From tokens and results with names of the property, the parser yields what has another one, and it
keeps results with names of the property. -/
def Keeps (P : String → Prop) (p : Parse α) (Q : α → Prop) : Prop :=
  ∀ e s, Feed.Named P e → Memo.Named P s.memo →
    Memo.Named P (p e s).2.memo ∧ ∀ a, (p e s).1 = .done a → Q a

namespace Keeps

theorem mono (hp : Keeps P p Q) (h : ∀ a, Q a → Q' a) : Keeps P p Q' := by
  intro e s he hs
  obtain ⟨hmemo, hyields⟩ := hp e s he hs
  exact ⟨hmemo, fun a ha => h a (hyields a ha)⟩

theorem pure {a : α} (h : Q a) : Keeps P (Pure.pure a) Q := by
  intro e s he hs
  refine ⟨hs, fun b hb => ?_⟩
  cases hb
  exact h

theorem bind (hp : Keeps P p Q) (hf : ∀ a, Q a → Keeps P (f a) R) : Keeps P (p >>= f) R := by
  intro e s he hs
  obtain ⟨hmemo, hyields⟩ := hp e s he hs
  change _ ∧ ∀ b, (Parse.bind p f e s).1 = _ → _
  change Memo.Named P (Parse.bind p f e s).2.memo ∧ _
  unfold Parse.bind
  cases h : p e s with
  | mk r t =>
    rw [h] at hmemo hyields
    cases r with
    | done a => exact hf a (hyields a rfl) e t he hmemo
    | miss => exact ⟨hmemo, fun b hb => nomatch hb⟩
    | fault x => exact ⟨hmemo, fun b hb => nomatch hb⟩

theorem discard (hp : Keeps P p Q) : Keeps P (Functor.discard p) fun _ => True :=
  hp.bind fun _ _ => .pure trivial

theorem skip (hp : Keeps P p Q) {q : Parse β} (hq : Keeps P q R) :
    Keeps P (Functor.discard p >>= fun _ => q) R :=
  hp.discard.bind fun _ _ => hq

theorem orElse (hp : Keeps P p Q) (hq : Keeps P q Q) : Keeps P (p <|> q) Q := by
  intro e s he hs
  obtain ⟨hmemo, hyields⟩ := hp e s he hs
  change Memo.Named P (Parse.orElse p (fun _ => q) e s).2.memo ∧
    ∀ b, (Parse.orElse p (fun _ => q) e s).1 = _ → _
  unfold Parse.orElse
  cases h : p e s with
  | mk r t =>
    rw [h] at hmemo hyields
    cases r with
    | miss => exact hq e _ he hmemo
    | done a => exact ⟨hmemo, hyields⟩
    | fault x => exact ⟨hmemo, hyields⟩

theorem miss : Keeps P Parse.miss Q :=
  fun _ _ _ hs => ⟨hs, fun _ ha => nomatch ha⟩

theorem ite {c : Prop} [Decidable c] (hp : Keeps P p Q) (hq : Keeps P q Q) :
    Keeps P (if c then p else q) Q := by
  split
  · exact hp
  · exact hq

theorem failWith (x : Fault) : Keeps P (Parse.failWith x) Q :=
  fun _ _ _ hs => ⟨hs, fun _ ha => nomatch ha⟩

theorem diagnosis (ps : List (Parse Unit)) : Keeps P (Parse.diagnosis ps) Q := by
  intro e s he hs
  simp only [Parse.diagnosis, he.plain, Bool.false_eq_true, if_false]
  exact ⟨hs, fun _ ha => nomatch ha⟩

theorem current : Keeps P Parse.current (Token.Named P) := by
  intro e s he hs
  unfold Parse.current
  split
  · refine ⟨hs, fun t ht => ?_⟩
    cases ht
    exact he.tokens _ (Array.getElem_mem _)
  · split
    · exact ⟨hs, fun _ ht => nomatch ht⟩
    · refine ⟨hs, fun t ht => ?_⟩
      cases ht
      exact fun hkind => nomatch hkind

theorem advance : Keeps P Parse.advance fun _ => True :=
  fun _ _ _ hs => ⟨hs, fun _ _ => trivial⟩

theorem tokenIf (test : Token → Bool) :
    Keeps P (Parse.tokenIf test) fun t => t.Named P ∧ test t = true := by
  refine current.bind fun t ht => ?_
  by_cases h : test t = true
  · rw [if_pos h]
    exact advance.bind fun _ _ => .pure ⟨ht, h⟩
  · rw [if_neg h]
    exact miss

theorem fixed (text : String) : Keeps P (Parse.fixed text) fun _ => True :=
  (tokenIf _).mono fun _ _ => trivial

theorem soft (text : String) : Keeps P (Parse.soft text) fun _ => True :=
  (tokenIf _).mono fun _ _ => trivial

theorem kind (k : TokenKind) : Keeps P (Parse.kind k) fun t => t.Named P ∧ t.kind = k :=
  (tokenIf _).mono fun _ ⟨ht, hkind⟩ => ⟨ht, eq_of_beq hkind⟩

theorem ahead (hp : Keeps P p Q) : Keeps P (Parse.ahead p) Q := by
  intro e s he hs
  obtain ⟨hmemo, hyields⟩ := hp e s he hs
  unfold Parse.ahead
  cases h : p e s with
  | mk r t =>
    rw [h] at hmemo hyields
    cases r <;> exact ⟨hmemo, hyields⟩

theorem notAhead (hp : Keeps P p Q) : Keeps P (Parse.notAhead p) fun _ => True := by
  intro e s he hs
  obtain ⟨hmemo, -⟩ := hp e s he hs
  unfold Parse.notAhead
  cases h : p e s with
  | mk r t =>
    rw [h] at hmemo
    cases r <;> exact ⟨hmemo, fun _ _ => trivial⟩

theorem optional (hp : Keeps P p Q) : Keeps P (Parse.optional p) fun o => ∀ a ∈ o, Q a :=
  .orElse (hp.bind fun _ ha => .pure (by simpa using ha)) (.pure (by simp))

theorem manyLoop (hp : Keeps P p Q) : ∀ (fuel : Nat) (as : List α), (∀ a ∈ as, Q a) →
    Keeps P (Parse.manyLoop p fuel as) fun bs => ∀ b ∈ bs, Q b
  | 0, as, has => .pure (by simpa using has)
  | fuel + 1, as, has => by
    intro e s he hs
    obtain ⟨hmemo, hyields⟩ := hp e s he hs
    unfold Parse.manyLoop
    cases h : p e s with
    | mk r t =>
      rw [h] at hmemo hyields
      cases r with
      | done a =>
        have hcons : ∀ b ∈ a :: as, Q b := List.forall_mem_cons.mpr ⟨hyields a rfl, has⟩
        exact manyLoop hp fuel (a :: as) hcons e t he hmemo
      | miss =>
        refine ⟨hmemo, fun bs hbs => ?_⟩
        cases hbs
        simpa using has
      | fault x => exact ⟨hmemo, fun bs hbs => nomatch hbs⟩

theorem many (hp : Keeps P p Q) : Keeps P (Parse.many p) fun as => ∀ a ∈ as, Q a :=
  fun e => hp.manyLoop (e.tokens.size + 1) [] (by simp) e

theorem many1 (hp : Keeps P p Q) : Keeps P (Parse.many1 p) fun as => ∀ a ∈ as, Q a :=
  hp.bind fun _ ha => hp.many.bind fun _ has => .pure (List.forall_mem_cons.mpr ⟨ha, has⟩)

theorem sepBy (sep : String) (hp : Keeps P p Q) : Keeps P (Parse.sepBy sep p) fun as => ∀ a ∈ as, Q a :=
  hp.bind fun _ ha => (skip (fixed sep) hp).many.bind fun _ has =>
    .pure (List.forall_mem_cons.mpr ⟨ha, has⟩)

theorem chainLoop {next : α → Parse α} (hnext : ∀ a, Q a → Keeps P (next a) Q) :
    ∀ (fuel : Nat) (a : α), Q a → Keeps P (Parse.chainLoop next fuel a) Q
  | 0, a, ha => .pure ha
  | fuel + 1, a, ha => by
    intro e s he hs
    obtain ⟨hmemo, hyields⟩ := hnext a ha e s he hs
    unfold Parse.chainLoop
    cases h : next a e s with
    | mk r t =>
      rw [h] at hmemo hyields
      cases r with
      | done b => exact chainLoop hnext fuel b (hyields b rfl) e t he hmemo
      | miss =>
        refine ⟨hmemo, fun b hb => ?_⟩
        cases hb
        exact ha
      | fault x => exact ⟨hmemo, fun b hb => nomatch hb⟩

theorem chain (hp : Keeps P p Q) {next : α → Parse α} (hnext : ∀ a, Q a → Keeps P (next a) Q) :
    Keeps P (Parse.chain p next) Q :=
  hp.bind fun a ha e => chainLoop hnext (e.tokens.size + 1) a ha e

theorem memo {ρ : Rule} {p : Parse ρ.Result} (hp : Keeps P p (ρ.Named P)) :
    Keeps P (Parse.memo ρ p) (ρ.Named P) := by
  intro e s he hs
  obtain ⟨hmemo, hyields⟩ := hp e s he hs
  unfold Parse.memo
  split
  · rename_i ρ' result hkept
    split
    · rename_i hρ
      subst hρ
      cases result with
      | none => exact ⟨hs, fun _ ha => nomatch ha⟩
      | some r =>
        refine ⟨hs, fun a ha => ?_⟩
        cases ha
        exact hs _ _ _ _ hkept
    · exact ⟨hmemo, hyields⟩
  · cases h : p e s with
    | mk r t =>
      rw [h] at hmemo hyields
      cases r with
      | done a =>
        refine ⟨hmemo.insert _ ?_, hyields⟩
        rintro b n ⟨⟩
        exact hyields a rfl
      | miss => exact ⟨hmemo.insert _ (fun _ _ h => nomatch h), fun _ ha => nomatch ha⟩
      | fault x => exact ⟨hmemo, hyields⟩

theorem spanFrom (t : Token) : Keeps P (Parse.spanFrom t) fun _ => True :=
  fun _ _ _ hs => ⟨hs, fun _ _ => trivial⟩

theorem withSpan {p : Parse (Span → α)} (hp : Keeps P p fun f => ∀ s, Q (f s)) :
    Keeps P (Parse.withSpan p) Q :=
  current.bind fun t _ => hp.bind fun _ hf => (spanFrom t).bind fun s _ => .pure (hf s)

theorem complainFrom (line offset : Nat) (c : Complaint) :
    Keeps P (Parse.complainFrom line offset c) Q :=
  fun _ _ _ hs => ⟨hs, fun _ ha => nomatch ha⟩

theorem complain (c : Complaint) : Keeps P (Parse.complain c) Q := by
  refine .bind (Q := fun _ => True) (fun _ _ _ hs => ⟨hs, fun _ _ => trivial⟩) fun t _ => ?_
  cases t.col <;> exact complainFrom _ _ c

theorem complainAtToken (t : Token) (c : Complaint) : Keeps P (Parse.complainAtToken t c) Q := by
  unfold Parse.complainAtToken
  cases t.col <;> exact complainFrom _ _ c

theorem complainAt (s : Span) (c : Complaint) : Keeps P (Parse.complainAt s c) Q :=
  complainFrom _ _ c

theorem forced (text : String) : Keeps P (Parse.forced text) fun _ => True := by
  refine current.bind fun t _ => ?_
  by_cases h : t.isFixed text = true
  · rw [if_pos h]
    exact advance.bind fun _ _ => .pure trivial
  · rw [if_neg h]
    exact complainAtToken t _

theorem run (hp : Keeps P p Q) {e : Feed} (he : ∀ t ∈ e.tokens, t.Named P) {a : α}
    (h : Parse.run p e = .ok a) : Q a := by
  obtain ⟨-, hyields⟩ := hp { e with diagnose := false } ⟨0, 0, ∅⟩ ⟨rfl, he⟩ Memo.named_empty
  unfold Parse.run at h
  split at h
  · rename_i b s hb
    cases h
    exact hyields a (by rw [hb])
  · cases h
  · dsimp only at h
    split at h
    · cases h
    · split at h
      · split at h <;> cases h
      · cases h

end Keeps
end Parse

/-- Every rule keeps to names of the property. -/
def Rules.Keep (P : String → Prop) (r : Rules) : Prop :=
  ∀ ρ, Parse.Keeps P (r ρ) (ρ.Named P)

end Source
end BranchCover
