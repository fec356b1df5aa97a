import BranchCover.Proofs.Keeping
import BranchCover.Source.Grammar.Item

/-! Names, numbers and strings keep to names of a property. The fields of a formatted string are read as
sources of their own, so the property is one of all names that a scan of any text may give. -/
namespace BranchCover
namespace Source

/-- Every name among the tokens of any text has the property. -/
def ScannedNamed (P : String → Prop) : Prop :=
  ∀ (line : Nat) (cs : List Char), ∀ t ∈ (scan line cs).1, t.Named P

namespace Grammar

open Parse

variable {P : String → Prop} {r : Rules}

theorem keeps_nameToken : Keeps P nameToken fun x => P x.1 :=
  (Keeps.kind _).bind fun _ ⟨ht, hkind⟩ => .pure (ht hkind)

theorem keeps_plainName : Keeps P plainName P :=
  keeps_nameToken.bind fun _ hx => .pure hx

theorem keeps_name : Keeps P name (Expr.Named P) :=
  keeps_nameToken.bind fun _ hx => .pure (.name hx)

theorem keeps_number : Keeps P number (Expr.Named P) := by
  refine (Keeps.kind _).bind fun t _ => ?_
  cases Literal.number t.text with
  | ok c => exact .pure .constant
  | error digits => exact .complainFrom _ _ _

def Piece.Named (P : String → Prop) : Piece → Prop
  | .text _ => True
  | .field e => e.Named P

theorem named_joinPieces (marked : Bool) (s : Span) {ps : List Piece} (pending : Text)
    (hps : ∀ p ∈ ps, p.Named P) : ∀ e ∈ joinPieces marked s pending ps, e.Named P := by
  fun_induction joinPieces marked s pending ps with
  | case1 => simp
  | case2 =>
    rw [List.forall_mem_singleton]
    exact .constant
  | case3 pending t ps ih => exact ih fun p hp => hps p (List.mem_cons_of_mem _ hp)
  | case4 pending e ps _ ih =>
    obtain ⟨he, hrest⟩ := List.forall_mem_cons.mp hps
    exact List.forall_mem_cons.mpr ⟨he, ih hrest⟩
  | case5 pending e ps _ ih =>
    obtain ⟨he, hrest⟩ := List.forall_mem_cons.mp hps
    exact List.forall_mem_cons.mpr ⟨.constant, List.forall_mem_cons.mpr ⟨he, ih hrest⟩⟩

theorem keeps_orComplain {α : Type} (x : Except Complaint α) :
    Keeps P (orComplain x) fun _ => True := by
  cases x with
  | ok a => exact .pure trivial
  | error c => exact .complain c

theorem keeps_unescaped [Interpreter] (raw : Bool) (cs : List Char) :
    Keeps P (unescaped raw cs) fun _ => True := by
  unfold unescaped
  split
  · exact .pure trivial
  · split
    · exact .pure trivial
    · exact .complain _

/-- The fields of strings are read by a parser that keeps to the names. -/
def StringContext.Named (P : String → Prop) (x : StringContext) : Prop :=
  ∀ cs line col, Keeps P (x.readField cs line col) (Expr.Named P)

/-- By induction on the fuel: the rest of the string, and the format of a field, are read with less. -/
theorem keeps_pieces [Interpreter] {x : StringContext} (hx : x.Named P) (t : Template) (token : Token)
    (level fuel i : Nat) :
    Keeps P (pieces x t token level fuel i) fun r => ∀ p ∈ r.1, p.Named P := by
  induction fuel generalizing level i with
  | zero => exact .pure (by simp)
  | succ fuel ih =>
    refine (keeps_orComplain _).bind fun ending _ => (keeps_unescaped _ _).bind fun text _ => ?_
    refine .ite ?more <| .ite ?last <| .ite (.complain _) ?field
    case more =>
      exact (ih level ending.next).bind fun _ hrest =>
        .pure (List.forall_mem_cons.mpr ⟨trivial, hrest⟩)
    case last =>
      exact .ite (.complain _) (.pure (List.forall_mem_singleton.mpr trivial))
    refine (keeps_orComplain _).bind fun exprEnd _ => ?_
    extract_lets source isShown shownEnd shown
    refine .ite (.complain _) <| (hx _ _ _).bind fun value hvalue => .ite (.complain _) ?_
    extract_lets converted
    -- a field goes on behind its conversion, whether or not it has one, and so behind its format
    have hconverted : ∀ c, True → Keeps P (converted c) fun r => ∀ p ∈ r.1, p.Named P := by
      rintro ⟨conversion, specStart⟩ -
      dsimp -zeta only [converted]
      extract_lets closed
      have hclosed : ∀ f, (∀ e ∈ f.1, Expr.Named P e) →
          Keeps P (closed f) fun r => ∀ p ∈ r.1, p.Named P := by
        rintro ⟨format, fieldEnd⟩ hformat
        exact .ite (.complain _) <| (ih level _).bind fun _ hrest => .pure <|
          List.forall_mem_cons.mpr ⟨trivial, List.forall_mem_cons.mpr ⟨.field hvalue hformat, hrest⟩⟩
      refine .ite (.ite (Keeps.complain _ |>.bind hclosed) ?format) (Keeps.bind (.pure (by simp)) hclosed)
      refine (ih (level + 1) _).bind fun parts hparts => Keeps.bind (.pure ?_) hclosed
      simpa using Expr.Named.formatted (named_joinPieces _ _ [] hparts)
    exact .ite
      ((keeps_orComplain _).bind fun _ _ => Keeps.bind (.pure trivial) hconverted)
      (Keeps.bind (.pure trivial) hconverted)

def StringPart.Named (P : String → Prop) : StringPart → Prop
  | .text ps _ => ∀ p ∈ ps, p.Named P
  | .bytes _ => True

theorem keeps_stringPart [Interpreter] {x : StringContext} (hx : x.Named P) (token : Token) :
    Keeps P (stringPart x token) (StringPart.Named P) := by
  unfold stringPart
  dsimp only
  split
  · exact (keeps_pieces hx _ token 0 _ _).bind fun ps hps => .pure hps
  split
  · split
    · exact .complainAtToken _ _
    split
    · exact .pure trivial
    · split
      · exact .pure trivial
      · exact .complain _
  · refine (keeps_unescaped _ _).bind fun t _ => .pure ?_
    exact List.forall_mem_singleton.mpr trivial

theorem keeps_stringParts [Interpreter] {x : StringContext} (hx : x.Named P) (tokens : List Token)
    (isBytes : Option Bool) :
    Keeps P (stringParts x isBytes tokens) fun parts => ∀ p ∈ parts, p.Named P := by
  induction tokens generalizing isBytes with
  | nil => exact .pure (by simp)
  | cons token tokens ih =>
    refine (keeps_stringPart hx token).bind fun part hpart => ?_
    extract_lets own
    split
    · exact .complain _
    · exact (ih _).bind fun parts hparts => .pure (List.forall_mem_cons.mpr ⟨hpart, hparts⟩)

theorem named_joinParts (x : StringContext) {parts : List StringPart}
    (hparts : ∀ p ∈ parts, p.Named P) : (joinParts x parts).Named P := by
  unfold joinParts
  dsimp only
  split
  · exact .constant
  split
  · refine .formatted (named_joinPieces _ _ _ fun p hp => ?_)
    obtain ⟨part, hpart, hp⟩ := List.mem_flatMap.mp hp
    cases part with
    | text ps isFormatted => exact hparts _ hpart p hp
    | bytes bs => cases hp
  · exact .constant

theorem keeps_readField (hscan : ScannedNamed P) (h : r.Keep P) (cs : List Char) (line col : Nat) :
    Keeps P (readField r cs line col) (Expr.Named P) := by
  unfold readField
  dsimp only
  split
  · rename_i e he
    refine .pure ((h .starExpressions).run ?_ he)
    intro t ht
    obtain ⟨u, hu, rfl⟩ := Array.mem_map.mp ht
    split
    · exact hscan _ _ u hu
    · exact hscan _ _ u hu
  · exact .failWith _

theorem keeps_strings [Interpreter] (hscan : ScannedNamed P) (h : r.Keep P) :
    Keeps P (strings r) (Expr.Named P) := by
  refine .memo (ρ := .strings) (Keeps.current.bind fun first _ => (Keeps.kind _).many1.bind
    fun tokens _ => (Keeps.spanFrom _).bind fun s _ => ?_)
  have hx : StringContext.Named P ⟨readField r, s, first.text.startsWith "u"⟩ :=
    keeps_readField hscan h
  exact (keeps_stringParts hx _ _).bind fun _ hparts => .pure (named_joinParts _ hparts)

theorem keeps_keywordConstant : Keeps P keywordConstant (Expr.Named P) := by
  refine Keeps.current.bind fun t _ => ?_
  dsimp only
  split
  · exact Keeps.advance.bind fun _ _ => .pure .constant
  · exact .miss

end Grammar
end Source
end BranchCover
