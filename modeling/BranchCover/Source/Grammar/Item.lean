import BranchCover.Source.Grammar.Blame
import BranchCover.Source.Scan
import BranchCover.Source.Template
import BranchCover.Text.NormalForm

/-! Names, numbers and strings. Adjacent strings are one literal, which spans all of them; the
fields of a formatted string are read as sources of their own. -/
namespace BranchCover
namespace Source
namespace Grammar

open Parse

def nameToken : Parse (String × Token) := do
  let t ← kind .name
  return (NormalForm.ofName t.text, t)

def plainName : Parse String := do
  return (← nameToken).1

def name : Parse Expr := do
  let (n, t) ← nameToken
  return .name n t.span

def number : Parse Expr := do
  let t ← kind .number
  match Literal.number t.text with
  | .ok c => return .constant c t.span
  | .error digits => complainFrom t.line 0 (.longNumber digits)

inductive Piece where
  | text (t : Text)
  | field (e : Expr)

/-- Pieces as constants and fields; neighbouring texts are joined and empty ones dropped. -/
def joinPieces (marked : Bool) (span : Span) : (pending : Text) → List Piece → List Expr
  | pending, [] => if pending.isEmpty then [] else [.constant (.string pending marked) span]
  | pending, .text t :: ps => joinPieces marked span (pending ++ t) ps
  | pending, .field e :: ps =>
    if pending.isEmpty then e :: joinPieces marked span [] ps
    else .constant (.string pending marked) span :: e :: joinPieces marked span [] ps

def pieceText : List Piece → Text
  | [] => []
  | .text t :: ps => t ++ pieceText ps
  | .field _ :: ps => pieceText ps

structure StringContext where
  /-- Reads the source of a field. -/
  readField : List Char → (line col : Nat) → Parse Expr
  span : Span
  marked : Bool

section

variable [Interpreter]

def unescaped (raw : Bool) (cs : List Char) : Parse Text :=
  if raw then return cs.map CodePoint.ofChar
  else
    match Literal.unescape cs with
    | .ok t => return t
    | .error m => complain (.badEscape s!"(unicode error) {m}")

def orComplain {α : Type} (r : Except Complaint α) : Parse α :=
  match r with
  | .ok a => return a
  | .error c => complain c

/-- The pieces of a formatted string from `i` on, with the position where they end. -/
def pieces (x : StringContext) (t : Template) (token : Token) (level : Nat) :
    (fuel : Nat) → Nat → Parse (List Piece × Nat)
  | 0, i => return ([], i)
  | fuel + 1, i => do
    let ending ← orComplain (t.textEnd (level == 0) (t.stop + 1) i)
    let text ← unescaped t.isRaw (t.slice i ending.stop)
    if ending.more then
      let (rest, j) ← pieces x t token level fuel ending.next
      return (.text text :: rest, j)
    else if t.at? ending.next != some '\x7b' then
      if level != 0 && t.chars[ending.next]? != some '\x7d' then
        complain (.fieldMessage "expecting '\x7d'")
      else return ([.text text], ending.next)
    else if 2 ≤ level then complain (.fieldMessage "expressions nested too deeply")
    else
      let start := ending.next + 1
      let exprEnd ← orComplain (t.fieldEnd (t.stop + 1) none [] start)
      let source := t.slice start exprEnd
      if Template.isBlank source then complain (t.noExpression exprEnd)
      else
        let (line, col) := t.place token.line (token.col.getD 0) ending.next
        let value ← x.readField source line col
        let isShown := t.at? exprEnd == some '='
        let shownEnd := if isShown then t.skipBlanks (t.stop + 1) (exprEnd + 1) else exprEnd
        if t.stop ≤ shownEnd then complain (.fieldMessage "expecting '\x7d'")
        else
          let (conversion, specStart) ←
            if t.at? shownEnd == some '!' then do
              let (c, j) ← orComplain (t.conversion (shownEnd + 1))
              pure (some c, j)
            else pure (none, shownEnd)
          let (format, fieldEnd) ←
            if t.at? specStart == some ':' then
              if t.stop ≤ specStart + 1 then complain (.fieldMessage "expecting '\x7d'")
              else do
                let (parts, j) ← pieces x t token (level + 1) fuel (specStart + 1)
                pure (some (Expr.formatted (joinPieces x.marked x.span [] parts) x.span), j)
            else pure (none, specStart)
          if t.at? fieldEnd != some '\x7d' then complain (.fieldMessage "expecting '\x7d'")
          else
            let conversion :=
              if isShown && conversion.isNone && format.isNone then some 'r' else conversion
            let shown := if isShown then (t.slice start shownEnd).map CodePoint.ofChar else []
            let (rest, j) ← pieces x t token level fuel (fieldEnd + 1)
            return (.text (text ++ shown) :: .field (.field value conversion format x.span) :: rest, j)

inductive StringPart where
  | text (pieces : List Piece) (isFormatted : Bool)
  | bytes (value : List UInt8)

def stringPart (x : StringContext) (token : Token) : Parse StringPart := do
  let body := Literal.body token.text
  if body.isFormatted then
    let cs := token.text.toList
    let t : Template := ⟨cs.toArray, body.skipped + body.chars.length, body.isRaw⟩
    let (ps, _) ← pieces x t token 0 (2 * cs.length + 2) body.skipped
    return .text ps true
  else if body.isBytes then
    if body.chars.any fun c => 0x80 ≤ c.toNat then complainAtToken token .bytesBeyondAscii
    else if body.isRaw then return .bytes (body.chars.map fun c => Literal.byte c.toNat)
    else
      match Literal.unescapeBytes body.chars with
      | .ok bs => return .bytes bs
      | .error m => complain (.badEscape s!"(value error) {m}")
  else return .text [.text (← unescaped body.isRaw body.chars)] false

/-- Reads parts one by one; bytes and text do not mix. -/
def stringParts (x : StringContext) (isBytes : Option Bool) : List Token → Parse (List StringPart)
  | [] => return []
  | token :: tokens => do
    let part ← stringPart x token
    let own := match part with
      | .bytes _ => true
      | .text .. => false
    if isBytes.getD own != own then complain .mixedBytes
    else return part :: (← stringParts x (some own) tokens)

end

def joinParts (x : StringContext) (parts : List StringPart) : Expr :=
  let isBytes := parts.any fun
    | .bytes _ => true
    | .text .. => false
  let isFormatted := parts.any fun
    | .text _ f => f
    | .bytes _ => false
  let ps := parts.flatMap fun
    | .text ps _ => ps
    | .bytes _ => []
  if isBytes then
    .constant (.bytes (parts.flatMap fun
      | .bytes bs => bs
      | .text .. => [])) x.span
  else if isFormatted then .formatted (joinPieces x.marked x.span [] ps) x.span
  else .constant (.string (pieceText ps) x.marked) x.span

/-- Reads the source of a field, put between parentheses. -/
def readField (r : Rules) (cs : List Char) (line col : Nat) : Parse Expr :=
  let source := unifyLineEnds true ('(' :: (cs ++ [')']))
  let (tokens, stop) := scan line source
  let shifted := tokens.map fun t =>
    if t.endLine == line then
      { t with col := t.col.map (· + col), endCol := t.endCol + col }
    else t
  match run (r .starExpressions) ⟨shifted, stop, Sheet.ofSource line col source, false, true⟩ with
  | .ok e => return e
  | .error f => failWith f

def strings [Interpreter] (r : Rules) : Parse Expr :=
  memo .strings do
    let first ← current
    let tokens ← many1 (kind .string)
    let span ← spanFrom first
    let x : StringContext := ⟨readField r, span, first.text.startsWith "u"⟩
    return joinParts x (← stringParts x none tokens)

def keywordConstant : Parse Expr := do
  let t ← current
  let value : Option Constant :=
    if t.isFixed "True" then some (.bool true)
    else if t.isFixed "False" then some (.bool false)
    else if t.isFixed "None" then some .none
    else none
  match value with
  | some c => do
    advance
    return .constant c t.span
  | none => miss

end Grammar
end Source
end BranchCover
