import BranchCover.Text.Basic
import BranchCover.Text.Printable

/-! Quoted text. `literal` writes a text between quotes of the kind it does not hold, so that it
reads back as a string literal; `escape` prepares a text for a place between double quotes. -/
namespace BranchCover
namespace Quoted

def hexDigit (n : Nat) : Char :=
  if n < 10 then Char.ofNat (n + '0'.toNat) else Char.ofNat (n - 10 + 'a'.toNat)

/-- The last `width` hexadecimal digits of a number. -/
def hex : (width n : Nat) → List Char
  | 0, _ => []
  | width + 1, n => hex width (n / 16) ++ [hexDigit (n % 16)]

@[simp] theorem length_hex (width n : Nat) : (hex width n).length = width := by
  induction width generalizing n with
  | zero => rfl
  | succ width ih => simp [hex, ih]

/-- Single quotes, unless the text holds one of them and no double quote. -/
def quoteFor (t : Text) : Char :=
  if t.any (·.val == 0x27) && !t.any (·.val == 0x22) then '"' else '\''

/-- One code point between quotes `q`; those that are not printable are written by number. -/
def unit (printable : Nat → Bool) (q : Char) (p : CodePoint) : List Char :=
  if p.val == q.toNat || p.val == 0x5C then ['\\', Char.ofNat p.val]
  else if p.val == 0x09 then ['\\', 't']
  else if p.val == 0x0A then ['\\', 'n']
  else if p.val == 0x0D then ['\\', 'r']
  else if printable p.val then [Char.ofNat p.val]
  else if p.val < 0x100 then '\\' :: 'x' :: hex 2 p.val
  else if p.val < 0x10000 then '\\' :: 'u' :: hex 4 p.val
  else '\\' :: 'U' :: hex 8 p.val

/-- A text as a string literal, for any notion of a printable code point. -/
def literalWith (printable : Nat → Bool) (t : Text) : List Char :=
  quoteFor t :: (t.flatMap (unit printable (quoteFor t)) ++ [quoteFor t])

def literal (t : Text) : List Char :=
  literalWith Printable.test t

def ofString (s : String) : String :=
  String.ofList (literal (Text.ofString s))

def byteUnit (q : Char) (b : UInt8) : List Char :=
  let n := b.toNat
  if n == q.toNat || n == 0x5C then ['\\', Char.ofNat n]
  else if n == 0x09 then ['\\', 't']
  else if n == 0x0A then ['\\', 'n']
  else if n == 0x0D then ['\\', 'r']
  else if 0x20 ≤ n && n < 0x7F then [Char.ofNat n]
  else '\\' :: 'x' :: hex 2 n

def bytes (bs : List UInt8) : List Char :=
  let q := if bs.any (· == 0x27) && !bs.any (· == 0x22) then '"' else '\''
  'b' :: q :: (bs.flatMap (byteUnit q) ++ [q])

def escapeChar (c : Char) : List Char :=
  match c with
  | '\\' => ['\\', '\\']
  | '"' => ['\\', '"']
  | '\n' => ['\\', 'n']
  | '\t' => ['\\', 't']
  | '\r' => ['\\', 'r']
  | c => [c]

def escape (s : String) : String :=
  String.ofList (s.toList.flatMap escapeChar)

@[simp] theorem toList_escape (s : String) :
    (escape s).toList = s.toList.flatMap escapeChar := by
  simp [escape]

/-- The characters that are written behind a backslash, each with what stands for it there. -/
def marks : List (Char × Char) :=
  [('\\', '\\'), ('"', '"'), ('\n', 'n'), ('\t', 't'), ('\r', 'r')]

theorem escapeChar_forms (c : Char) : (∃ m, (c, m) ∈ marks ∧ escapeChar c = ['\\', m]) ∨
    (∀ e ∈ marks, c ≠ e.1) ∧ escapeChar c = [c] := by
  unfold escapeChar
  split
  case h_6 hslash hquote hfeed htab hreturn =>
    refine .inr ⟨?_, rfl⟩
    simpa [marks] using ⟨hslash, hquote, hfeed, htab, hreturn⟩
  all_goals exact .inl ⟨_, by decide, rfl⟩

end Quoted
end BranchCover
