/-! Texts. A string literal may name a surrogate by an escape, so its value is a list of code points and not
always a `String`; everything that is read from a file or printed is one. Of texts that are strings: the pieces
in them, and the words between their white space. -/
namespace BranchCover

/-- A Unicode code point; unlike a character it may be a surrogate. -/
structure CodePoint where
  val : Nat
  isLt : val < 0x110000
  deriving DecidableEq

/-- The value of a string literal. -/
abbrev Text := List CodePoint

namespace CodePoint

def ofChar (c : Char) : CodePoint :=
  ⟨c.toNat, by
    have h := c.valid
    simp only [UInt32.isValidChar, Nat.isValidChar] at h
    have hn : c.toNat = c.val.toNat := rfl
    omega⟩

/-- The character at a code point; a surrogate is none. -/
def toChar? (p : CodePoint) : Option Char :=
  if p.val.isValidChar then some (Char.ofNat p.val) else none

def isSurrogate (p : CodePoint) : Bool :=
  0xD800 ≤ p.val && p.val ≤ 0xDFFF

@[simp] theorem val_ofChar (c : Char) : (ofChar c).val = c.toNat := rfl

@[simp] theorem toChar?_ofChar (c : Char) : (ofChar c).toChar? = some c := by
  have h : c.toNat.isValidChar := c.valid
  simp [toChar?, h]

end CodePoint

namespace Text

def ofString (s : String) : Text :=
  s.toList.map CodePoint.ofChar

/-- The text as a string, when it holds no surrogate. -/
def toString? (t : Text) : Option String :=
  (t.mapM CodePoint.toChar?).map String.ofList

end Text

namespace Piece

/-- Whether the first text stands somewhere in the second. -/
def isIn (p : List Char) : List Char → Bool
  | [] => p.isEmpty
  | c :: cs => p.isPrefixOf (c :: cs) || isIn p cs

def isInString (p s : String) : Bool :=
  isIn p.toList s.toList

def join (sep : List Char) : List (List Char) → List Char
  | [] => []
  | [t] => t
  | t :: ts => t ++ sep ++ join sep ts

end Piece

namespace Blank

/-- White space: the characters of bidirectional class WS, B or S and of category Zs in Unicode 14. -/
def test (c : Char) : Bool :=
  let n := c.toNat
  (9 ≤ n && n ≤ 13) || (28 ≤ n && n ≤ 32) || n == 0x85 || n == 0xA0 || n == 0x1680 ||
    (0x2000 ≤ n && n ≤ 0x200A) || n == 0x2028 || n == 0x2029 || n == 0x202F || n == 0x205F ||
    n == 0x3000

/-- The text without the characters of `p` at either end. -/
def trimBy (p : Char → Bool) (cs : List Char) : List Char :=
  ((cs.dropWhile p).reverse.dropWhile p).reverse

def trim (cs : List Char) : List Char :=
  trimBy test cs

/-- The words of a text: its maximal runs of characters that are not blank. -/
def words (cs : List Char) : List (List Char) :=
  let r := cs.foldr
    (fun c (r : List Char × List (List Char)) =>
      if test c then ([], if r.1.isEmpty then r.2 else r.1 :: r.2) else (c :: r.1, r.2))
    ([], [])
  if r.1.isEmpty then r.2 else r.1 :: r.2

def unwords : List (List Char) → List Char
  | [] => []
  | [w] => w
  | w :: ws => w ++ ' ' :: unwords ws

/-- The text with every run of white space made one space and none at the ends. -/
def collapse (cs : List Char) : List Char :=
  unwords (words cs)

end Blank

end BranchCover
