/-! Sets of code points, kept as sorted ranges. A set is written as blank-separated ranges
`lo-hi` or single values in hexadecimal, in increasing order. -/
namespace BranchCover
namespace Ranges

def digit (c : Char) : Nat :=
  if c.isDigit then c.toNat - '0'.toNat
  else if c.isUpper then c.toNat - 'A'.toNat + 10
  else c.toNat - 'a'.toNat + 10

def number (cs : List Char) : Nat :=
  cs.foldl (fun n c => 16 * n + digit c) 0

/-- Pieces between the characters that satisfy `p`; empty pieces are dropped. -/
def pieces (p : Char → Bool) (cs : List Char) : List (List Char) :=
  let r := cs.foldr
    (fun c (r : List Char × List (List Char)) =>
      if p c then ([], if r.1.isEmpty then r.2 else r.1 :: r.2) else (c :: r.1, r.2))
    ([], [])
  if r.1.isEmpty then r.2 else r.1 :: r.2

def range (cs : List Char) : Nat × Nat :=
  match pieces (· == '-') cs with
  | [lo, hi] => (number lo, number hi)
  | lo :: _ => (number lo, number lo)
  | [] => (1, 0)

def ofString (s : String) : Array (Nat × Nat) :=
  ((pieces (· == ' ') s.toList).map range).toArray

/-- The number of ranges in `a[lo..hi)` that start at or before `n`, plus `lo`. -/
def rank (a : Array (Nat × Nat)) (n : Nat) : (fuel lo hi : Nat) → Nat
  | 0, lo, _ => lo
  | fuel + 1, lo, hi =>
    if lo < hi then
      let mid := (lo + hi) / 2
      if (a.getD mid (0, 0)).1 ≤ n then rank a n fuel (mid + 1) hi else rank a n fuel lo mid
    else lo

/-- The last range that starts at or before `n`, with its index. -/
def find? (a : Array (Nat × Nat)) (n : Nat) : Option (Nat × Nat × Nat) :=
  match rank a n (a.size + 1) 0 a.size with
  | 0 => none
  | i + 1 => (a[i]?).map fun r => (i, r)

def contains (a : Array (Nat × Nat)) (n : Nat) : Bool :=
  match find? a n with
  | some (_, _, hi) => n ≤ hi
  | none => false

end Ranges
end BranchCover
