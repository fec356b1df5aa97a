import Std.Data.HashMap
import BranchCover.Text.Decomposition

/-! Normalization form KC of names: compatibility decomposition, marks ordered by combining class,
then composition. Two spellings of a name are one name when their normal forms agree. -/
namespace BranchCover
namespace NormalForm

def singleStarts : Array (Nat × Nat) := Decomposition.singles.map fun e => (e.1, e.2.1)

def longerStarts : Array (Nat × Nat) := Decomposition.longer.map fun e => (e.1, e.1)

def classStarts : Array (Nat × Nat) := Decomposition.classes.map fun e => (e.1, e.2.1)

def compositeMap : Std.HashMap (Nat × Nat) Nat :=
  Std.HashMap.ofList (Decomposition.composites.map fun e => ((e.1, e.2.1), e.2.2))

def combiningClass (n : Nat) : Nat :=
  match Ranges.find? classStarts n with
  | some (i, _, hi) => if n ≤ hi then (Decomposition.classes.getD i (0, 0, 0)).2.2 else 0
  | none => 0

def syllableParts (n : Nat) : List Nat :=
  let s := n - 0xAC00
  let parts := [0x1100 + s / 588, 0x1161 + s % 588 / 28]
  if s % 28 == 0 then parts else parts ++ [0x11A7 + s % 28]

def decompose (n : Nat) : List Nat :=
  if n < 0x80 then [n]
  else if 0xAC00 ≤ n && n ≤ 0xD7A3 then syllableParts n
  else
    match Ranges.find? singleStarts n with
    | some (i, lo, hi) =>
      if n ≤ hi then [n - lo + (Decomposition.singles.getD i (0, 0, 0)).2.2]
      else longerParts n
    | none => longerParts n
where
  longerParts (n : Nat) : List Nat :=
    match Ranges.find? longerStarts n with
    | some (i, lo, _) => if n == lo then (Decomposition.longer.getD i (0, [])).2 else [n]
    | none => [n]

/-- Puts a mark behind those of no greater class at the end of `marks`, last mark first. -/
def insertMark (n k : Nat) : List (Nat × Nat) → List (Nat × Nat)
  | [] => [(n, k)]
  | (m, j) :: marks => if j ≤ k then (n, k) :: (m, j) :: marks else (m, j) :: insertMark n k marks

/-- Orders the marks behind each starter by class; the result pairs each value with its class. -/
def order (classOf : Nat → Nat) : (marks : List (Nat × Nat)) → List Nat → List (Nat × Nat)
  | marks, [] => marks.reverse
  | marks, n :: ns =>
    match classOf n with
    | 0 => marks.reverse ++ (n, 0) :: order classOf [] ns
    | k => order classOf (insertMark n k marks) ns

def composite? (a b : Nat) : Option Nat :=
  if 0x1100 ≤ a && a ≤ 0x1112 && 0x1161 ≤ b && b ≤ 0x1175 then
    some (0xAC00 + ((a - 0x1100) * 21 + (b - 0x1161)) * 28)
  else if 0xAC00 ≤ a && a ≤ 0xD7A3 && (a - 0xAC00) % 28 == 0 && 0x11A8 ≤ b && b ≤ 0x11C2 then
    some (a + (b - 0x11A7))
  else compositeMap[(a, b)]?

/-- The composite of a value with the starter before it, unless a mark between them blocks it. -/
def joined? (starter : Option Nat) (marks : List (Nat × Nat)) (n k : Nat) : Option Nat :=
  match starter, marks with
  | some s, [] => composite? s n
  | some s, (_, j) :: _ => if j < k then composite? s n else none
  | none, _ => none

/-- Composes values in turn; `marks` are those that did not join the starter, last mark first. -/
def compose (starter : Option Nat) (marks : List (Nat × Nat)) : List (Nat × Nat) → List Nat
  | [] => starter.toList ++ marks.reverse.map (·.1)
  | (n, k) :: rest =>
    match joined? starter marks n k with
    | some c => compose (some c) marks rest
    | none =>
      if k == 0 then starter.toList ++ marks.reverse.map (·.1) ++ compose (some n) [] rest
      else compose starter ((n, k) :: marks) rest

def ofName (s : String) : String :=
  if s.toList.all (·.toNat < 0x80) then s
  else
    let parts := s.toList.flatMap fun c => decompose c.toNat
    String.ofList ((compose none [] (order combiningClass [] parts)).map Char.ofNat)

end NormalForm
end BranchCover
