import BranchCover.Decimal.Binary64

/-! The shortest decimal form of a binary number: the fewest digits that read back as the number,
and of those the nearest to it. -/
namespace BranchCover
namespace Shortest

/-- A digit string `d₁d₂…dₙ` and the place `p` of its point: the value is `0.d₁d₂…dₙ * 10 ^ p`. -/
structure Digits where
  digits : List Char
  point : Int
  deriving DecidableEq

/-- The reals that round to a number: everything between `low / unit` and `high / unit`, the ends
included when `closed`; the number itself is `mid / unit`. -/
structure Interval where
  low : Nat
  mid : Nat
  high : Nat
  unit : Nat
  closed : Bool

/-- The interval of a finite number that is not zero. A power of two has its lower neighbour at
half the distance. -/
def interval (x : Binary64) : Interval :=
  let m := x.significand
  let below := if x.fraction == 0 && 1 < x.exponent then 1 else 2
  let up := Nat.pow 2 (x.scale - 1074)
  let unit := 4 * Nat.pow 2 (1074 - x.scale)
  ⟨(4 * m - below) * up, 4 * m * up, (4 * m + 2) * up, unit, m % 2 == 0⟩

def Interval.holds (i : Interval) (n : Nat) (e : Int) : Bool :=
  let value := n * Nat.pow 10 e.toNat * i.unit
  let shift := Nat.pow 10 (-e).toNat
  if i.closed then i.low * shift ≤ value && value ≤ i.high * shift
  else i.low * shift < value && value < i.high * shift

/-- The least `p` with `mid / unit < 10 ^ p`, searched upwards from `p`. -/
def place (mid unit : Nat) : (fuel : Nat) → Int → Int
  | 0, p => p
  | fuel + 1, p =>
    if mid * Nat.pow 10 (-p).toNat < unit * Nat.pow 10 p.toNat then p else place mid unit fuel (p + 1)

/-- On the grid of multiples of `10 ^ e`, the neighbour of the number that lies in the interval and
is nearer; of two equally near ones the even. -/
def onGrid? (i : Interval) (e : Int) : Option Nat :=
  let num := i.mid * Nat.pow 10 (-e).toNat
  let den := i.unit * Nat.pow 10 e.toNat
  let n := num / den
  let rest := num % den
  match i.holds n e, i.holds (n + 1) e with
  | true, true =>
    if 2 * rest < den || (2 * rest == den && n % 2 == 0) then some n else some (n + 1)
  | true, false => some n
  | false, true => some (n + 1)
  | false, false => none

/-- Tries one digit, two digits, and so on up to seventeen. -/
def search (i : Interval) (p : Int) : (fuel : Nat) → (count : Nat) → Nat × Int
  | 0, count => (i.mid * Nat.pow 10 (count - p).toNat / (i.unit * Nat.pow 10 (p - count).toNat), p - count)
  | fuel + 1, count =>
    match onGrid? i (p - count) with
    | some n => (n, p - count)
    | none => search i p fuel (count + 1)

def dropZeros (cs : List Char) : List Char :=
  (cs.reverse.dropWhile (· == '0')).reverse

def digits (x : Binary64) : Digits :=
  let i := interval x
  let r := search i (place i.mid i.unit 700 (-330)) 17 1
  let cs := Nat.toDigits 10 r.1
  ⟨dropZeros cs, cs.length + r.2⟩

end Shortest
end BranchCover
