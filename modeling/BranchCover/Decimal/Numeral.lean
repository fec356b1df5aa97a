import BranchCover.Decimal.Shortest

/-! Numbers of the analysed programs and their text. -/
namespace BranchCover

inductive Numeral where
  | int (value : Int)
  | real (value : Binary64)
  deriving DecidableEq

structure RealFormat where
  /-- The places of the point that are written positionally lie above this one, -/
  lowest : Int
  /-- and up to this one. -/
  highest : Int
  /-- The least number of digits of an exponent. -/
  exponentWidth : Nat
  /-- Whether a whole number keeps a point and a zero. -/
  keepsPoint : Bool
  infinity : String
  nan : String

namespace RealFormat

/-- Sixteen places before the point and four zeros behind it are written out; an exponent has a
sign and two digits. -/
def standard : RealFormat :=
  ⟨-4, 16, 2, true, "inf", "nan"⟩

/-- The standard layout without a point behind a whole number. -/
def bare : RealFormat :=
  ⟨-4, 16, 2, false, "inf", "nan"⟩

def exponentText (f : RealFormat) (e : Int) : String :=
  let ds := Nat.toDigits 10 e.natAbs
  (if e < 0 then "e-" else "e+") ++ String.ofList (List.replicate (f.exponentWidth - ds.length) '0' ++ ds)

def digitsText (f : RealFormat) (d : Shortest.Digits) : String :=
  if f.lowest < d.point && d.point ≤ f.highest then
    if d.point ≤ 0 then
      "0." ++ String.ofList (List.replicate (-d.point).toNat '0' ++ d.digits)
    else
      let whole := d.digits.take d.point.toNat
      let rest := d.digits.drop d.point.toNat
      String.ofList (whole ++ List.replicate (d.point.toNat - whole.length) '0') ++
        if rest.isEmpty then (if f.keepsPoint then ".0" else "") else "." ++ String.ofList rest
  else
    let tail := d.digits.drop 1
    String.ofList (d.digits.take 1) ++ (if tail.isEmpty then "" else "." ++ String.ofList tail) ++
      f.exponentText (d.point - 1)

def text (f : RealFormat) (x : Binary64) : String :=
  if x.isNaN then f.nan
  else
    (if x.isNegative then "-" else "") ++
      if !x.isFinite then f.infinity
      else if x.significand == 0 then (if f.keepsPoint then "0.0" else "0")
      else f.digitsText (Shortest.digits x)

end RealFormat

namespace Numeral

/-- Decimal text of an integer has at most this many digits. -/
def digitLimit : Nat := 4300

def digitLimitMessage : String :=
  "Exceeds the limit (4300 digits) for integer string conversion; use sys.set_int_max_str_digits() to increase the limit"

def tooLong (n : Int) : Bool :=
  Nat.pow 10 digitLimit ≤ n.natAbs

def intText (n : Int) : List Char :=
  if n < 0 then '-' :: Nat.toDigits 10 n.natAbs else Nat.toDigits 10 n.natAbs

def text? : Numeral → Option (List Char)
  | .int n => if tooLong n then none else some (intText n)
  | .real x => some (RealFormat.standard.text x).toList

def neg : Numeral → Numeral
  | .int n => .int (-n)
  | .real x => .real x.neg

def addOne : Numeral → Numeral
  | .int n => .int (n + 1)
  | .real x => .real x.addOne

end Numeral
end BranchCover
