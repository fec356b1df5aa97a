/-! Binary floating-point numbers, kept by their bits so that equality is decidable and a negative
zero differs from zero. -/
namespace BranchCover

structure Binary64 where
  bits : UInt64
  deriving DecidableEq

namespace Binary64

def ofFloat (x : Float) : Binary64 :=
  ⟨x.toBits⟩

def toFloat (x : Binary64) : Float :=
  Float.ofBits x.bits

def isNegative (x : Binary64) : Bool :=
  x.bits.toNat ≥ Nat.pow 2 63

/-- The biased exponent. -/
def exponent (x : Binary64) : Nat :=
  x.bits.toNat / Nat.pow 2 52 % Nat.pow 2 11

/-- The stored part of the significand. -/
def fraction (x : Binary64) : Nat :=
  x.bits.toNat % Nat.pow 2 52

def isFinite (x : Binary64) : Bool :=
  x.exponent != 2047

def isNaN (x : Binary64) : Bool :=
  x.exponent == 2047 && x.fraction != 0

/-- A finite number is `significand * 2 ^ (scale - 1074)`, its sign apart. -/
def significand (x : Binary64) : Nat :=
  if x.exponent == 0 then x.fraction else x.fraction + Nat.pow 2 52

def scale (x : Binary64) : Nat :=
  x.exponent - 1

def neg (x : Binary64) : Binary64 :=
  ⟨x.bits ^^^ 0x8000000000000000⟩

def addOne (x : Binary64) : Binary64 :=
  ofFloat (x.toFloat + 1.0)

def infinity : Binary64 :=
  ⟨0x7FF0000000000000⟩

def zero : Binary64 :=
  ⟨0⟩

/-- The number nearest to `m * 10 ^ e`; exponents that leave every range are cut off first. -/
def ofDecimal (m : Nat) (e : Int) : Binary64 :=
  let magnitude := (Nat.toDigits 10 m).length + e
  if m == 0 || magnitude < -330 then zero
  else if magnitude > 310 then infinity
  else ofFloat (Float.ofScientific m (e < 0) e.natAbs)

end Binary64
end BranchCover
