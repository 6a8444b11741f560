/-!
# Double-precision numbers

A number is kept as the 64 bits of its interchange format: one sign bit, eleven
exponent bits and fifty-two fraction bits.  A finite one is `significand * 2 ^
scale` up to its sign, so that its text can be computed in exact arithmetic.
-/

namespace SqlStatement

structure Binary64 where
  bits : UInt64

namespace Binary64

def fraction (x : Binary64) : Nat :=
  x.bits.toNat % Nat.pow 2 52

def exponentField (x : Binary64) : Nat :=
  x.bits.toNat / Nat.pow 2 52 % Nat.pow 2 11

def isNegative (x : Binary64) : Bool :=
  decide (Nat.pow 2 63 ≤ x.bits.toNat)

/-- The exponent field is all ones exactly for the infinities and the values
that are no number. -/
def isFinite (x : Binary64) : Bool :=
  x.exponentField != 2047

def isNaN (x : Binary64) : Bool :=
  x.exponentField == 2047 && x.fraction != 0

def isZero (x : Binary64) : Bool :=
  x.exponentField == 0 && x.fraction == 0

/-- The leading bit is implied, except in the values next to zero. -/
def significand (x : Binary64) : Nat :=
  if x.exponentField = 0 then x.fraction else Nat.pow 2 52 + x.fraction

def scale (x : Binary64) : Int :=
  if x.exponentField = 0 then -1074 else (x.exponentField : Int) - 1075

/-- Numeric equality: the two zeros are equal, and what is no number equals
nothing. -/
protected def beq (x y : Binary64) : Bool :=
  !x.isNaN && !y.isNaN && (x.bits == y.bits || (x.isZero && y.isZero))

instance : BEq Binary64 := ⟨Binary64.beq⟩

end Binary64

end SqlStatement
