import TargetNet.Decimal.Power

/-!
# Binary floating point of 64 bits

A `Binary64` is its bit pattern: a sign, eleven bits of exponent and fifty-two of fraction. Finite
patterns stand for `m · 2 ^ q` (`significand`, `exponent`), and `ofDecimal` finds the pattern nearest
to a decimal number, ties going to an even significand, by exact arithmetic on natural numbers.
-/

namespace TargetNet.Decimal

/-- A floating-point number by its bits. -/
structure Binary64 where
  bits : UInt64
  deriving DecidableEq, Repr, Inhabited

namespace Binary64

/-- The biased exponent, as it stands in the bits. -/
def biased (x : Binary64) : Nat :=
  x.bits.toNat / twoTo 52 % twoTo 11

/-- The fraction bits. -/
def fraction (x : Binary64) : Nat :=
  x.bits.toNat % twoTo 52

/-- Whether the sign bit is set. -/
def isNegative (x : Binary64) : Bool :=
  x.bits.toNat / twoTo 63 == 1

/-- Not a number. -/
def isNaN (x : Binary64) : Bool :=
  x.biased == 2047 && x.fraction != 0

/-- One of the two infinities. -/
def isInfinite (x : Binary64) : Bool :=
  x.biased == 2047 && x.fraction == 0

/-- Either zero. -/
def isZero (x : Binary64) : Bool :=
  x.biased == 0 && x.fraction == 0

/-- The significand `m` of a finite number `m · 2 ^ q`. -/
def significand (x : Binary64) : Nat :=
  if x.biased == 0 then x.fraction else x.fraction + twoTo 52

/-- The exponent `q` of a finite number `m · 2 ^ q`. -/
def exponent (x : Binary64) : Int :=
  if x.biased == 0 then -1074 else (x.biased : Int) - 1075

/-- The number with these parts. -/
def ofParts (negative : Bool) (biased fraction : Nat) : Binary64 :=
  ⟨UInt64.ofNat ((if negative then twoTo 63 else 0) + biased * twoTo 52 + fraction)⟩

/-- An infinity. -/
def infinity (negative : Bool) : Binary64 :=
  ofParts negative 2047 0

/-- The one not-a-number in use. -/
def nan : Binary64 :=
  ofParts false 2047 (twoTo 51)

/-- Equality as numbers: the zeros are equal, and so is not-a-number to itself. -/
def same (x y : Binary64) : Bool :=
  (x.isNaN && y.isNaN) || (!x.isNaN && !y.isNaN && (x.bits == y.bits || (x.isZero && y.isZero)))

/-- A quotient rounded to the nearest whole number, a tie to the even one. -/
def roundDiv (n d : Nat) : Nat :=
  let q := n / d
  let r := n % d
  if 2 * r < d then q else if 2 * r > d then q + 1 else if q % 2 == 0 then q else q + 1

/-- `n / d` in units of `2 ^ q`, rounded. -/
def scaled (n d : Nat) (q : Int) : Nat :=
  if q < 0 then roundDiv (n * twoTo q.natAbs) d else roundDiv n (d * twoTo q.natAbs)

/-- The number nearest to `n / d`, where neither is zero. -/
def ofRatio (negative : Bool) (n d : Nat) : Binary64 :=
  let top : Int := (Nat.log2 n : Int) - Nat.log2 d
  -- `2 ^ (top - 1) < n / d < 2 ^ (top + 1)`: one of two exponents leaves fifty-three bits
  let below : Bool := if top < 0 then n * twoTo top.natAbs < d else n < d * twoTo top.natAbs
  let q : Int := max (-1074) (top - (if below then 53 else 52))
  let m := scaled n d q
  let (m, q) := if m == twoTo 53 then (twoTo 52, q + 1) else (m, q)
  if q > 971 then infinity negative
  else if m < twoTo 52 then ofParts negative 0 m
  else ofParts negative (q + 1075).toNat (m - twoTo 52)

/-- The number nearest to `digits · 10 ^ power`. -/
def ofDecimal (negative : Bool) (digits : Nat) (power : Int) : Binary64 :=
  if digits == 0 then ofParts negative 0 0
  else if power > 400 then infinity negative
  else if power + (Nat.log2 digits : Int) < -1200 then ofParts negative 0 0
  else if power < 0 then ofRatio negative digits (tenTo power.natAbs)
  else ofRatio negative (digits * tenTo power.natAbs) 1

end Binary64

end TargetNet.Decimal
