/-!
# Powers

The powers of two and of ten that number formats are made of.
-/

namespace TargetNet.Decimal

/-- Two to a power. -/
def twoTo (n : Nat) : Nat :=
  Nat.pow 2 n

/-- Ten to a power. -/
def tenTo (n : Nat) : Nat :=
  Nat.pow 10 n

end TargetNet.Decimal
