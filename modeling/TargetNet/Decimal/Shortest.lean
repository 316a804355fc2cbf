import TargetNet.Decimal.Binary64
import TargetNet.Decimal.Numeral

/-!
# Shortest decimal text

The decimal with the fewest digits that still reads back as a given floating-point number, the
nearest of those, and an even last digit at a tie. A `Layout` then says how the digits are set out.
-/

namespace TargetNet.Decimal

/-- `floor (log10 (n / d))`, found by comparing with powers of ten around the estimate that the
binary lengths give. -/
def floorLog10 (n d : Nat) : Int :=
  let estimate : Int := ((Nat.log2 n : Int) - Nat.log2 d) * 30103 / 100000
  let reaches (e : Int) : Bool :=
    if e < 0 then n * tenTo e.natAbs ≥ d else n ≥ d * tenTo e.natAbs
  let candidates : List Int := [estimate + 2, estimate + 1, estimate, estimate - 1]
  match candidates.find? reaches with
  | some e => e
  | none => estimate - 2

/-- A finite number other than zero with the interval of reals that round to it, everything over one
denominator. -/
structure Neighbourhood where
  value : Nat
  low : Nat
  high : Nat
  denominator : Nat
  closed : Bool

/-- The neighbourhood of `m · 2 ^ q`. Below a power of two the next number is only half as far. -/
def Neighbourhood.of (m : Nat) (q : Int) : Neighbourhood :=
  let down := if m == twoTo 52 && q > -1074 then 1 else 2
  let up := if q ≥ 0 then twoTo q.natAbs else 1
  let denominator := if q ≥ 0 then 4 else 4 * twoTo q.natAbs
  ⟨4 * m * up, (4 * m - down) * up, (4 * m + 2) * up, denominator, m % 2 == 0⟩

/-- Whether `digits · 10 ^ power` lies in the interval. -/
def Neighbourhood.holds (r : Neighbourhood) (digits : Nat) (power : Int) : Bool :=
  let (x, d) :=
    if power < 0 then (digits * r.denominator, tenTo power.natAbs)
    else (digits * r.denominator * tenTo power.natAbs, 1)
  if r.closed then r.low * d ≤ x && x ≤ r.high * d else r.low * d < x && x < r.high * d

/-- The multiple of `10 ^ power` in the interval that is nearest to the value, if there is one. -/
def Neighbourhood.onGrid (r : Neighbourhood) (power : Int) : Option Nat :=
  let n := if power < 0 then r.value * tenTo power.natAbs else r.value
  let d := if power < 0 then r.denominator else r.denominator * tenTo power.natAbs
  let below := n / d
  let rest := n % d
  match r.holds below power && below != 0, r.holds (below + 1) power with
  | false, false => none
  | true, false => some below
  | false, true => some (below + 1)
  | true, true =>
    if 2 * rest < d then some below
    else if 2 * rest > d then some (below + 1)
    else if below % 2 == 0 then some below else some (below + 1)

/-- Looks on ever finer grids, at most `count` of them. -/
def Neighbourhood.search (r : Neighbourhood) : (count : Nat) → Int → Nat × Int
  | 0, power => (r.value / r.denominator, power)
  | count + 1, power =>
    match r.onGrid power with
    | some digits => (digits, power)
    | none => r.search count (power - 1)

/-- Trailing zeros moved into the power. -/
def stripZeros : (fuel : Nat) → Nat → Int → Nat × Int
  | 0, digits, power => (digits, power)
  | fuel + 1, digits, power =>
    if digits != 0 && digits % 10 == 0 then stripZeros fuel (digits / 10) (power + 1)
    else (digits, power)

/-- The shortest decimal `digits · 10 ^ power` that reads back as the finite number `x`. -/
def Binary64.shortest (x : Binary64) : Nat × Int :=
  if x.significand == 0 then (0, 0)
  else
    let r := Neighbourhood.of x.significand x.exponent
    let (digits, power) := r.search 18 (floorLog10 r.value r.denominator)
    stripZeros 20 digits power

/-- How a number is set out. With the decimal point after the first `place` digits, positional
notation is used while `least < place` and `place ≤ greatest`; outside of it a mantissa with an
exponent. A bound that is missing never ends positional notation. -/
structure Layout where
  least : Option Int
  greatest : Option Int
  nan : String
  infinity : String

/-- Whether positional notation is used at this place. -/
def Layout.positional (layout : Layout) (place : Int) : Bool :=
  (layout.least.all (· < place)) && (layout.greatest.all (place ≤ ·))

/-- The digits of a decimal set out, with at least one digit on each side of the point. -/
def Layout.setOut (layout : Layout) (digits : Nat) (power : Int) : List Char :=
  let ds := ofNat digits
  let place : Int := ds.length + power
  if layout.positional place then
    if 0 ≤ power then ds ++ List.replicate power.toNat '0' ++ ['.', '0']
    else if 0 < place then ds.take place.toNat ++ '.' :: ds.drop place.toNat
    else '0' :: '.' :: (List.replicate place.natAbs '0' ++ ds)
  else
    let mantissa := match ds with
      | [] => []
      | [d] => [d]
      | d :: rest => d :: '.' :: rest
    mantissa ++ 'e' :: ofInt (place - 1)

/-- The text of a number in a layout. -/
def Layout.render (layout : Layout) (x : Binary64) : String :=
  if x.isNaN then layout.nan
  else
    let sign := if x.isNegative then "-" else ""
    if x.isInfinite then sign ++ layout.infinity
    else if x.isZero then sign ++ "0.0"
    else
      let (digits, power) := x.shortest
      sign ++ String.ofList (layout.setOut digits power)

end TargetNet.Decimal
