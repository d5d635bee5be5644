import ResilientHttp.Decimal.Binary

/-!
The shortest decimal that reads back. A finite binary number stands for every real number nearer
to it than to its neighbours; `shortest` picks from that interval the decimal with the fewest
digits, and of those the one nearest to the number. Grids of decimals are tried from coarse to
fine, and on each grid only the two neighbours of the number can be nearest.
-/

namespace ResilientHttp.Decimal

/-- The interval of reals that round to a finite number, in quarters of its last bit: lower end,
the number itself, upper end. Below a power of two the neighbour is half as far away. -/
structure Interval where
  low : Nat
  value : Nat
  high : Nat
  closed : Bool
  deriving DecidableEq, Repr

/-- The rounding interval of a positive finite number. -/
def Interval.of (format : Format) (significand : Nat) (exponent : Int) : Interval where
  low :=
    if significand = Nat.pow 2 (format.precision - 1) ∧ exponent > format.minExponent
    then 4 * significand - 1 else 4 * significand - 2
  value := 4 * significand
  high := 4 * significand + 2
  closed := significand % 2 == 0

/-- The decimal `digits * 10 ^ exponent`. -/
structure Scaled where
  digits : Nat
  exponent : Int
  deriving DecidableEq, Repr

/-- Whether `left` lies below `right`, or at it if ends count. -/
def within (closed : Bool) (left right : Nat) : Bool :=
  if closed then left ≤ right else left < right

/-- The point of the grid of multiples of `10 ^ power` that is nearest to the number and inside
its interval, whose ends are given in units of `2 ^ exponent`. -/
def Interval.onGrid? (interval : Interval) (exponent power : Int) : Option Nat :=
  let up := Nat.pow 2 exponent.toNat * Nat.pow 10 (-power).toNat
  let unit := Nat.pow 2 (-exponent).toNat * Nat.pow 10 power.toNat
  let below := interval.value * up / unit
  let inside (point : Nat) : Bool :=
    within interval.closed (interval.low * up) (point * unit) &&
      within interval.closed (point * unit) (interval.high * up)
  let toBelow := interval.value * up - below * unit
  let toAbove := (below + 1) * unit - interval.value * up
  let belowIsNearer := toBelow < toAbove || (toBelow = toAbove && below % 2 == 0)
  if inside below && inside (below + 1) then some (if belowIsNearer then below else below + 1)
  else if inside below then some below
  else if inside (below + 1) then some (below + 1)
  else none

/-- The first hit on grids of falling powers of ten. -/
def Interval.search (interval : Interval) (exponent : Int) : Nat → Int → Scaled
  | 0, power => ⟨interval.value, power⟩
  | steps + 1, power =>
    match interval.onGrid? exponent power with
    | some digits => ⟨digits, power⟩
    | none => interval.search exponent steps (power - 1)

/-- The number of decimal digits of a natural number. -/
def digitCount (value : Nat) : Nat :=
  (Nat.toDigits 10 value).length

/-- A power of ten that is not below the quotient. -/
def powerAbove (numerator denominator : Nat) : Int :=
  if numerator ≥ denominator then digitCount (numerator / denominator)
  else 2 - (digitCount (denominator / numerator) : Int)

/-- The shortest decimal of a positive finite number; 20 grids reach past 17 digits. -/
def shortest (format : Format) (significand : Nat) (exponent : Int) : Scaled :=
  let (n, d) := Binary.quotient significand exponent
  (Interval.of format significand exponent).search (exponent - 2) 20 (powerAbove n d)

end ResilientHttp.Decimal
