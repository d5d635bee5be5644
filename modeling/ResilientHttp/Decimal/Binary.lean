/-!
Binary floating-point numbers in exact arithmetic. A finite number is a sign, a significand and an
exponent of two; `Format.nearest` rounds a quotient of natural numbers to the nearest such number,
a tie going to the even significand. Products and quotients of numbers are rounded by the same
function, so every operation here is an equation between natural numbers.
-/

namespace ResilientHttp.Decimal

/-- The shape of a binary format: the bits of a significand, and the least and greatest exponent
of its last bit. -/
structure Format where
  precision : Nat
  minExponent : Int
  maxExponent : Int
  deriving DecidableEq, Repr

/-- The 64-bit format. -/
def Format.double : Format := ⟨53, -1074, 971⟩

/-- The 32-bit format. -/
def Format.single : Format := ⟨24, -149, 104⟩

/-- A binary floating-point number. A finite one is `significand * 2 ^ exponent`. -/
inductive Binary where
  | finite (negative : Bool) (significand : Nat) (exponent : Int)
  | infinite (negative : Bool)
  | nan
  deriving DecidableEq, Repr

/-- The quotient `numerator / (denominator * 2 ^ exponent)` as numerator and denominator. -/
def descale (numerator denominator : Nat) (exponent : Int) : Nat × Nat :=
  (numerator * Nat.pow 2 (-exponent).toNat, denominator * Nat.pow 2 exponent.toNat)

/-- The whole number nearest to a quotient, a tie going to the even one. -/
def divNearest (numerator denominator : Nat) : Nat :=
  let whole := numerator / denominator
  let twice := 2 * (numerator % denominator)
  if twice > denominator ∨ (twice = denominator ∧ whole % 2 = 1) then whole + 1 else whole

/-- The exponent of the last bit that the number nearest to a positive quotient has. -/
def Format.exponentFor (format : Format) (numerator denominator : Nat) : Int :=
  let magnitude : Int := (numerator.log2 : Int) - (denominator.log2 : Int)
  let least := max format.minExponent (magnitude - format.precision)
  let (n, d) := descale numerator denominator least
  if n / d ≥ Nat.pow 2 format.precision then least + 1 else least

/-- The significand and exponent nearest to a quotient; none if it is too large for the format. -/
def Format.nearest (format : Format) (numerator denominator : Nat) : Option (Nat × Int) :=
  if numerator = 0 then some (0, format.minExponent)
  else
    let exponent := format.exponentFor numerator denominator
    let (n, d) := descale numerator denominator exponent
    let rounded := divNearest n d
    let (significand, exponent) :=
      if rounded = Nat.pow 2 format.precision then (Nat.pow 2 (format.precision - 1), exponent + 1)
      else (rounded, exponent)
    if exponent > format.maxExponent then none else some (significand, exponent)

/-- The number nearest to a signed quotient, an infinite one beyond the largest. -/
def Format.round (format : Format) (negative : Bool) (numerator denominator : Nat) : Binary :=
  match format.nearest numerator denominator with
  | some (significand, exponent) => .finite negative significand exponent
  | none => .infinite negative

namespace Binary

/-- The magnitude of a finite number as numerator and denominator. -/
def quotient (significand : Nat) (exponent : Int) : Nat × Nat :=
  (significand * Nat.pow 2 exponent.toNat, Nat.pow 2 (-exponent).toNat)

/-- A finite number times a positive finite number, rounded. -/
def mul (format : Format) : Binary → Nat × Nat → Binary
  | .finite negative significand exponent, (n, d) =>
    let (a, b) := quotient significand exponent
    format.round negative (a * n) (b * d)
  | other, _ => other

/-- A finite number divided by a positive finite number, rounded. -/
def div (format : Format) : Binary → Nat × Nat → Binary
  | value, (n, d) => value.mul format (d, n)

/-- Whether the number is a zero of either sign. -/
def isZero : Binary → Bool
  | .finite _ significand _ => significand == 0
  | _ => false

/-- Whether the number is infinite. -/
def isInfinite : Binary → Bool
  | .infinite _ => true
  | _ => false

/-- The number with its sign changed. -/
def neg : Binary → Binary
  | .finite negative significand exponent => .finite (!negative) significand exponent
  | .infinite negative => .infinite (!negative)
  | .nan => .nan

/-- A whole number in a format. -/
def ofNat (format : Format) (value : Nat) : Binary :=
  format.round false value 1

end Binary
end ResilientHttp.Decimal
