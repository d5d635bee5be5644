import ResilientHttp.Decimal.Shortest

/-!
The text of a number. `Binary.text?` writes a finite number with its shortest digits: positional
while the leading digit's power of ten lies in the span that `Format.layout` gives for the format,
always with a point, and with a signed exponent otherwise. `Format.ofText?` reads the usual decimal
spellings, rounding once.
-/

namespace ResilientHttp.Decimal

/-- The decimal digits of a natural number. -/
def digitsOf (value : Nat) : List Char :=
  Nat.toDigits 10 value

/-- How a number is laid out: the leading digit's power of ten that is written positionally lies
from `smallest` up to but not including `largest`. -/
structure Layout where
  smallest : Int
  largest : Int
  deriving DecidableEq, Repr

/-- Numbers of 32 bits are positional from `0.000001` to below `1e13`, all others from `0.00001` to
below `1e16`. -/
def Format.layout (format : Format) : Layout := if format = .single then ⟨-6, 13⟩ else ⟨-5, 16⟩

/-- The text of `digits * 10 ^ exponent`. -/
def Layout.render (layout : Layout) (value : Scaled) : List Char :=
  let digits := digitsOf value.digits
  let leading := value.exponent + digits.length - 1
  if layout.smallest ≤ leading ∧ leading < layout.largest then
    if 0 ≤ value.exponent then
      digits ++ List.replicate value.exponent.toNat '0' ++ ['.', '0']
    else if 0 ≤ leading then
      digits.take (leading.toNat + 1) ++ '.' :: digits.drop (leading.toNat + 1)
    else
      ['0', '.'] ++ List.replicate (-leading - 1).toNat '0' ++ digits
  else
    let fraction := if digits.length > 1 then '.' :: digits.drop 1 else []
    let sign := if 0 ≤ leading then '+' else '-'
    digits.take 1 ++ fraction ++ 'e' :: sign :: digitsOf leading.natAbs

/-- The text of a finite number; none for the others. -/
def Binary.text? (format : Format) : Binary → Option String
  | .finite negative significand exponent =>
    let digits :=
      if significand = 0 then ['0', '.', '0']
      else format.layout.render (shortest format significand exponent)
    some (String.ofList (if negative then '-' :: digits else digits))
  | _ => none

/-- The value of decimal digits, most significant first. -/
def ofDigits (digits : List Char) : Nat :=
  digits.foldl (fun value digit => value * 10 + (digit.toNat - '0'.toNat)) 0

/-- A signed whole number in an exponent; none without digits. -/
def exponentOf? : List Char → Option Int
  | '-' :: digits =>
    if digits ≠ [] ∧ digits.all Char.isDigit then some (-(ofDigits digits : Int)) else none
  | '+' :: digits =>
    if digits ≠ [] ∧ digits.all Char.isDigit then some (ofDigits digits) else none
  | digits => if digits ≠ [] ∧ digits.all Char.isDigit then some (ofDigits digits) else none

/-- The unsigned number that a decimal spelling names: digits with at most one point, then an
exponent if there is one. Exponents beyond any format's range are cut short. -/
def Format.ofUnsigned? (format : Format) (text : List Char) : Option Binary := do
  let isMark (c : Char) : Bool := c = 'e' || c = 'E'
  let mantissa := text.takeWhile (!isMark ·)
  let exponent ← match text.dropWhile (!isMark ·) with
    | [] => some 0
    | _ :: rest => exponentOf? rest
  let whole := mantissa.takeWhile (· ≠ '.')
  let fraction := (mantissa.dropWhile (· ≠ '.')).drop 1
  if whole ++ fraction = [] ∨ !(whole ++ fraction).all Char.isDigit then none
  else
    let digits := ofDigits (whole ++ fraction)
    let power := exponent - fraction.length
    let bounded := max (-(whole.length + fraction.length + 400 : Int)) (min 400 power)
    some (format.round false (digits * Nat.pow 10 bounded.toNat)
      (Nat.pow 10 (-bounded).toNat))

/-- The number that a text names, rounded to the format; names of the numbers that are not finite
are read in any case. -/
def Format.ofText? (format : Format) (text : String) : Option Binary :=
  let unsigned? (chars : List Char) : Option Binary :=
    let name := String.ofList (chars.map Char.toLower)
    if name = "inf" ∨ name = "infinity" then some (.infinite false)
    else if name = "nan" then some .nan
    else format.ofUnsigned? chars
  match text.toList with
  | '-' :: chars => (unsigned? chars).map Binary.neg
  | '+' :: chars => unsigned? chars
  | chars => unsigned? chars

end ResilientHttp.Decimal
