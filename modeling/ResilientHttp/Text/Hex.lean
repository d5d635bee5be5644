import ResilientHttp.Text.Utf8

/-!
Octets in hexadecimal: two digits for each octet, in lower case when written and in either case
when read.
-/

namespace ResilientHttp.Hex

/-- A hexadecimal digit in lower case. -/
def digit (value : Nat) : Char :=
  Char.ofNat (if value < 10 then 0x30 + value else 0x57 + value)

/-- The value of a hexadecimal digit. -/
def digit? (char : Char) : Option Nat :=
  let number := char.toNat
  if 0x30 ≤ number ∧ number ≤ 0x39 then some (number - 0x30)
  else if 0x41 ≤ number ∧ number ≤ 0x46 then some (number - 0x37)
  else if 0x61 ≤ number ∧ number ≤ 0x66 then some (number - 0x57)
  else none

/-- Octets as pairs of digits. -/
def encode (octets : Octets) : String :=
  String.ofList (octets.flatMap fun octet => [digit (octet.toNat / 16), digit (octet.toNat % 16)])

/-- The octets of pairs of digits. -/
def decodeChars? : List Char → Option Octets
  | [] => some []
  | high :: low :: later => do
    let octet := UInt8.ofNat ((← digit? high) * 16 + (← digit? low))
    let octets ← decodeChars? later
    some (octet :: octets)
  | _ => none

/-- The octets of a text of pairs of digits. -/
def decode? (text : String) : Option Octets := decodeChars? text.toList

end ResilientHttp.Hex
