import ResilientHttp.Text.Hex

/-!
Percent encoding. A set of octets is written as `%` and two hexadecimal digits in capitals, every
other octet as itself; reading back takes `%` with two digits as one octet and leaves any other
`%` alone. The sets grow from the controls to what user names may not hold.
-/

namespace ResilientHttp.Url

/-- A hexadecimal digit in capitals. -/
def hexCapital (value : Nat) : Char :=
  Char.ofNat (if value < 10 then 0x30 + value else 0x37 + value)

/-- An octet written with a percent sign. -/
def percentOctet (octet : UInt8) : List Char :=
  ['%', hexCapital (octet.toNat / 16), hexCapital (octet.toNat % 16)]

/-- Octets with those of a set written with percent signs. -/
def percentEncode (inSet : UInt8 → Bool) (octets : Octets) : List Char :=
  octets.flatMap fun octet =>
    if inSet octet then percentOctet octet else [Char.ofNat octet.toNat]

/-- A character with the octets of a set written with percent signs. -/
def percentChar (inSet : UInt8 → Bool) (char : Char) : List Char :=
  percentEncode inSet (String.utf8EncodeChar char)

/-- Octets with `%` and two digits read as one octet. -/
def percentDecode : Octets → Octets
  | 0x25 :: high :: low :: rest =>
    match Hex.digit? (Char.ofNat high.toNat), Hex.digit? (Char.ofNat low.toNat) with
    | some h, some l => UInt8.ofNat (h * 16 + l) :: percentDecode rest
    | _, _ => 0x25 :: percentDecode (high :: low :: rest)
  | octet :: rest => octet :: percentDecode rest
  | [] => []

/-- Controls and everything above ASCII. -/
def controlSet (octet : UInt8) : Bool := octet < 0x20 || octet ≥ 0x7F

/-- An octet that is one of some ASCII characters. -/
def isOneOf (chars : String) (octet : UInt8) : Bool :=
  chars.toList.any fun char => char.toNat == octet.toNat

/-- What a fragment may not hold. -/
def fragmentSet (octet : UInt8) : Bool := controlSet octet || isOneOf " \"<>\x60" octet

/-- What a query may not hold. -/
def querySet (octet : UInt8) : Bool := controlSet octet || isOneOf " \"#<>" octet

/-- What the query of a special scheme may not hold. -/
def specialQuerySet (octet : UInt8) : Bool := querySet octet || isOneOf "'" octet

/-- What a path may not hold. -/
def pathSet (octet : UInt8) : Bool := fragmentSet octet || isOneOf "#?\x7b\x7d" octet

/-- What a user name or password may not hold. -/
def userSet (octet : UInt8) : Bool := pathSet octet || isOneOf "/:;=@[\\]^|" octet

end ResilientHttp.Url
