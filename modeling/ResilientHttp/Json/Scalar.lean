import ResilientHttp.Json.Cursor
import ResilientHttp.Text.Hex

/-!
Strings and numbers of JSON text. A string is read to its closing mark with escapes resolved and
must be well-formed UTF-8. A number keeps as many leading digits as fit 64 bits; a whole one that
fits stays whole, any other becomes a binary number by scaling those digits with powers of ten,
one rounding for each step, so that it may differ from the nearest number in the last place.
-/

namespace ResilientHttp.Json

open ResilientHttp.Decimal (Binary Format)

/-- The value of a hexadecimal digit. -/
def hexValue? (octet : UInt8) : Option Nat := Hex.digit? (Char.ofNat octet.toNat)

/-- Whether an octet is a decimal digit. -/
def isDigit (octet : UInt8) : Bool := 0x30 ≤ octet && octet ≤ 0x39

/-- The octets of the character with a number. -/
def octetsOf (scalar : Nat) : Octets := String.utf8EncodeChar (Char.ofNat scalar)

namespace Reader

/-- Four hexadecimal digits. -/
def hexEscape : Reader Nat := fun cursor =>
  match cursor.rest with
  | a :: b :: c :: d :: _ =>
    let cursor := cursor.advance.advance.advance.advance
    match hexValue? a, hexValue? b, hexValue? c, hexValue? d with
    | some a, some b, some c, some d => (.ok (((a * 16 + b) * 16 + c) * 16 + d), cursor)
    | _, _, _, _ => fail .invalidEscape cursor
  | _ => fail .endOfString (cursor.advance.advance.advance)

/-- The next octet of a string, which stays unread. -/
def peekInString : Reader UInt8 := do
  match ← peek with
  | some octet => pure octet
  | none => fail .endOfString

/-- The second half of a surrogate pair, whose first half was read. -/
def lowSurrogate (high : Nat) : Reader Octets := do
  let mark ← peekInString
  skip
  if mark ≠ 0x5C then fail .unfinishedSurrogate
  else
    let mark ← peekInString
    skip
    if mark ≠ 0x75 then fail .unfinishedSurrogate
    else
      let low ← hexEscape
      if low < 0xDC00 ∨ 0xDFFF < low then fail .loneSurrogate
      else pure (octetsOf ((high - 0xD800) * 0x400 + (low - 0xDC00) + 0x10000))

/-- What stands behind a backslash. -/
def escape : Reader Octets := do
  let octet ← peekInString
  skip
  match octet with
  | 0x22 => pure [0x22]
  | 0x5C => pure [0x5C]
  | 0x2F => pure [0x2F]
  | 0x62 => pure [0x08]
  | 0x66 => pure [0x0C]
  | 0x6E => pure [0x0A]
  | 0x72 => pure [0x0D]
  | 0x74 => pure [0x09]
  | 0x75 =>
    let unit ← hexEscape
    if 0xDC00 ≤ unit ∧ unit ≤ 0xDFFF then fail .loneSurrogate
    else if 0xD800 ≤ unit ∧ unit ≤ 0xDBFF then lowSurrogate unit
    else pure (octetsOf unit)
  | _ => fail .invalidEscape

/-- The octets of a string up to its closing mark. -/
def stringOctets : Reader Octets :=
  go []
where
  go (read : Octets) (cursor : Cursor) : Outcome Octets :=
    match _ : cursor.rest with
    | [] => fail .endOfString cursor
    | octet :: _ =>
      if octet = 0x22 then (.ok read.reverse, cursor.advance)
      else if octet = 0x5C then
        match escape cursor.advance with
        | (.error error, behind) => (.error error, behind)
        | (.ok resolved, behind) =>
          if behind.left < cursor.left then go (resolved.reverse ++ read) behind
          else fail .invalidEscape behind
      else if octet < 0x20 then fail .controlCharacter cursor.advance
      else go (octet :: read) cursor.advance
  termination_by cursor.left
  decreasing_by
    · assumption
    · exact Cursor.left_advance ‹_›

/-- The place where a string is found not to be well-formed UTF-8: as far in front of the cursor
behind its closing mark as its octets go on from the first malformed one. -/
def malformedPosition (octets : Octets) (behind : Cursor) : Position :=
  ⟨behind.line, behind.column - (octets.length - Utf8.soundLength octets)⟩

/-- A string whose opening mark was taken. -/
def stringBody : Reader String := fun cursor =>
  match stringOctets cursor with
  | (.error error, behind) => (.error error, behind)
  | (.ok octets, behind) =>
    match Utf8.decode? octets with
    | some text => (.ok text, behind)
    | none => (.error ⟨.invalidUnicode, some (malformedPosition octets behind)⟩, behind)

/-- A string whose opening mark comes next. -/
def quotedString : Reader String := do
  skip
  stringBody

/-- The digits that come next. -/
def digits : Reader Octets := fun cursor =>
  let read := cursor.rest.takeWhile isDigit
  (.ok read, cursor.skip read.length)

end Reader

/-- The greatest number of 64 bits. -/
def maxSignificand : Nat := 18446744073709551615

/-- Digits taken into a number of 64 bits while it has room, and how many were taken. -/
def gather : Nat → Octets → Nat × Nat
  | value, [] => (value, 0)
  | value, digit :: rest =>
    let next := value * 10 + (digit.toNat - 0x30)
    if next > maxSignificand then (value, 0)
    else
      let (total, taken) := gather next rest
      (total, taken + 1)

/-- The binary number nearest to a power of ten, as a quotient. -/
def powerOfTen (power : Nat) : Nat × Nat :=
  match Format.double.nearest (Nat.pow 10 power) 1 with
  | some (significand, exponent) => Binary.quotient significand exponent
  | none => (0, 1)

/-- The greatest power of ten that is a finite number. -/
def maxPower : Nat := 308

/-- A number divided by a power of ten, in steps of the greatest power. -/
def scaleDown (value : Binary) (power : Nat) : Binary :=
  if power ≤ maxPower then value.div .double (powerOfTen power)
  else if value.isZero then value
  else scaleDown (value.div .double (powerOfTen maxPower)) (power - maxPower)
termination_by power
decreasing_by simp only [maxPower] at *; omega

/-- `significand * 10 ^ power`; none if it is too large. -/
def scale (significand : Nat) (power : Int) : Option Binary :=
  let value := Binary.ofNat .double significand
  if 0 ≤ power then
    if power.toNat ≤ maxPower then
      let scaled := value.mul .double (powerOfTen power.toNat)
      if scaled.isInfinite then none else some scaled
    else if value.isZero then some value
    else none
  else some (scaleDown value (-power).toNat)

/-- The greatest exponent that is read digit by digit. -/
def maxExponent : Nat := 2147483647

namespace Reader

/-- A scaled number with its sign, refused if it is too large. -/
def scaled (negative : Bool) (significand : Nat) (power : Int) : Reader Number := do
  match scale significand power with
  | some value => pure (.double (if negative then value.neg else value))
  | none => fail .numberOutOfRange

/-- The digits of an exponent as a number, and the digits left when it has grown too large. -/
def gatherExponent : Nat → Octets → Nat × Option Octets
  | value, [] => (value, none)
  | value, digit :: rest =>
    let next := value * 10 + (digit.toNat - 0x30)
    if next > maxExponent then (value, some rest) else gatherExponent next rest

/-- An exponent and the number it ends; the mark comes next. -/
def exponent (negative : Bool) (significand : Nat) (power : Int) : Reader Number := do
  skip
  let sign ← peek
  if sign = some 0x2B ∨ sign = some 0x2D then skip
  let raises := sign ≠ some 0x2D
  match ← peek with
  | none => fail .endOfValue
  | some octet =>
    if isDigit octet then
      let before : Cursor ← fun cursor => (.ok cursor, cursor)
      let read ← digits
      match gatherExponent 0 read with
      | (value, none) =>
        scaled negative significand (if raises then power + value else power - value)
      | (_, some rest) =>
        if significand ≠ 0 ∧ raises then
          fun _ => fail .numberOutOfRange (before.skip (read.length - rest.length))
        else scaled negative 0 0
    else do
      skip
      fail .invalidNumber

/-- What stands behind the digits that were gathered: perhaps an exponent. -/
def afterDigits (negative : Bool) (significand : Nat) (power : Int) : Reader Number := do
  match ← peek with
  | some 0x65 => exponent negative significand power
  | some 0x45 => exponent negative significand power
  | _ => scaled negative significand power

/-- A fraction and the number it ends; the point comes next. -/
def fraction (negative : Bool) (significand : Nat) (power : Int) : Reader Number := do
  skip
  match ← digits with
  | [] =>
    match ← peek with
    | some _ => failNext .invalidNumber
    | none => failNext .endOfValue
  | read =>
    let (value, taken) := gather significand read
    afterDigits negative value (power - taken)

/-- The whole number of gathered digits: below zero it has to fit 64 bits with a sign, and a zero
with a sign is not whole. -/
def wholeNumber (negative : Bool) (significand : Nat) : Number :=
  if !negative then .whole significand
  else if significand = 0 ∨ significand > 9223372036854775808 then
    .double (Binary.ofNat .double significand).neg
  else .whole (-(significand : Int))

/-- A number behind its sign. -/
def unsigned (negative : Bool) : Reader Number := do
  match ← peek with
  | none => fail .endOfValue
  | some octet =>
    if octet = 0x30 then
      skip
      match ← peek with
      | some next =>
        if isDigit next then failNext .invalidNumber
        else if next = 0x2E then fraction negative 0 0
        else if next = 0x65 ∨ next = 0x45 then exponent negative 0 0
        else pure (wholeNumber negative 0)
      | none => pure (wholeNumber negative 0)
    else if isDigit octet then
      let read ← digits
      let (value, taken) := gather 0 read
      let dropped := read.length - taken
      match ← peek with
      | some 0x2E => fraction negative value dropped
      | some 0x65 => exponent negative value dropped
      | some 0x45 => exponent negative value dropped
      | _ =>
        if dropped = 0 then pure (wholeNumber negative value)
        else scaled negative value dropped
    else do
      skip
      fail .invalidNumber

/-- A number whose first octet comes next. -/
def number : Reader Number := do
  match ← peek with
  | some 0x2D =>
    skip
    unsigned true
  | _ => unsigned false

end Reader
end ResilientHttp.Json
