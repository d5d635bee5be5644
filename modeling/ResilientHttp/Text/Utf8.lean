/-!
Text as octets. `encode` writes a string in UTF-8. Reading back is a machine that keeps the
character under way: `pieces` turns octets into characters and malformed runs, where a malformed
run is the longest beginning of a character that cannot be completed. Both readers are views of
`pieces`: `decode?` accepts octets without malformed runs, and `decodeLossy` shows each malformed
run as one replacement character.
-/

namespace ResilientHttp

/-- A sequence of octets: a payload, a header value or a text in UTF-8. -/
abbrev Octets := List UInt8

namespace Utf8

/-- The octets of a text. -/
def encode (text : String) : Octets :=
  text.toList.flatMap String.utf8EncodeChar

/-- What one stretch of octets stands for. -/
inductive Piece where
  | scalar (char : Char)
  | malformed
  deriving DecidableEq, Repr

/-- Where a reader stands: between characters, or inside one with the bits read so far, the
number of octets still to come and the range that the next one has to lie in. -/
inductive State where
  | between
  | inside (bits missing : Nat) (low high : UInt8)
  deriving DecidableEq, Repr

/-- One octet read between characters. The narrow ranges after `E0`, `ED`, `F0` and `F4` exclude
overlong forms, surrogates and numbers above the last character. -/
def lead (octet : UInt8) : List Piece × State :=
  let bits := octet.toNat
  if octet < 0x80 then ([.scalar (Char.ofNat bits)], .between)
  else if octet < 0xC2 then ([.malformed], .between)
  else if octet < 0xE0 then ([], .inside (bits % 32) 1 0x80 0xBF)
  else if octet = 0xE0 then ([], .inside (bits % 16) 2 0xA0 0xBF)
  else if octet = 0xED then ([], .inside (bits % 16) 2 0x80 0x9F)
  else if octet < 0xF0 then ([], .inside (bits % 16) 2 0x80 0xBF)
  else if octet = 0xF0 then ([], .inside (bits % 8) 3 0x90 0xBF)
  else if octet < 0xF4 then ([], .inside (bits % 8) 3 0x80 0xBF)
  else if octet = 0xF4 then ([], .inside (bits % 8) 3 0x80 0x8F)
  else ([.malformed], .between)

/-- One octet read in any state. An octet that cannot continue the character under way ends it as
malformed and is then read on its own. -/
def State.step : State → UInt8 → List Piece × State
  | .between, octet => lead octet
  | .inside bits missing low high, octet =>
    if low ≤ octet ∧ octet ≤ high then
      let bits := bits * 64 + octet.toNat % 64
      if missing ≤ 1 then ([.scalar (Char.ofNat bits)], .between)
      else ([], .inside bits (missing - 1) 0x80 0xBF)
    else
      let (read, state) := lead octet
      (.malformed :: read, state)

/-- The pieces of the octets that follow in a given state. -/
def piecesFrom : State → Octets → List Piece
  | .between, [] => []
  | .inside _ _ _ _, [] => [.malformed]
  | state, octet :: rest =>
    let (read, next) := state.step octet
    read ++ piecesFrom next rest

/-- Octets as characters and malformed runs, in order. -/
def pieces (octets : Octets) : List Piece :=
  piecesFrom .between octets

/-- The number of octets in front of the first malformed run; `sound` of those read so far end a
character. -/
def soundFrom : State → Nat → Nat → Octets → Nat
  | _, sound, _, [] => sound
  | state, sound, read, octet :: rest =>
    let (found, next) := state.step octet
    if found.contains .malformed then sound
    else if next = .between then soundFrom next (read + 1) (read + 1) rest
    else soundFrom next sound (read + 1) rest

/-- The number of octets in front of the first malformed run. -/
def soundLength (octets : Octets) : Nat := soundFrom .between 0 0 octets

/-- The character of a piece, if it is one. -/
def Piece.char? : Piece → Option Char
  | .scalar char => some char
  | .malformed => none

/-- The text of octets that are well-formed UTF-8. -/
def decode? (octets : Octets) : Option String :=
  ((pieces octets).mapM Piece.char?).map String.ofList

/-- The text of any octets, each malformed run shown as the replacement character. -/
def decodeLossy (octets : Octets) : String :=
  String.ofList ((pieces octets).map fun piece => piece.char?.getD '\ufffd')

end Utf8
end ResilientHttp
