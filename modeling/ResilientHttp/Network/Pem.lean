import ResilientHttp.Text.Utf8

/-!
Armoured texts: sections between a begin line and an end line of the same label, whose content is
written in base 64. Lines outside of sections mean nothing, and neither do sections of an unknown
label. `Pem.sections?` refuses a begin line without its closing dashes, a section that does not
end, and content of a known label that is not base 64. Blanks in base 64 mean nothing, and the last
group may go without its padding.
-/

namespace ResilientHttp.Pem

/-- A section: its label and its content. -/
structure Block where
  label : List Char
  content : Octets
  deriving DecidableEq, Repr

/-- What is known inside a section: its label and the base 64 text so far. -/
structure Opened where
  label : List Char
  written : List Char
  deriving DecidableEq, Repr

/-- The value of a base 64 digit. -/
def digit? (char : Char) : Option Nat :=
  let number := char.toNat
  if 0x41 ≤ number ∧ number ≤ 0x5A then some (number - 0x41)
  else if 0x61 ≤ number ∧ number ≤ 0x7A then some (number - 0x61 + 26)
  else if 0x30 ≤ number ∧ number ≤ 0x39 then some (number - 0x30 + 52)
  else if char = '+' then some 62
  else if char = '/' then some 63
  else none

/-- Blanks and the controls that move along a line or to another one. -/
def isBlank (char : Char) : Bool := char = ' ' || (0x09 ≤ char.toNat && char.toNat ≤ 0x0D)

/-- The octets of base 64 digits in groups of four. A last group of two or three digits gives one
or two octets; the bits beyond them do not matter. -/
def ofDigits? : List Nat → Option Octets
  | [] => some []
  | [_] => none
  | [a, b] => some [UInt8.ofNat ((a * 64 + b) / 16)]
  | [a, b, c] =>
    let bits := (a * 64 + b) * 64 + c
    some [UInt8.ofNat (bits / 1024), UInt8.ofNat (bits / 4)]
  | a :: b :: c :: d :: later => do
    let bits := ((a * 64 + b) * 64 + c) * 64 + d
    let decoded ← ofDigits? later
    some (UInt8.ofNat (bits / 65536) :: UInt8.ofNat (bits / 256) :: UInt8.ofNat bits :: decoded)

/-- The octets of a base 64 text. Padding stands at the end alone, and fills the last group. -/
def decode64? (text : List Char) : Option Octets := do
  let written := text.filter (!isBlank ·)
  let digits := written.takeWhile (· ≠ '=')
  let padding := written.dropWhile (· ≠ '=')
  if padding.all (· = '=') && padding.length ≤ 2 &&
      (padding = [] || (digits.length + padding.length) % 4 == 0) then
    ofDigits? (← digits.mapM digit?)
  else none

/-- The labels whose content is read. -/
def knownLabels : List (List Char) :=
  ["CERTIFICATE", "PUBLIC KEY", "RSA PRIVATE KEY", "PRIVATE KEY", "EC PRIVATE KEY", "X509 CRL",
    "CERTIFICATE REQUEST", "ECHCONFIG"].map String.toList

/-- How a begin line starts. -/
def beginMark : List Char := "-----BEGIN ".toList

/-- How an end line starts. -/
def endMark : List Char := "-----END ".toList

/-- How begin and end lines close. -/
def closing : List Char := "-----".toList

/-- The label of a begin line behind its mark, if it closes with exactly the dashes it should;
blanks between and behind the dashes do not count. -/
def label? (line : List Char) : Option (List Char) :=
  let tail := line.reverse.takeWhile fun char => char = '-' || char = ' '
  if tail.count '-' = closing.length then
    some (line.take (line.length - (tail.reverse.dropWhile (· = ' ')).length))
  else none

/-- Whether a line ends the section of a label. -/
def endsSection (label line : List Char) : Bool := (endMark ++ label ++ closing).isPrefixOf line

/-- The sections of lines, where one may be open already. -/
def sectionsFrom : Option Opened → List (List Char) → Option (List Block)
  | none, [] => some []
  | some _, [] => none
  | opened, line :: later =>
    match beginMark.isPrefixOf? line with
    | some start => do
      let label ← label? start
      sectionsFrom (some ⟨label, (opened.map Opened.written).getD []⟩) later
    | none =>
      match opened with
      | none => sectionsFrom none later
      | some ⟨label, written⟩ =>
        if !endsSection label line then
          sectionsFrom (some ⟨label, written ++ line⟩) later
        else if !knownLabels.contains label then sectionsFrom none later
        else do
          let content ← decode64? written
          let blocks ← sectionsFrom none later
          some (⟨label, content⟩ :: blocks)

/-- The lines of a text. -/
def lines : List Char → List (List Char)
  | [] => [[]]
  | char :: later =>
    if char = '\n' ∨ char = '\r' then [] :: lines later
    else
      match lines later with
      | [] => [[char]]
      | line :: others => (char :: line) :: others

/-- The sections of a text. -/
def sections? (text : String) : Option (List Block) := sectionsFrom none (lines text.toList)

end ResilientHttp.Pem
