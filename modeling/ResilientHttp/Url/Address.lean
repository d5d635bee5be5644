import ResilientHttp.Text.Quoted

/-!
Numeric hosts. An IPv4 address is one to four numbers between dots, decimal, octal or hexadecimal,
the last of which fills all octets that are left. An IPv6 address is eight groups between colons
of which one longest run of zeros may be left out; the last two groups may be written as an IPv4
address.
-/

namespace ResilientHttp.Url

/-- The value of a digit in a base up to sixteen. -/
def digitIn? (base : Nat) (char : Char) : Option Nat :=
  let number := char.toNat
  let value :=
    if 0x30 ≤ number ∧ number ≤ 0x39 then number - 0x30
    else if 0x61 ≤ number ∧ number ≤ 0x66 then number - 0x57
    else if 0x41 ≤ number ∧ number ≤ 0x46 then number - 0x37
    else base
  if value < base then some value else none

/-- The number that digits in a base stand for. -/
def numberIn? (base : Nat) (digits : List Char) : Option Nat :=
  digits.foldlM (fun total digit => (digitIn? base digit).map (total * base + ·)) 0

/-- One number of an IPv4 address; none if it is not written as one. -/
def addressPart? (text : List Char) : Option Nat :=
  match text with
  | [] => none
  | '0' :: 'x' :: digits => numberIn? 16 digits
  | '0' :: 'X' :: digits => numberIn? 16 digits
  | '0' :: digit :: digits => numberIn? 8 (digit :: digits)
  | digits => numberIn? 10 digits

/-- The parts between the dots of a host, without an empty one at the end. -/
def dotted (host : List Char) : List (List Char) :=
  let parts := host.splitOn '.'
  if parts.getLast? = some [] then parts.dropLast else parts

/-- Whether a host's last part makes it an IPv4 address. -/
def endsInNumber (host : List Char) : Bool :=
  match (dotted host).getLast? with
  | some last =>
    (last ≠ [] && last.all Char.isDigit) || (addressPart? last).isSome
  | none => false

/-- An IPv4 address of numbers: all but the last are octets. -/
def addressOf? (numbers : List Nat) : Option Nat :=
  match numbers.reverse with
  | [] => none
  | last :: firsts =>
    let room := Nat.pow 256 (4 - firsts.length)
    if firsts.length > 3 ∨ last ≥ room ∨ firsts.any (· > 255) then none
    else some (firsts.reverse.foldl (fun total number => total * 256 + number) 0 * room + last)

/-- The IPv4 address of a host. -/
def ipv4? (host : List Char) : Option Nat := do
  let parts := dotted host
  if parts.length > 4 then none
  else addressOf? (← parts.mapM addressPart?)

/-- An IPv4 address as four decimal numbers. -/
def ipv4Text (address : Nat) : String :=
  ".".intercalate ([16777216, 65536, 256, 1].map fun unit => toString (address / unit % 256))

/-- A decimal number of one to three digits that fits an octet and has no zero in front. -/
def octetText? (digits : List Char) : Option Nat :=
  if digits = [] ∨ digits.length > 3 ∨ (digits.head? = some '0' ∧ digits.length > 1) then none
  else (numberIn? 10 digits).bind fun number => if number ≤ 255 then some number else none

/-- One group of an IPv6 address: one to four hexadecimal digits. -/
def group? (digits : List Char) : Option Nat :=
  if digits = [] ∨ digits.length > 4 then none else numberIn? 16 digits

/-- Groups between colons; the last one of an address may be an IPv4 address. -/
def groups? (mayEndDotted : Bool) : List (List Char) → Option (List Nat)
  | [] => some []
  | [last] =>
    if mayEndDotted ∧ last.contains '.' then do
      let octets ← (last.splitOn '.').mapM octetText?
      match octets with
      | [a, b, c, d] => some [a * 256 + b, c * 256 + d]
      | _ => none
    else (group? last).map ([·])
  | part :: rest => do
    let number ← group? part
    let numbers ← groups? mayEndDotted rest
    pure (number :: numbers)

/-- A part of an address on one side of the run that is left out. -/
def side? (mayEndDotted : Bool) (text : List Char) : Option (List Nat) :=
  if text = [] then some [] else groups? mayEndDotted (text.splitOn ':')

/-- Splits at the first double colon. -/
def splitRun : List Char → Option (List Char × List Char)
  | ':' :: ':' :: rest => some ([], rest)
  | char :: rest => (splitRun rest).map fun (before, after) => (char :: before, after)
  | [] => none

/-- The eight groups of an IPv6 address. -/
def ipv6? (text : List Char) : Option (List Nat) :=
  match splitRun text with
  | some (before, after) => do
    let first ← side? false before
    let last ← side? true after
    if first.length + last.length > 7 then none
    else some (first ++ List.replicate (8 - first.length - last.length) 0 ++ last)
  | none => do
    let groups ← groups? true (text.splitOn ':')
    if groups.length = 8 then some groups else none

/-- The length of the run of zeros at the front. -/
def zeroRun (groups : List Nat) : Nat := (groups.takeWhile (· = 0)).length

/-- The start and length of the first longest run of at least two zeros. -/
def longestRun (groups : List Nat) : Option (Nat × Nat) :=
  (List.range groups.length).foldl (fun best start =>
    let length := zeroRun (groups.drop start)
    if length ≥ 2 ∧ length > (best.map Prod.snd).getD 0 then some (start, length) else best) none

/-- An IPv6 address with its longest run of zeros left out. -/
def ipv6Text (groups : List Nat) : String :=
  let between (part : List Nat) := ":".intercalate (part.map Text.hex)
  match longestRun groups with
  | some (start, length) =>
    between (groups.take start) ++ "::" ++ between (groups.drop (start + length))
  | none => between groups

end ResilientHttp.Url
