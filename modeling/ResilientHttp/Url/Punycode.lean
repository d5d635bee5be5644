/-!
Punycode: labels of any characters written with letters, digits and hyphens. The ASCII characters
stand first; the others follow as distances in a mixed-radix notation whose thresholds adapt to
what was written before. `encode` visits the other characters in ascending order, `decode?` puts
them back one at a time.
-/

namespace ResilientHttp.Url.Punycode

/-- The digit that a value has: letters, then decimal digits. -/
def digitOf (value : Nat) : Char :=
  Char.ofNat (if value < 26 then 0x61 + value else 0x30 + (value - 26))

/-- The value of a digit. -/
def valueOf? (digit : Char) : Option Nat :=
  let number := digit.toNat
  if 0x61 ≤ number ∧ number ≤ 0x7A then some (number - 0x61)
  else if 0x41 ≤ number ∧ number ≤ 0x5A then some (number - 0x41)
  else if 0x30 ≤ number ∧ number ≤ 0x39 then some (number - 0x30 + 26)
  else none

/-- The threshold of the digit at a position. -/
def threshold (position bias : Nat) : Nat :=
  if position ≤ bias then 1 else if position ≥ bias + 26 then 26 else position - bias

theorem threshold_pos (position bias : Nat) : 0 < threshold position bias := by
  unfold threshold; split <;> (try split) <;> omega

theorem threshold_le (position bias : Nat) : threshold position bias ≤ 26 := by
  unfold threshold; split <;> (try split) <;> omega

/-- Divides a distance until it fits the widest window, counting positions. -/
def settle (delta position : Nat) : Nat × Nat :=
  if delta > 455 then settle (delta / 35) (position + 36) else (delta, position)
termination_by delta
decreasing_by exact Nat.div_lt_self (by omega) (by omega)

/-- The bias after a distance was written or read as the `count`-th. -/
def adapt (delta count : Nat) (first : Bool) : Nat :=
  let delta := if first then delta / 700 else delta / 2
  let (delta, position) := settle (delta + delta / count) 0
  position + 36 * delta / (delta + 38)

/-- The digits of a distance. -/
def digitsOf (bias position delta : Nat) : List Char :=
  let limit := threshold position bias
  if delta < limit then [digitOf delta]
  else
    digitOf (limit + (delta - limit) % (36 - limit)) ::
      digitsOf bias (position + 36) ((delta - limit) / (36 - limit))
termination_by delta
decreasing_by
  have positive := threshold_pos position bias
  have small := threshold_le position bias
  calc (delta - threshold position bias) / (36 - threshold position bias)
      ≤ delta - threshold position bias := Nat.div_le_self _ _
    _ < delta := by omega

/-- What has been written: digits, the distance so far, the bias, and how many characters are
placed. -/
structure Writing where
  written : List Char
  delta : Nat
  bias : Nat
  placed : Nat

/-- One character of the label, while the characters with number `current` are placed. -/
def Writing.visit (basic current : Nat) (state : Writing) (char : Char) : Writing :=
  if char.toNat < current then { state with delta := state.delta + 1 }
  else if char.toNat = current then
    { written := state.written ++ digitsOf state.bias 36 state.delta
      delta := 0
      bias := adapt state.delta (state.placed + 1) (state.placed == basic)
      placed := state.placed + 1 }
  else state

/-- Places the characters of ascending numbers. -/
def place (label : List Char) (basic : Nat) : List Nat → Nat → Writing → Writing
  | [], _, state => state
  | current :: rest, reached, state =>
    let state := { state with delta := state.delta + (current - reached) * (state.placed + 1) }
    let state := label.foldl (Writing.visit basic current) state
    place label basic rest (current + 1) { state with delta := state.delta + 1 }

/-- The Punycode of a label. -/
def encode (label : List Char) : List Char :=
  let basic := label.filter (·.toNat < 0x80)
  let others := ((label.filter (·.toNat ≥ 0x80)).map Char.toNat).mergeSort.eraseDups
  let state := place label basic.length others 0x80 ⟨[], 0, 72, basic.length⟩
  (if basic = [] then [] else basic ++ ['-']) ++ state.written

/-- The greatest number that reading counts with. -/
def greatestCount : Nat := 4294967295

/-- Adds the distance that comes first to a total; gives the sum and the digits behind it. -/
def addDistance? (bias : Nat) : Nat → Nat → Nat → List Char → Option (Nat × List Char)
  | _, _, _, [] => none
  | position, weight, total, digit :: rest => do
    let value ← valueOf? digit
    let total := total + value * weight
    let limit := threshold position bias
    if total > greatestCount then none
    else if value < limit then some (total, rest)
    else if weight * (36 - limit) > greatestCount then none
    else addDistance? bias (position + 36) (weight * (36 - limit)) total rest

theorem addDistance?_shorter {bias position weight total : Nat} {digits rest : List Char}
    {value : Nat} (h : addDistance? bias position weight total digits = some (value, rest)) :
    rest.length < digits.length := by
  induction digits generalizing position weight total with
  | nil => simp [addDistance?] at h
  | cons digit tail ih =>
    simp only [addDistance?, bind, Option.bind] at h
    split at h
    · simp at h
    · dsimp only at h
      split at h
      · simp at h
      · split at h
        · simp only [Option.some.injEq, Prod.mk.injEq] at h
          simp [← h.2]
        · split at h
          · simp at h
          · have := ih h
            simp only [List.length_cons]
            omega

/-- Puts the characters of the distances into a label, up to the greatest character. -/
def insertAll (label : List Char) (bias number index : Nat) (digits : List Char) :
    Option (List Char) :=
  if digits = [] then some label
  else
    match h : addDistance? bias 36 1 index digits with
    | none => none
    | some (reached, rest) =>
      let size := label.length + 1
      let number := number + reached / size
      if number > 0x10FFFF ∨ (0xD800 ≤ number ∧ number ≤ 0xDFFF) then none
      else
        let place := reached % size
        have : rest.length < digits.length := addDistance?_shorter h
        insertAll (label.take place ++ Char.ofNat number :: label.drop place)
          (adapt (reached - index) size (index == 0)) number (place + 1) rest
termination_by digits.length

/-- The label of a Punycode text. -/
def decode? (text : List Char) : Option (List Char) :=
  let behind := (text.reverse.takeWhile (· ≠ '-')).reverse
  let basic := text.take (text.length - behind.length - 1)
  if basic.all (·.toNat < 0x80) then insertAll basic 72 0x80 0 behind else none

end ResilientHttp.Url.Punycode
