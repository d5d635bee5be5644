/-!
Spans and points of time. A `Duration` is a 64-bit count of seconds and a count of nanoseconds
below one second; `mulCapped` multiplies the two parts apart, carries whole seconds over and stops
at the greatest duration. An `Instant` counts the nanoseconds since a clock was started, and
`Duration.toNanos` is the view in which durations are added to instants.
-/

namespace ResilientHttp

/-- Nanoseconds in a second. -/
def nanosPerSecond : Nat := 1000000000

/-- A span of time. -/
structure Duration where
  seconds : UInt64
  nanos : Nat
  nanos_lt : nanos < nanosPerSecond := by decide
  deriving DecidableEq, Repr

/-- Nanoseconds since the clock was started. -/
abbrev Instant := Nat

namespace Duration

/-- No time at all. -/
def zero : Duration := { seconds := 0, nanos := 0 }

/-- The greatest duration. -/
def max : Duration := { seconds := 18446744073709551615, nanos := 999999999 }

/-- The span in nanoseconds. -/
def toNanos (span : Duration) : Nat :=
  span.seconds.toNat * nanosPerSecond + span.nanos

/-- A number of seconds and any number of nanoseconds, whole seconds of which are carried over;
none if the seconds do not fit 64 bits. -/
def ofParts? (seconds : UInt64) (nanos : Nat) : Option Duration :=
  let total := seconds.toNat + nanos / nanosPerSecond
  if total < UInt64.size then
    some
      { seconds := UInt64.ofNat total
        nanos := nanos % nanosPerSecond
        nanos_lt := Nat.mod_lt _ (by decide) }
  else none

/-- A number of milliseconds. -/
def ofMillis (millis : UInt64) : Duration where
  seconds := millis / 1000
  nanos := millis.toNat % 1000 * 1000000
  nanos_lt := by unfold nanosPerSecond; omega

/-- A number of seconds. -/
def ofSeconds (seconds : UInt64) : Duration := { seconds, nanos := 0 }

/-- The product with a factor, or the greatest duration if the seconds do not fit 64 bits. -/
def mulCapped (span : Duration) (factor : Nat) : Duration :=
  let nanos := span.nanos * factor
  let seconds := span.seconds.toNat * factor + nanos / nanosPerSecond
  if seconds < UInt64.size then
    { seconds := UInt64.ofNat seconds
      nanos := nanos % nanosPerSecond
      nanos_lt := Nat.mod_lt _ (by decide) }
  else max

/-- Whether the span is empty. -/
def isZero (span : Duration) : Bool :=
  span.seconds == 0 && span.nanos == 0

/-- `count` written with at least `width` digits. -/
def padded (width count : Nat) : String :=
  let digits := Nat.toDigits 10 count
  String.ofList (List.replicate (width - digits.length) '0' ++ digits)

/-- Seconds, a point and nine digits of nanoseconds. -/
def text (span : Duration) : String :=
  padded 1 span.seconds.toNat ++ "." ++ padded 9 span.nanos

/-- A count of units and a fraction of `width` digits, without the zeros at its end. -/
def fractional (count fraction width : Nat) : String :=
  let digits := (padded width fraction).toList.reverse.dropWhile (· = '0')
  padded 1 count ++ (if digits = [] then "" else "." ++ String.ofList digits.reverse)

/-- The span in the largest unit of which it holds at least one: `30s`, `1.5s`, `5ms`, `0ns`. -/
def describe (span : Duration) : String :=
  if span.seconds ≠ 0 then fractional span.seconds.toNat span.nanos 9 ++ "s"
  else if span.nanos ≥ 1000000 then
    fractional (span.nanos / 1000000) (span.nanos % 1000000) 6 ++ "ms"
  else if span.nanos ≥ 1000 then
    fractional (span.nanos / 1000) (span.nanos % 1000) 3 ++ "µs"
  else fractional span.nanos 0 0 ++ "ns"

end Duration

/-- The instant a number of milliseconds after the clock was started. -/
def Instant.ofMillis (millis : Nat) : Instant := millis * 1000000

/-- Whole milliseconds since the clock was started. -/
def Instant.toMillis (instant : Instant) : Nat := instant / 1000000

end ResilientHttp
