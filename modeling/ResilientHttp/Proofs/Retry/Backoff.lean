import Mathlib.Algebra.Order.Ring.Nat
import ResilientHttp.Retry.Policy

/-!
The waits of a policy in exact arithmetic. `Duration.toNanos` tells a duration, and under it a capped
product is the product, or the greatest duration if that is less.

* `Duration.toNanos_mulCapped` — so it is for every span and factor; the seconds alone decide whether the
  product fits.
* `Duration.mulCapped_eq_mulWords` — the same in words of 64 bits, none of which overflows unnoticed.
* `RetryPolicy.delayAfter_exact` — the waits: how long they are, that they double and never shrink.
-/

namespace ResilientHttp

namespace Duration

variable {span other : Duration} {factor : Nat}

/-! ### The view in nanoseconds -/

/-- A duration is told by its nanoseconds. -/
theorem eq_of_toNanos (h : span.toNanos = other.toNanos) : span = other := by
  obtain ⟨seconds, nanos, below⟩ := span
  obtain ⟨seconds', nanos', below'⟩ := other
  simp only [toNanos, nanosPerSecond] at h below below'
  have sameSeconds : seconds = seconds' := UInt64.toNat_inj.mp (by omega)
  have sameNanos : nanos = nanos' := by omega
  subst sameSeconds sameNanos
  rfl

theorem toNanos_max : max.toNanos + 1 = UInt64.size * nanosPerSecond := by decide

/-- The product fits if its seconds do, what is carried over from the nanoseconds included. -/
theorem toNanos_mul_lt_iff :
    span.toNanos * factor < UInt64.size * nanosPerSecond ↔
      span.seconds.toNat * factor + span.nanos * factor / nanosPerSecond < UInt64.size := by
  have apart : span.toNanos * factor =
      span.nanos * factor + span.seconds.toNat * factor * nanosPerSecond := by
    rw [toNanos, Nat.add_mul, Nat.mul_right_comm, Nat.add_comm]
  have positive : 0 < nanosPerSecond := by decide
  rw [apart, ← Nat.div_lt_iff_lt_mul positive, Nat.add_mul_div_right _ _ positive, Nat.add_comm]

/-- A capped product is the product, or the greatest duration if that is less. -/
theorem toNanos_mulCapped (span : Duration) (factor : Nat) :
    (span.mulCapped factor).toNanos = min (span.toNanos * factor) max.toNanos := by
  have greatest := toNanos_max
  rw [mulCapped]
  by_cases fits : span.seconds.toNat * factor + span.nanos * factor / nanosPerSecond < UInt64.size
  · have below := toNanos_mul_lt_iff.mpr fits
    rw [min_eq_left (by omega), if_pos fits]
    simp only [toNanos]
    rw [UInt64.toNat_ofNat_of_lt' fits, Nat.add_mul, Nat.add_mul, Nat.add_assoc, Nat.div_add_mod',
      Nat.mul_right_comm]
  · have above := mt toNanos_mul_lt_iff.mp fits
    rw [min_eq_right (by omega), if_neg fits]

/-! ### The product in words -/

/-- The product of two words, if it is a word. -/
def mulWord? (a b : UInt64) : Option UInt64 :=
  if a.toNat * b.toNat < UInt64.size then some (a * b) else none

/-- The sum of two words, if it is a word. -/
def addWord? (a b : UInt64) : Option UInt64 :=
  if a.toNat + b.toNat < UInt64.size then some (a + b) else none

/-- The nanoseconds of a product before whole seconds are carried over. They are multiplied in a word
without a check. -/
def nanosWord (span : Duration) (factor : UInt32) : UInt64 :=
  UInt64.ofNat span.nanos * factor.toUInt64

/-- The product in words: seconds and nanoseconds are multiplied apart, and the product and the sum of the
seconds are checked. -/
def mulWords? (span : Duration) (factor : UInt32) : Option Duration := do
  let product ← mulWord? span.seconds factor.toUInt64
  let seconds ← addWord? product (span.nanosWord factor / 1000000000)
  some
    { seconds
      nanos := (span.nanosWord factor).toNat % nanosPerSecond
      nanos_lt := Nat.mod_lt _ (by decide) }

/-- The product of the nanoseconds needs no check. -/
theorem toNat_nanosWord (span : Duration) (factor : UInt32) :
    (span.nanosWord factor).toNat = span.nanos * factor.toNat := by
  have nanos := span.nanos_lt
  have small : factor.toNat < UInt32.size := factor.toNat_lt_size
  have below : span.nanos * factor.toNat < nanosPerSecond * UInt32.size :=
    Nat.mul_lt_mul'' nanos small
  simp only [nanosPerSecond, UInt32.size] at nanos below
  rw [nanosWord, UInt64.toNat_mul, UInt64.toNat_ofNat_of_lt' (by simp only [UInt64.size]; omega),
    UInt32.toNat_toUInt64, Nat.mod_eq_of_lt (by omega)]

/-- In words the product is the same. -/
theorem mulCapped_eq_mulWords (span : Duration) (factor : UInt32) :
    span.mulCapped factor.toNat = (span.mulWords? factor).getD max := by
  have carried : (span.nanosWord factor / 1000000000).toNat =
      span.nanos * factor.toNat / nanosPerSecond := by
    rw [UInt64.toNat_div, toNat_nanosWord]
    rfl
  rw [mulCapped, mulWords?, mulWord?, UInt32.toNat_toUInt64]
  by_cases product : span.seconds.toNat * factor.toNat < UInt64.size
  · have exact : (span.seconds * factor.toUInt64).toNat = span.seconds.toNat * factor.toNat := by
      rw [UInt64.toNat_mul, UInt32.toNat_toUInt64, Nat.mod_eq_of_lt product]
    rw [if_pos product, Option.bind_eq_bind, Option.bind_some, addWord?, exact, carried]
    by_cases sum : span.seconds.toNat * factor.toNat + span.nanos * factor.toNat / nanosPerSecond <
        UInt64.size
    · have whole : span.seconds * factor.toUInt64 + span.nanosWord factor / 1000000000 =
          UInt64.ofNat (span.seconds.toNat * factor.toNat +
            span.nanos * factor.toNat / nanosPerSecond) := by
        apply UInt64.toNat_inj.mp
        rw [UInt64.toNat_add, exact, carried, UInt64.toNat_ofNat_of_lt' sum, Nat.mod_eq_of_lt sum]
      simp only [if_pos sum, whole, toNat_nanosWord]
      rfl
    · simp only [if_neg sum]
      rfl
  · rw [if_neg product]
    simp only [if_neg fun sum => product (Nat.lt_of_le_of_lt (Nat.le_add_right _ _) sum)]
    rfl

end Duration

namespace RetryPolicy

variable {policy : RetryPolicy} {attempt earlier later : Nat}

/-! ### The waits -/

theorem delayAfter_of_constant (constant : policy.exponential = false) (attempt : Nat) :
    policy.delayAfter attempt = policy.baseDelay := by
  rw [delayAfter, if_neg (by simp [constant])]

/-- A wait that grows is the base delay, doubled for each attempt up to the sixteenth. -/
theorem toNanos_delayAfter (grows : policy.exponential = true) (attempt : Nat) :
    (policy.delayAfter attempt).toNanos =
      min (policy.baseDelay.toNanos * 2 ^ min attempt 16) Duration.max.toNanos := by
  rw [delayAfter, if_pos grows, Duration.toNanos_mulCapped]
  rfl

/-- The factor of a wait in words: a one that is shifted up once for each attempt, up to the sixteenth. -/
def factorWord (attempt : UInt32) : UInt32 := 1 <<< min attempt 16

theorem toNat_factorWord (attempt : UInt32) :
    (factorWord attempt).toNat = 2 ^ min attempt.toNat 16 := by
  have least : (min attempt 16).toNat = min attempt.toNat 16 := by
    rw [UInt32.toNat_min]
    rfl
  have one : (1 : UInt32).toNat = 1 := rfl
  have small : min attempt.toNat 16 ≤ 16 := Nat.min_le_right _ _
  have fits : 2 ^ min attempt.toNat 16 < 2 ^ 32 := Nat.pow_lt_pow_right (by decide) (by omega)
  rw [factorWord, UInt32.toNat_shiftLeft, least, one, Nat.mod_eq_of_lt (by omega : _ < 32), Nat.shiftLeft_eq,
    Nat.one_mul, Nat.mod_eq_of_lt fits]

/-- A wait is never shorter than the one before it. -/
theorem toNanos_delayAfter_mono (h : earlier ≤ later) :
    (policy.delayAfter earlier).toNanos ≤ (policy.delayAfter later).toNanos := by
  cases grows : policy.exponential with
  | false => rw [delayAfter_of_constant grows, delayAfter_of_constant grows]
  | true =>
      rw [toNanos_delayAfter grows, toNanos_delayAfter grows]
      have exponents : min earlier 16 ≤ min later 16 := min_le_min_right 16 h
      have factors := Nat.pow_le_pow_right (n := 2) (by decide) exponents
      exact min_le_min_right _ (Nat.mul_le_mul_left _ factors)

/-- A longer base delay makes no wait shorter. -/
theorem toNanos_delayAfter_le {longer : Duration}
    (h : policy.baseDelay.toNanos ≤ longer.toNanos) (attempt : Nat) :
    (policy.delayAfter attempt).toNanos ≤
      ({ policy with baseDelay := longer }.delayAfter attempt).toNanos := by
  let slower : RetryPolicy := { policy with baseDelay := longer }
  change (policy.delayAfter attempt).toNanos ≤ (slower.delayAfter attempt).toNanos
  cases grows : policy.exponential with
  | false =>
      have constant : slower.exponential = false := grows
      rwa [delayAfter_of_constant grows, delayAfter_of_constant constant]
  | true =>
      have doubles : slower.exponential = true := grows
      rw [toNanos_delayAfter grows, toNanos_delayAfter doubles]
      exact min_le_min_right _ (Nat.mul_le_mul_right _ h)

/-- Before the sixteenth attempt a wait that is not cut short is twice the one before it. -/
theorem toNanos_delayAfter_succ (grows : policy.exponential = true) (h : attempt < 16)
    (short : policy.delayAfter (attempt + 1) ≠ .max) :
    (policy.delayAfter (attempt + 1)).toNanos = 2 * (policy.delayAfter attempt).toNanos := by
  have next := toNanos_delayAfter grows (attempt + 1)
  have below : (policy.delayAfter (attempt + 1)).toNanos ≠ Duration.max.toNanos :=
    mt Duration.eq_of_toNanos short
  rw [min_eq_left (by omega : attempt + 1 ≤ 16), Nat.pow_succ, ← Nat.mul_assoc] at next
  rw [toNanos_delayAfter grows attempt, min_eq_left (by omega : attempt ≤ 16)]
  omega

theorem delayAfter_of_le (h : 16 ≤ attempt) : policy.delayAfter attempt = policy.delayAfter 16 := by
  rw [delayAfter, delayAfter, doublingLimit, min_eq_right h, min_self]

/-- Without growth every wait is the base delay. With it, the wait after an attempt is that duration, and no
other, which has the nanoseconds of the base delay times two to the attempt's number, sixteen at most, or
those of the greatest duration if they are fewer; computed in words it is the same, and neither the shift of
the factor nor the product of the nanoseconds overflows. So before the sixteenth attempt a wait that is not
cut short is twice the one before it, from there on all are the same, and no wait is shorter than an earlier
one or than one of a shorter base delay. -/
theorem delayAfter_exact (policy : RetryPolicy) :
    (policy.exponential = false → ∀ attempt, policy.delayAfter attempt = policy.baseDelay) ∧
    (policy.exponential = true →
      (∀ attempt span, policy.delayAfter attempt = span ↔
        span.toNanos = min (policy.baseDelay.toNanos * 2 ^ min attempt 16)
          ((2 ^ 64 - 1) * 1000000000 + 999999999)) ∧
      (∀ attempt : UInt32, policy.delayAfter attempt.toNat =
          (policy.baseDelay.mulWords? (factorWord attempt)).getD .max ∧
        (factorWord attempt).toNat = 2 ^ min attempt.toNat 16 ∧
        (policy.baseDelay.nanosWord (factorWord attempt)).toNat =
          policy.baseDelay.nanos * 2 ^ min attempt.toNat 16) ∧
      ∀ attempt < 16, policy.delayAfter (attempt + 1) ≠ .max →
        (policy.delayAfter (attempt + 1)).toNanos = 2 * (policy.delayAfter attempt).toNanos) ∧
    (∀ attempt, 16 ≤ attempt → policy.delayAfter attempt = policy.delayAfter 16) ∧
    (∀ earlier later, earlier ≤ later →
      (policy.delayAfter earlier).toNanos ≤ (policy.delayAfter later).toNanos) ∧
    ∀ longer : Duration, policy.baseDelay.toNanos ≤ longer.toNanos → ∀ attempt,
      (policy.delayAfter attempt).toNanos ≤
        ({ policy with baseDelay := longer }.delayAfter attempt).toNanos := by
  refine ⟨delayAfter_of_constant, fun grows => ⟨?_, ?_, ?_⟩, fun _ => delayAfter_of_le,
    fun _ _ => toNanos_delayAfter_mono, fun _ => toNanos_delayAfter_le⟩
  · intro attempt span
    have exact := toNanos_delayAfter grows attempt
    constructor
    · rintro rfl
      exact exact
    · intro same
      exact Duration.eq_of_toNanos (exact.trans same.symm)
  · intro attempt
    have factor := toNat_factorWord attempt
    refine ⟨?_, factor, ?_⟩
    · rw [← Duration.mulCapped_eq_mulWords, factor, delayAfter, if_pos grows]
      rfl
    · rw [Duration.toNat_nanosWord, factor]
  · intro attempt before short
    exact toNanos_delayAfter_succ grows before short

/-- A base delay of `2 ^ 60` seconds and almost one more can be doubled three times. The fourth wait is cut
short, in words because the seconds do not fit. -/
theorem delayAfter_exact_cut :
    let policy := RetryPolicy.doubling 20 { seconds := 1152921504606846976, nanos := 999999999 }
    policy.delayAfter 3 = { seconds := 9223372036854775815, nanos := 999999992 } ∧
      (policy.delayAfter 3).toNanos = 2 * (policy.delayAfter 2).toNanos ∧
      policy.delayAfter 4 = .max ∧
      policy.baseDelay.mulWords? (factorWord 4) = none ∧
      policy.delayAfter 4294967295 = policy.delayAfter 16 ∧
      (policy.delayAfter 2).toNanos ≤ (policy.delayAfter 4294967295).toNanos ∧
      (policy.delayAfter 4).toNanos ≤ ({ policy with baseDelay := .max }.delayAfter 4).toNanos ∧
      (RetryPolicy.constant 20 .max).delayAfter 4 = .max := by
  intro policy
  obtain ⟨-, grows, late, mono, longer⟩ := delayAfter_exact policy
  obtain ⟨exact, -, doubles⟩ := grows rfl
  obtain ⟨constant, -⟩ := delayAfter_exact (.constant 20 .max)
  exact ⟨(exact 3 _).mpr (by decide), doubles 2 (by decide) (by decide), (exact 4 _).mpr (by decide), by decide,
    late _ (by decide), mono _ _ (by decide), longer .max (by decide) 4, constant rfl 4⟩

end RetryPolicy
end ResilientHttp
