import ResilientHttp.Http.Status
import ResilientHttp.Json.Decoder
import ResilientHttp.Time.Duration
import ResilientHttp.Url.Reading

/-!
Retry policies. A policy tells how often a failed exchange is tried again, how long to wait before
each retry, which statuses count as failures, and which endpoints take turns with the target of
the request: attempt after attempt the rotation goes through the target and the endpoints in
order, and begins again behind the last one.
-/

namespace ResilientHttp

/-- Status codes in ascending order, each once. -/
structure StatusSet where
  codes : List UInt16
  sorted : codes.Pairwise (· < ·)
  deriving DecidableEq, Repr

namespace StatusSet

/-- No status codes. -/
def empty : StatusSet := ⟨[], .nil⟩

/-- Codes with one code put in its place. -/
def insertCode (code : UInt16) : List UInt16 → List UInt16
  | [] => [code]
  | other :: later =>
    if code = other then other :: later
    else if code < other then code :: other :: later
    else other :: insertCode code later

/-- What is among the codes after an insertion: the new one and the old ones. -/
theorem mem_insertCode {code other : UInt16} {codes : List UInt16} :
    other ∈ insertCode code codes ↔ other = code ∨ other ∈ codes := by
  induction codes with
  | nil => simp [insertCode]
  | cons first later ih =>
    simp only [insertCode]
    split
    · subst_vars; simp
    · split
      · simp
      · simp [ih, or_left_comm]

/-- An insertion keeps the codes in ascending order. -/
theorem sorted_insertCode (code : UInt16) {codes : List UInt16}
    (sorted : codes.Pairwise (· < ·)) : (insertCode code codes).Pairwise (· < ·) := by
  induction codes with
  | nil => simp [insertCode]
  | cons first later ih =>
    obtain ⟨above, rest⟩ := List.pairwise_cons.1 sorted
    simp only [insertCode]
    split
    · exact sorted
    · split
      · rename_i below
        refine List.pairwise_cons.2 ⟨fun other mem => ?_, sorted⟩
        rcases List.mem_cons.1 mem with h | h
        · exact h ▸ below
        · exact UInt16.lt_trans below (above other h)
      · rename_i ne notBelow
        refine List.pairwise_cons.2 ⟨fun other mem => ?_, ih rest⟩
        rcases mem_insertCode.1 mem with h | h
        · subst h
          exact Std.lt_of_le_of_ne (UInt16.not_lt.1 notBelow) (Ne.symm ne)
        · exact above other h

/-- The set with a code. -/
def insert (set : StatusSet) (code : UInt16) : StatusSet :=
  ⟨insertCode code set.codes, sorted_insertCode code set.sorted⟩

/-- The set of the codes of a list. -/
def ofList (codes : List UInt16) : StatusSet := codes.foldl insert empty

/-- Whether a status is in the set. -/
def contains (set : StatusSet) (status : Status) : Bool := set.codes.contains status.code

/-- The codes between braces. -/
def describe (set : StatusSet) : String :=
  Text.enclosed "\x7b" "\x7d" (set.codes.map fun code => toString code.toNat)

end StatusSet

/-- When and where a failed exchange is tried again. -/
structure RetryPolicy where
  /-- How many retries may follow the first attempt. -/
  maxAttempts : UInt32
  /-- The wait before the first retry. -/
  baseDelay : Duration
  /-- Whether the wait doubles from retry to retry. -/
  exponential : Bool
  /-- The statuses that count as failures. -/
  statuses : StatusSet
  /-- The endpoints that take turns with the target. -/
  endpoints : List String
  /-- Whether retries are logged. -/
  logging : Bool
  deriving DecidableEq, Repr

namespace RetryPolicy

/-- Three retries with growing waits for statuses that tell of overload or of a failing server. -/
def default : RetryPolicy where
  maxAttempts := 3
  baseDelay := .ofMillis 250
  exponential := true
  statuses := .ofList [429, 500, 502, 503, 504]
  endpoints := []
  logging := false

/-- A number of retries with waits that double. -/
def doubling (maxAttempts : UInt32) (baseDelay : Duration) : RetryPolicy :=
  { default with maxAttempts, baseDelay, exponential := true }

/-- A number of retries with the same wait before each. -/
def constant (maxAttempts : UInt32) (delay : Duration) : RetryPolicy :=
  { default with maxAttempts, baseDelay := delay, exponential := false }

/-- The policy with other statuses. -/
def withStatuses (policy : RetryPolicy) (codes : List UInt16) : RetryPolicy :=
  { policy with statuses := .ofList codes }

/-- The policy with more endpoints behind those that it has. -/
def withFailover (policy : RetryPolicy) (endpoints : List String) : RetryPolicy :=
  { policy with endpoints := policy.endpoints ++ endpoints }

/-- The policy with logging switched. -/
def withLogging (policy : RetryPolicy) (logging : Bool) : RetryPolicy := { policy with logging }

/-- Whether a status counts as a failure. -/
def isRetryable (policy : RetryPolicy) (status : Status) : Bool := policy.statuses.contains status

/-- The number of attempts from which on the wait no longer doubles. -/
def doublingLimit : Nat := 16

/-- The wait after a failed attempt; attempts count from zero. -/
def delayAfter (policy : RetryPolicy) (attempt : Nat) : Duration :=
  if policy.exponential then policy.baseDelay.mulCapped (Nat.pow 2 (min attempt doublingLimit))
  else policy.baseDelay

/-- The length of the rotation: the target and all endpoints. -/
def slotCount (policy : RetryPolicy) : Nat := policy.endpoints.length + 1

/-- The place in the rotation that an attempt has. -/
def slot (policy : RetryPolicy) (attempt : Nat) : Fin policy.slotCount :=
  ⟨attempt % policy.slotCount, Nat.mod_lt _ (Nat.succ_pos _)⟩

/-- Where the attempts in a place of the rotation are sent: the request's own target in the first
place, an endpoint in each other one. -/
def target (policy : RetryPolicy) (own : Url) : Fin policy.slotCount → Except Url.ParseError Url
  | ⟨0, _⟩ => .ok own
  | ⟨place + 1, h⟩ => Url.parse (policy.endpoints.get ⟨place, Nat.lt_of_succ_lt_succ h⟩)

/-- A policy in descriptions. -/
def describe (policy : RetryPolicy) : String :=
  Text.record "RetryPolicy"
    [("max_attempts", toString policy.maxAttempts.toNat),
     ("base_delay", policy.baseDelay.describe),
     ("use_exponential_backoff", Text.ofBool policy.exponential),
     ("retryable_statuses", policy.statuses.describe),
     ("failover_endpoints", Text.enclosed "[" "]" (policy.endpoints.map Text.quoted)),
     ("logging_enabled", Text.ofBool policy.logging)]

open Json (Decoder Field Record)

/-- A policy as a record with defaults for all fields. -/
def record : Record RetryPolicy where
  name := "RetryPolicy"
  fields :=
    [.of "max_attempts" true .uint32 fun policy maxAttempts => { policy with maxAttempts },
     .of "base_delay_ms" true (Decoder.uint64.map .ofMillis) fun policy baseDelay =>
      { policy with baseDelay },
     .of "use_exponential_backoff" true .bool fun policy exponential =>
      { policy with exponential },
     .of "retryable_statuses" true (Decoder.uint16.list.map .ofList) fun policy statuses =>
      { policy with statuses },
     .of "failover_endpoints" true Decoder.string.list fun policy endpoints =>
      { policy with endpoints },
     .of "logging_enabled" true .bool fun policy logging => { policy with logging }]
  initial := default
  allowsShort := true

/-- How a policy is read. -/
def decoder : Decoder RetryPolicy := record.decoder

end RetryPolicy
end ResilientHttp
