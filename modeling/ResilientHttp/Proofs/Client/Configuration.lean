import ResilientHttp.Network.Tuning
import ResilientHttp.Proofs.Json.Layout
import ResilientHttp.Proofs.Json.Printing
import ResilientHttp.Retry.Policy

/-!
Settings that are read from JSON: the layouts of a retry policy, of the executor's settings, and of the
options of secure connections inside them.

* `layout_describes` — for each of the three, that its record stores every field as the layout has it.
* `configuration_decoded` — any fields in any order, with unknown ones between them, and the list of the
  first fields.
-/

namespace ResilientHttp

open Json (Decoder Layout)

namespace RetryPolicy

/-- How a policy is written. Spans of time are whole milliseconds, and statuses may be in any order and
be there more than once. -/
def layout : Layout RetryPolicy where
  names := ["max_attempts", "base_delay_ms", "use_exponential_backoff", "retryable_statuses",
    "failover_endpoints", "logging_enabled"]
  keeping policy given :=
    { maxAttempts := if "max_attempts" ∈ given then policy.maxAttempts else default.maxAttempts
      baseDelay := if "base_delay_ms" ∈ given then policy.baseDelay else default.baseDelay
      exponential :=
        if "use_exponential_backoff" ∈ given then policy.exponential else default.exponential
      statuses := if "retryable_statuses" ∈ given then policy.statuses else default.statuses
      endpoints := if "failover_endpoints" ∈ given then policy.endpoints else default.endpoints
      logging := if "logging_enabled" ∈ given then policy.logging else default.logging }
  gives policy name json :=
    match name with
    | "max_attempts" => json = .number (.whole policy.maxAttempts.toNat)
    | "base_delay_ms" => ∃ millis : UInt64,
      policy.baseDelay = .ofMillis millis ∧ json = .number (.whole millis.toNat)
    | "use_exponential_backoff" => json = .bool policy.exponential
    | "retryable_statuses" => ∃ codes : List UInt16, policy.statuses = .ofList codes ∧
      json = .array (codes.map fun code => .number (.whole code.toNat))
    | "failover_endpoints" => json = .array (policy.endpoints.map .string)
    | "logging_enabled" => json = .bool policy.logging
    | _ => False

theorem layout_describes : layout.Describes record where
  names := rfl
  distinct := by decide
  initial _ := rfl
  optional := by decide
  short := rfl
  congr whole given other same := by
    simp only [layout, List.forall_mem_cons] at same
    simp only [layout, same]
  takes := by
    intro whole given
    simp only [record, List.forall_mem_cons]
    refine ⟨?_, ?_, ?_, ?_, ?_, ?_, List.forall_mem_nil _⟩
    · rintro json rfl
      exact (Decoder.takes_uint32 _).field (by simp [layout])
    · rintro json ⟨millis, whole, rfl⟩
      exact (Decoder.takes_uint64 millis).map.field (by simp [layout, whole])
    · rintro json rfl
      exact (Decoder.takes_bool _).field (by simp [layout])
    · rintro json ⟨codes, same, rfl⟩
      have takes := Decoder.Takes.list fun code (_ : code ∈ codes) => Decoder.takes_uint16 code
      exact takes.map.field (by simp [layout, same])
    · rintro json rfl
      have takes := Decoder.Takes.list fun endpoint (_ : endpoint ∈ whole.endpoints) =>
        Decoder.takes_string endpoint
      exact takes.field (by simp [layout])
    · rintro json rfl
      exact (Decoder.takes_bool _).field (by simp [layout])

end RetryPolicy
namespace TlsOptions

/-- How the options are written. -/
def layout : Layout TlsOptions where
  names := ["insecure_skip_verify", "root_certificates", "min_version"]
  keeping options given :=
    { skipVerify := if "insecure_skip_verify" ∈ given then options.skipVerify else default.skipVerify
      rootCertificates :=
        if "root_certificates" ∈ given then options.rootCertificates else default.rootCertificates
      minVersion := if "min_version" ∈ given then options.minVersion else default.minVersion }
  gives options name json :=
    match name with
    | "insecure_skip_verify" => json = .bool options.skipVerify
    | "root_certificates" => json = .array (options.rootCertificates.map .string)
    | "min_version" => json = match options.minVersion with
      | none => .null
      | some .v12 => .string "1.2"
      | some .v13 => .string "1.3"
    | _ => False

theorem layout_describes : layout.Describes record where
  names := rfl
  distinct := by decide
  initial _ := rfl
  optional := by decide
  short := rfl
  congr whole given other same := by
    simp only [layout, List.forall_mem_cons] at same
    simp only [layout, same]
  takes := by
    intro whole given
    simp only [record, List.forall_mem_cons]
    refine ⟨?_, ?_, ?_, List.forall_mem_nil _⟩
    · rintro json rfl
      exact (Decoder.takes_bool _).field (by simp [layout])
    · rintro json rfl
      have takes := Decoder.Takes.list fun text (_ : text ∈ whole.rootCertificates) =>
        Decoder.takes_string text
      exact takes.field (by simp [layout])
    · rintro json rfl
      cases version : whole.minVersion with
      | none => exact Decoder.takes_option_null.field (by simp [layout, version])
      | some lowest =>
          cases lowest with
          | v12 =>
              exact ((Decoder.takes_variant rfl).option nofun).field (by simp [layout, version])
          | v13 =>
              exact ((Decoder.takes_variant rfl).option nofun).field (by simp [layout, version])

end TlsOptions

namespace Tuning

/-- How the settings are written. The options of secure connections are written in part themselves. -/
def layout : Layout Tuning where
  names := ["timeout_ms", "disable_keep_alive", "max_idle_connections", "max_connections_per_host",
    "max_idle_connections_per_host", "tls"]
  keeping tuning given :=
    { timeout := if "timeout_ms" ∈ given then tuning.timeout else default.timeout
      disableKeepAlive :=
        if "disable_keep_alive" ∈ given then tuning.disableKeepAlive else default.disableKeepAlive
      maxIdle := if "max_idle_connections" ∈ given then tuning.maxIdle else default.maxIdle
      maxPerHost :=
        if "max_connections_per_host" ∈ given then tuning.maxPerHost else default.maxPerHost
      maxIdlePerHost :=
        if "max_idle_connections_per_host" ∈ given then tuning.maxIdlePerHost
        else default.maxIdlePerHost
      tls := if "tls" ∈ given then tuning.tls else default.tls }
  gives tuning name json :=
    match name with
    | "timeout_ms" => ∃ millis : UInt64,
      tuning.timeout = .ofMillis millis ∧ json = .number (.whole millis.toNat)
    | "disable_keep_alive" => json = .bool tuning.disableKeepAlive
    | "max_idle_connections" => json = .number (.whole tuning.maxIdle.toNat)
    | "max_connections_per_host" => json = .number (.whole tuning.maxPerHost.toNat)
    | "max_idle_connections_per_host" => json = .number (.whole tuning.maxIdlePerHost.toNat)
    | "tls" => TlsOptions.layout.Writes tuning.tls json
    | _ => False

theorem layout_describes : layout.Describes record where
  names := rfl
  distinct := by decide
  initial _ := rfl
  optional := by decide
  short := rfl
  congr whole given other same := by
    simp only [layout, List.forall_mem_cons] at same
    simp only [layout, same]
  takes := by
    intro whole given
    simp only [record, List.forall_mem_cons]
    refine ⟨?_, ?_, ?_, ?_, ?_, ?_, List.forall_mem_nil _⟩
    · rintro json ⟨millis, whole, rfl⟩
      exact (Decoder.takes_uint64 millis).map.field (by simp [layout, whole])
    · rintro json rfl
      exact (Decoder.takes_bool _).field (by simp [layout])
    · rintro json rfl
      exact (Decoder.takes_count _).field (by simp [layout])
    · rintro json rfl
      exact (Decoder.takes_count _).field (by simp [layout])
    · rintro json rfl
      exact (Decoder.takes_count _).field (by simp [layout])
    · intro json (writes : TlsOptions.layout.Writes whole.tls json)
      exact (TlsOptions.layout_describes.takes_of_writes writes).field (by simp [layout])

end Tuning

/-- The texts that parse are those that spell a value. An object that gives some fields of a policy or of
settings, each at most once, in any order and with anything under other names, is decoded as these fields
with the defaults for all others, and the list of the first fields as an object that gives them. In
either shape the text and the tree that it is parsed as are decoded the same. -/
theorem configuration_decoded :
    (∀ octets tree, Json.Reader.value.run octets = .ok tree ↔
      ∃ json, Json.Spells octets json ∧ json.sorted = tree) ∧
    RetryPolicy.layout.ReadBy RetryPolicy.decoder ∧
    Tuning.layout.ReadBy Tuning.decoder :=
  ⟨fun _ _ => Json.run_value_eq_ok_iff, RetryPolicy.layout_describes.readBy,
    Tuning.layout_describes.readBy⟩

/-- Some settings between unknown entries and out of order, with the version of secure connections given
in an object of its own, and the first three fields of a policy, as a list and by name. -/
theorem configuration_decoded_scattered :
    let tls : List (String × Json) := [("ciphers", .object [("tls", .null)]), ("min_version", .string "1.3")]
    let entries : List (String × Json) := [("zone", .array [.null]), ("tls", .object tls),
      ("timeout_ms", .number (.whole 1500))]
    let tuning := { Tuning.default with
      timeout := .ofMillis 1500, tls := { TlsOptions.default with minVersion := some .v13 } }
    let named : List (String × Json) := [("use_exponential_backoff", .bool false), ("max", .null),
      ("base_delay_ms", .number (.whole 40)), ("max_attempts", .number (.whole 5))]
    let items : List Json := [.number (.whole 5), .number (.whole 40), .bool false]
    let policy := { RetryPolicy.default with
      maxAttempts := 5, baseDelay := .ofMillis 40, exponential := false }
    Tuning.decoder.decodeText (Json.object entries).written = .ok tuning ∧
      (∃ tree, Json.Reader.value.run (Json.object entries).written = .ok tree ∧
        Tuning.decoder.decodeValue tree = .ok tuning) ∧
      RetryPolicy.decoder.decodeText (Json.array items).written = .ok policy ∧
      RetryPolicy.decoder.decodeText (Json.object named).written = .ok policy := by
  intro tls entries tuning named items policy
  obtain ⟨parses, readPolicy, readTuning⟩ := configuration_decoded
  have given : TlsOptions.layout.Fits tuning.tls tls := by
    refine ⟨by decide, ?_⟩
    simp only [tls, List.forall_mem_cons]
    exact ⟨fun known => absurd known (by decide), fun _ => rfl, List.forall_mem_nil _⟩
  have fits : Tuning.layout.Fits tuning entries := by
    refine ⟨by decide, ?_⟩
    simp only [entries, List.forall_mem_cons]
    exact ⟨fun known => absurd known (by decide), fun _ => .object given, fun _ => ⟨1500, rfl, rfl⟩,
      List.forall_mem_nil _⟩
  have gives : ∀ entry ∈ RetryPolicy.layout.names.zip items,
      RetryPolicy.layout.gives policy entry.1 entry.2 := by
    simp only [items, RetryPolicy.layout, List.zip_cons_cons, List.zip_nil_right, List.forall_mem_cons]
    exact ⟨rfl, ⟨40, rfl, rfl⟩, rfl, List.forall_mem_nil _⟩
  have inner : Json.Plain 126 (.object tls) := by
    refine .object (by decide) ?_
    simp only [tls, List.forall_mem_cons]
    exact ⟨.object (by decide) (List.forall_mem_singleton.mpr .null), .string, List.forall_mem_nil _⟩
  have spelt : Json.Spells (Json.object entries).written (.object entries) := by
    refine Json.Plain.spells (.object (by decide) ?_)
    simp only [entries, List.forall_mem_cons]
    exact ⟨.array (List.forall_mem_singleton.mpr .null), inner, .whole (by decide) (by decide),
      List.forall_mem_nil _⟩
  have speltItems : Json.Spells (Json.array items).written (.array items) := by
    refine Json.Plain.spells (.array ?_)
    simp only [items, List.forall_mem_cons]
    exact ⟨.whole (by decide) (by decide), .whole (by decide) (by decide), .bool, List.forall_mem_nil _⟩
  have speltNamed : Json.Spells (Json.object named).written (.object named) := by
    refine Json.Plain.spells (.object (by decide) ?_)
    simp only [named, List.forall_mem_cons]
    exact ⟨.bool, .null, .whole (by decide) (by decide), .whole (by decide) (by decide),
      List.forall_mem_nil _⟩
  obtain ⟨text, tree⟩ := readTuning.object fits
  have backwards : (named.filter (·.1 ∈ RetryPolicy.layout.names)).Perm (RetryPolicy.layout.names.zip items) :=
    List.reverse_perm (RetryPolicy.layout.names.zip items)
  obtain ⟨listed, byName⟩ := readPolicy.list (by decide) gives
  exact ⟨text _ spelt, ⟨_, (parses _ _).mpr ⟨_, spelt, rfl⟩, tree⟩, listed.text _ speltItems,
    (byName named backwards).text _ speltNamed⟩

end ResilientHttp
