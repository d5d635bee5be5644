import ResilientHttp.Json.Decoder
import ResilientHttp.Text.Quoted
import ResilientHttp.Time.Duration

/-!
Settings of the built-in executor: how long an attempt may take, how many connections are kept or
used at once, and what is asked of secure connections. In every count zero stands for no bound.
-/

namespace ResilientHttp

/-- The lowest version of secure connections that is accepted. -/
inductive TlsVersion where
  | v12
  | v13
  deriving DecidableEq, Repr

/-- The name of a version in descriptions. -/
def TlsVersion.name : TlsVersion → String
  | .v12 => "Tls12"
  | .v13 => "Tls13"

/-- What is asked of secure connections. -/
structure TlsOptions where
  /-- Whether any certificate is accepted. -/
  skipVerify : Bool
  /-- Certificates that are trusted besides the usual ones. -/
  rootCertificates : List String
  /-- The lowest version, if one is asked for. -/
  minVersion : Option TlsVersion
  deriving DecidableEq, Repr

namespace TlsOptions

/-- Nothing out of the ordinary. -/
def default : TlsOptions := ⟨false, [], none⟩

/-- The options in descriptions. -/
def describe (options : TlsOptions) : String :=
  Text.record "TlsOptions"
    [("insecure_skip_verify", Text.ofBool options.skipVerify),
     ("root_certificates",
      Text.enclosed "[" "]" (options.rootCertificates.map Text.quoted)),
     ("min_version",
      match options.minVersion with
      | none => "None"
      | some version => "Some(" ++ version.name ++ ")")]

open Json (Decoder Field Record)

/-- The options as a record with defaults for all fields. -/
def record : Record TlsOptions where
  name := "TlsOptions"
  fields :=
    [.of "insecure_skip_verify" true .bool fun options skipVerify =>
      { options with skipVerify },
     .of "root_certificates" true Decoder.string.list fun options rootCertificates =>
      { options with rootCertificates },
     .of "min_version" true (Decoder.variant [("1.2", TlsVersion.v12), ("1.3", .v13)]).option
      fun options minVersion => { options with minVersion }]
  initial := default
  allowsShort := true

/-- How the options are read. -/
def decoder : Decoder TlsOptions := record.decoder

end TlsOptions

/-- Settings of the built-in executor. -/
structure Tuning where
  /-- How long an attempt may take; an empty span sets no limit. -/
  timeout : Duration
  /-- Whether connections are closed after each exchange. -/
  disableKeepAlive : Bool
  /-- How many idle connections are kept in all. -/
  maxIdle : UInt64
  /-- How many exchanges with one host may be under way. -/
  maxPerHost : UInt64
  /-- How many idle connections to one host are kept. -/
  maxIdlePerHost : UInt64
  /-- What is asked of secure connections. -/
  tls : TlsOptions
  deriving DecidableEq, Repr

namespace Tuning

/-- Attempts of half a minute, ten idle connections for a host and a hundred in all. -/
def default : Tuning where
  timeout := .ofSeconds 30
  disableKeepAlive := false
  maxIdle := 100
  maxPerHost := 0
  maxIdlePerHost := 10
  tls := .default

/-- How many idle connections to one host are kept in view of all settings. -/
def idlePerHost (tuning : Tuning) : UInt64 :=
  if tuning.disableKeepAlive then 0
  else if tuning.maxIdle = 0 then tuning.maxIdlePerHost
  else min tuning.maxIdlePerHost tuning.maxIdle

/-- The settings in descriptions. -/
def describe (tuning : Tuning) : String :=
  Text.record "TransportTuning"
    [("timeout", tuning.timeout.describe),
     ("disable_keep_alive", Text.ofBool tuning.disableKeepAlive),
     ("max_idle_connections", toString tuning.maxIdle.toNat),
     ("max_connections_per_host", toString tuning.maxPerHost.toNat),
     ("max_idle_connections_per_host", toString tuning.maxIdlePerHost.toNat),
     ("tls", tuning.tls.describe)]

open Json (Decoder Field Record)

/-- The settings as a record with defaults for all fields. -/
def record : Record Tuning where
  name := "TransportTuning"
  fields :=
    [.of "timeout_ms" true (Decoder.uint64.map .ofMillis) fun tuning timeout =>
      { tuning with timeout },
     .of "disable_keep_alive" true .bool fun tuning disableKeepAlive =>
      { tuning with disableKeepAlive },
     .of "max_idle_connections" true .count fun tuning maxIdle => { tuning with maxIdle },
     .of "max_connections_per_host" true .count fun tuning maxPerHost =>
      { tuning with maxPerHost },
     .of "max_idle_connections_per_host" true .count fun tuning maxIdlePerHost =>
      { tuning with maxIdlePerHost },
     .of "tls" true TlsOptions.decoder fun tuning tls => { tuning with tls }]
  initial := default
  allowsShort := true

/-- How the settings are read. -/
def decoder : Decoder Tuning := record.decoder

end Tuning
end ResilientHttp
