import ResilientHttp.Client.Basic
import ResilientHttp.Network.Certificate
import ResilientHttp.Network.Exchange
import ResilientHttp.Network.Tuning
import ResilientHttp.Retry.Transport

/-!
The configuration of a client. Settings are applied in the order in which they are given. The
builder has one place for what sends requests: at first the built-in executor, which can still be
tuned, later whatever was installed last; a retry policy goes on top of what is in that place when
the policy is given. A setting that cannot be honoured leaves everything else as it is, and the
first such setting decides how the build fails.
-/

namespace ResilientHttp

/-- What sends requests at the bottom of a transport: an executor of the user's, or the built-in
one, as it is by itself or tuned. -/
inductive Sender (α : Type) where
  | custom (executor : α)
  | plain
  | tuned (tuning : Tuning)
  deriving DecidableEq, Repr

namespace Sender

variable {α σ : Type}

/-- How many exchanges with one host a sender lets through at once; zero stands for no limit. -/
def limit : Sender α → Nat
  | .tuned tuning => tuning.maxPerHost.toNat
  | _ => 0

/-- The executor of a sender, given those of the user, a network and the gates in front of it. -/
def execute (customs : α → Executor σ) (network : Network σ) (gates : Part σ Limiter) :
    Sender α → Executor σ
  | .custom executor => customs executor
  | .plain => network.executor gates
  | .tuned _ => network.executor gates

end Sender

/-- A change of the settings of the built-in executor. -/
inductive TuningChange where
  | timeout (span : Duration)
  | disableKeepAlive (on : Bool)
  | maxIdle (count : UInt64)
  | maxPerHost (count : UInt64)
  | maxIdlePerHost (count : UInt64)
  | tls (options : TlsOptions)
  | skipVerify (on : Bool)
  | all (tuning : Tuning)
  deriving DecidableEq, Repr

namespace TuningChange

/-- The name of the option that makes the change. -/
def option : TuningChange → String
  | .timeout _ => "timeout"
  | .disableKeepAlive _ => "disable_keep_alive"
  | .maxIdle _ => "max_idle_connections"
  | .maxPerHost _ => "max_connections_per_host"
  | .maxIdlePerHost _ => "max_idle_connections_per_host"
  | .tls _ => "tls"
  | .skipVerify _ => "insecure_skip_verify"
  | .all _ => "tuning"

/-- The settings after a change. -/
def apply : TuningChange → Tuning → Tuning
  | .timeout span, tuning => { tuning with timeout := span }
  | .disableKeepAlive on, tuning => { tuning with disableKeepAlive := on }
  | .maxIdle count, tuning => { tuning with maxIdle := count }
  | .maxPerHost count, tuning => { tuning with maxPerHost := count }
  | .maxIdlePerHost count, tuning => { tuning with maxIdlePerHost := count }
  | .tls options, tuning => { tuning with tls := options }
  | .skipVerify on, tuning => { tuning with tls := { tuning.tls with skipVerify := on } }
  | .all replacement, _ => replacement

end TuningChange

/-- Whether the built-in executor can be made with its settings. -/
def Tuning.isUsable (tuning : Tuning) : Bool :=
  tuning.tls.rootCertificates.all Certificate.isUsable

/-- One step of configuring a client. -/
inductive Setting (α : Type) where
  | context (context : Context)
  | header (name value : String)
  | headers (fields : HeaderMap)
  | tune (change : TuningChange)
  | install (transport : Transport (Sender α))
  | logger (sink : Sink)
  | logging (on : Bool)
  | retry (policy : RetryPolicy)

/-- What is in the place for what sends requests. -/
inductive Slot (α : Type) where
  | tuned (tuning : Tuning)
  | installed (transport : Transport (Sender α))

/-- A client under configuration. -/
structure ClientBuilder (α : Type) where
  context : Context
  headers : HeaderMap
  logging : Bool
  sink : Option Sink
  slot : Slot α
  retryAttached : Bool
  error : Option ClientError

/-- A client as it was configured: its context, what sends its requests, and the default headers
that it starts with. -/
structure ClientPlan (α : Type) where
  context : Context
  transport : Transport (Sender α)
  headers : HeaderMap

namespace ClientBuilder

variable {α σ : Type}

/-- A builder to which no setting was applied. -/
def new (context : Context) : ClientBuilder α where
  context
  headers := .empty
  logging := false
  sink := none
  slot := .tuned .default
  retryAttached := false
  error := none

/-- The builder with an error, unless it has one already. -/
def fail (builder : ClientBuilder α) (error : ClientError) : ClientBuilder α :=
  { builder with error := builder.error <|> some error }

/-- The error of a default header that is none. -/
def badHeader (name : String) : ClientError :=
  .invalidRequest ("invalid default header '" ++ name ++ "'")

/-- The error of an option for the built-in executor that comes when that has lost its place. -/
def tooLate (option : String) : ClientError :=
  .config ("\x60" ++ option ++
    "\x60 must be set before a custom executor or retry policy is installed")

/-- The error of a second retry policy. -/
def retryTwice : ClientError := .config "a retry policy is already attached"

/-- The error of settings with which the built-in executor cannot be made. -/
def unusable : ClientError := .config "cannot build http client: builder error"

/-- The header field of a name and a value, if they can stand in one. -/
def headerField? (name value : String) : Option (HeaderName × HeaderValue) := do
  let field ← HeaderName.ofString? name
  let content ← HeaderValue.ofOctets? (Utf8.encode value)
  some (field, content)

/-- What sends the requests as things stand. -/
def current (builder : ClientBuilder α) : Except ClientError (Transport (Sender α)) :=
  match builder.slot with
  | .tuned tuning =>
    if tuning.isUsable then .ok (.base (.tuned tuning)) else .error unusable
  | .installed transport => .ok transport

/-- The builder with a policy on top of what sends its requests. -/
def attach (builder : ClientBuilder α) (policy : RetryPolicy) (inner : Transport (Sender α)) :
    ClientBuilder α :=
  let logged := { policy with logging := policy.logging || builder.logging }
  { builder with
    slot := .installed (.retrying logged (builder.sink.getD .tracing) inner)
    retryAttached := true }

/-- The builder after one setting. -/
def apply (builder : ClientBuilder α) : Setting α → ClientBuilder α
  | .context context => { builder with context }
  | .header name value =>
    match headerField? name value with
    | some (field, content) =>
      { builder with headers := builder.headers.insert field content }
    | none => builder.fail (badHeader name)
  | .headers fields => { builder with headers := builder.headers.extend fields }
  | .tune change =>
    match builder.slot with
    | .tuned tuning => { builder with slot := .tuned (change.apply tuning) }
    | .installed _ => builder.fail (tooLate change.option)
  | .install transport => { builder with slot := .installed transport, retryAttached := false }
  | .logger sink => { builder with sink := some sink, logging := true }
  | .logging on => { builder with logging := on }
  | .retry policy =>
    if builder.retryAttached then builder.fail retryTwice
    else
      match builder.current with
      | .ok inner => builder.attach policy inner
      | .error error => builder.fail error

/-- The trace of an executor that takes the place of a retry policy. -/
def discardTrace : Trace where
  level := .warn
  target := Trace.part "builder"
  message := "executor replaced after retry policy; retry wrapping discarded"
  fields := []

/-- What a setting is to be warned of. -/
def warnings (builder : ClientBuilder α) : Setting α → List Event
  | .install _ => if builder.retryAttached then [.trace discardTrace] else []
  | _ => []

/-- Applies one setting, with its warnings. -/
def configure (builder : ClientBuilder α) (setting : Setting α) :
    Task σ Event (ClientBuilder α) := do
  Task.emitAll (builder.warnings setting)
  pure (builder.apply setting)

/-- The client that was configured, or the error of the first setting that could not be
honoured. -/
def build (builder : ClientBuilder α) : Except ClientError (ClientPlan α) :=
  match builder.error with
  | some error => .error error
  | none => do
    let transport ← builder.current
    pure { context := builder.context, transport, headers := builder.headers }

/-- The place for what sends requests in descriptions. -/
def describeSlot : Slot α → String
  | .tuned tuning => tuning.describe
  | .installed _ => "<custom executor>"

/-- A builder in descriptions. -/
def describe (builder : ClientBuilder α) (tokens : CancelTree) : String :=
  Text.record "ClientBuilder"
    [("context", builder.context.describe tokens),
     ("headers", builder.headers.describe),
     ("logging_enabled", Text.ofBool builder.logging),
     ("executor", Text.quoted (describeSlot builder.slot)),
     ("retry_attached", Text.ofBool builder.retryAttached),
     ("error",
      match builder.error with
      | none => "None"
      | some error => "Some(" ++ error.describe ++ ")")]

end ClientBuilder

namespace ClientPlan

variable {α σ : Type}

/-- A client over the built-in executor as it is by itself. -/
def plain (context : Context) : ClientPlan α where
  context
  transport := .base .plain
  headers := .empty

/-- How many exchanges with one host the client lets through at once. -/
def limit (plan : ClientPlan α) : Nat := plan.transport.sender.limit

/-- The client of a plan, given the user's executors, a network and the gates in front of it. -/
def client (plan : ClientPlan α) (customs : α → Executor σ) (network : Network σ)
    (gates : Part σ Limiter) : Client σ where
  context := plan.context
  execute := plan.transport.execute (Sender.execute customs network gates)

end ClientPlan
end ResilientHttp
