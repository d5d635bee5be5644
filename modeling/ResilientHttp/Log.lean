import ResilientHttp.Text.Quoted

/-!
Logging. A record has a level, a message and fields in order. A `Sink` is where records go: one
that has a name gets them as they are, and the tracing sink turns each into a trace event whose
fields stand in one text. To write to a sink is to emit an event and nothing more: a sink does not act
on the world, so it cannot cancel a context or change header fields.
-/

namespace ResilientHttp

/-- How urgent a record is. -/
inductive Level where
  | error
  | warn
  | info
  | debug
  | trace
  deriving DecidableEq, Repr

/-- The name of a level. -/
def Level.name : Level → String
  | .error => "ERROR"
  | .warn => "WARN"
  | .info => "INFO"
  | .debug => "DEBUG"
  | .trace => "TRACE"

/-- The level of a name. -/
def Level.ofName? (name : String) : Option Level :=
  [Level.error, .warn, .info, .debug, .trace].find? (·.name = name)

/-- What is logged. -/
structure LogRecord where
  level : Level
  message : String
  fields : List (String × String)
  deriving DecidableEq, Repr

/-- The fields of a record in one text. -/
def LogRecord.fieldText (record : LogRecord) : String :=
  " ".intercalate (record.fields.map fun field => field.1 ++ "=" ++ field.2)

/-- A trace event: a record from a named part of the library. -/
structure Trace where
  level : Level
  target : String
  message : String
  fields : List (String × String)
  deriving DecidableEq, Repr

/-- The name under which the library as a whole traces. -/
def Trace.root : String := "failover_http"

/-- The name under which a part of the library traces. -/
def Trace.part (name : String) : String := Trace.root ++ "::" ++ name

/-- Where records go. -/
inductive Sink where
  | named (name : String)
  | tracing
  deriving DecidableEq, Repr

/-- The trace event of a record in the tracing sink. -/
def LogRecord.trace (record : LogRecord) : Trace where
  level := record.level
  target := Trace.root
  message := record.message
  fields := [("fields", record.fieldText)]

end ResilientHttp
