import ResilientHttp.Context.Tree
import ResilientHttp.Error
import ResilientHttp.Time.Duration

/-!
Contexts. A context is a token and perhaps a deadline; a copy shares both. A derived context has a
token of its own below the other's and a deadline that is never later. A context ends when its
token is cancelled or its deadline has come, and if both hold it counts as cancelled. Instants have no
upper bound here.
-/

namespace ResilientHttp

/-- What a call is bound to. -/
structure Context where
  token : Token
  deadline : Option Instant
  deriving DecidableEq, Repr

/-- How a context has ended. -/
inductive ContextEnd where
  | cancelled
  | deadline
  deriving DecidableEq, Repr

/-- The error that a call ends with when its context has ended. -/
def ContextEnd.error : ContextEnd → ClientError
  | .cancelled => .cancelled
  | .deadline => .deadlineExceeded

namespace Context

/-- How a context has ended at an instant, if it has. -/
def ended? (context : Context) (tokens : CancelTree) (now : Instant) : Option ContextEnd :=
  if tokens.isCancelled context.token then some .cancelled
  else if context.deadline.any (· ≤ now) then some .deadline
  else none

/-- A context that nothing but its own token ends. -/
def background (tokens : CancelTree) : Context × CancelTree :=
  (⟨tokens.fresh, none⟩, tokens.derive none)

/-- The earlier of two deadlines. -/
def earlier : Option Instant → Option Instant → Option Instant
  | some left, some right => some (min left right)
  | some left, none => some left
  | none, right => right

/-- A context below another one that can also be cancelled on its own. -/
def child (context : Context) (tokens : CancelTree) : Context × CancelTree :=
  (⟨tokens.fresh, context.deadline⟩, tokens.derive (some context.token))

/-- A child that ends at an instant, or earlier with its parent. -/
def withDeadline (context : Context) (deadline : Instant) (tokens : CancelTree) :
    Context × CancelTree :=
  (⟨tokens.fresh, earlier context.deadline (some deadline)⟩, tokens.derive (some context.token))

/-- A child that ends after a span of time, or earlier with its parent. The clock is taken to have every
instant: a clock that cannot tell the time after so long a span makes no context of it, but panics. -/
def withTimeout (context : Context) (timeout : Duration) (now : Instant) (tokens : CancelTree) :
    Context × CancelTree :=
  context.withDeadline (now + timeout.toNanos) tokens

/-- A context without deadline in a description. -/
def describe (context : Context) (tokens : CancelTree) : String :=
  Text.record "Context"
    [("token", Text.record "CancellationToken"
        [("is_cancelled", Text.ofBool (tokens.isCancelled context.token))]),
     ("deadline", match context.deadline with
        | none => "None"
        | some deadline => "Some(" ++ toString deadline ++ ")")]

end Context
end ResilientHttp
