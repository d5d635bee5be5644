import ResilientHttp.Client.Builder
import ResilientHttp.Task.Laws
import ResilientHttp.Task.Parallel
import ResilientHttp.Proofs.Retry.Outcome
import ResilientHttp.Proofs.Retry.Targets
import ResilientHttp.Proofs.Retry.Replay
import ResilientHttp.Proofs.Client.Deadline
import ResilientHttp.Proofs.Client.Ended
import ResilientHttp.Proofs.Client.Released
import ResilientHttp.Proofs.Network.Permits
import ResilientHttp.Proofs.Client.Build
import ResilientHttp.Proofs.Context.Kinship
import ResilientHttp.Proofs.Client.Headers
import ResilientHttp.Proofs.Context.Expiry
import ResilientHttp.Proofs.Retry.Stack
import ResilientHttp.Proofs.Task.Split
import ResilientHttp.Proofs.Retry.Report
import ResilientHttp.Proofs.Retry.Nested
import ResilientHttp.Proofs.Context.Heeding
import ResilientHttp.Proofs.Retry.Undisguised
import ResilientHttp.Proofs.Retry.Idling
import ResilientHttp.Proofs.Network.Alone
import ResilientHttp.Proofs.Http.Form
import ResilientHttp.Proofs.Http.Edits
import ResilientHttp.Proofs.Json.Roundtrip
import ResilientHttp.Proofs.Context.Punctual
import ResilientHttp.Proofs.Retry.Punctual
import ResilientHttp.Proofs.Client.Precedence
import ResilientHttp.Proofs.Retry.Logging
import ResilientHttp.Proofs.Retry.Wasted
import ResilientHttp.Proofs.Retry.Backoff
import ResilientHttp.Proofs.Client.Defaults
import ResilientHttp.Proofs.Http.Body
import ResilientHttp.Proofs.Client.Configuration
import ResilientHttp.Proofs.Retry.Causes
import ResilientHttp.Proofs.Retry.Counting
import ResilientHttp.Proofs.Network.Capacity
