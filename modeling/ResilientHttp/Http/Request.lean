import ResilientHttp.Context.Basic
import ResilientHttp.Http.Body
import ResilientHttp.Http.Header

/-!
Requests: a method, a target, header fields, perhaps a body, and the context that the exchange is
bound to. A request whose body is a stream cannot be copied; `Request.rebind` makes the copies of
one whose body was read before, each aimed at a target of its own.
-/

namespace ResilientHttp

/-- A request on its way to be sent. -/
structure Request where
  method : Method
  url : Url
  headers : HeaderMap
  body : Option Body
  context : Context
  deriving DecidableEq, Repr

namespace Request

/-- A request with nothing but a method, a target and a context. -/
def new (method : Method) (url : Url) (context : Context) : Request :=
  { method, url, headers := .empty, body := none, context }

/-- The request bound to another context. -/
def withContext (request : Request) (context : Context) : Request := { request with context }

/-- The request with all header fields replaced. -/
def withHeaders (request : Request) (headers : HeaderMap) : Request := { request with headers }

/-- The request with its body replaced. -/
def withBody (request : Request) (body : Option Body) : Request := { request with body }

/-- The body, and the request without it. -/
def takeBody (request : Request) : Option Body × Request :=
  (request.body, { request with body := none })

/-- A copy, unless the body is a stream. -/
def tryClone (request : Request) : Option Request :=
  match request.body with
  | none => some request
  | some body => (body.tryClone).map fun copy => { request with body := some copy }

/-- A copy aimed at a target, with a body in memory made of octets that were read before. -/
def rebind (request : Request) (url : Url) (octets : Option Octets) : Request :=
  { request with url, body := octets.map .full }

end Request
end ResilientHttp
