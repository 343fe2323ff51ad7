/-
Which handler answers a call.

Handlers are registered for an interface and a method.  When the same pair is registered
again the later handler takes its place.  A body that is no request is answered under the id
zero, every other one under its own.
-/
import BlogGateway.Rpc.Request
import BlogGateway.Rpc.Run

namespace BlogGateway.Rpc

/-- A handler of calls. -/
abbrev Handler (σ : Type) := Call → Run σ (Option Json.Value)

/-- A handler for one method of one interface. -/
structure Route (σ : Type) where
  api : String
  method : String
  handler : Handler σ

/-- A table of handlers, in the order in which they were registered. -/
structure Router (σ : Type) where
  routes : List (Route σ)

/-- What is asked of the endpoint by a request that is a call. -/
def callVerb : String := "call"

namespace Router

variable {σ : Type}

/-- The handler that was registered last for a method. -/
def handler? (router : Router σ) (api method : String) : Option (Handler σ) :=
  (router.routes.reverse.find? fun route => route.api = api && route.method = method).map
    Route.handler

/-- Gives a call to its handler. -/
def dispatch (router : Router σ) (call : Call) : Run σ (Option Json.Value) :=
  match router.handler? call.api call.method with
  | some handler => handler call
  | none =>
    Run.fail (.routeNotRegistered s!"route: {call.api}.{call.method} not registered")

/-- What a body asks for: a call, or the id and the error to answer with. -/
def readCall (body : Bytes) : Except (UInt64 × Error) Call :=
  match Request.parse body with
  | .error cause =>
    .error (0, .invalidRequest s!"message body is not an rpc request: {cause.message}")
  | .ok request =>
    if request.verb = callVerb then .ok request.call
    else .error (request.call.id, .invalidRequest "rpc request method should be call")

/-- How the handling of a body ends. -/
structure Handled (σ : Type) where
  response : Response
  state : σ
  events : List Event

/-- Answers a body. -/
def handle (router : Router σ) (body : Bytes) (state : σ) : Handled σ :=
  match readCall body with
  | .error (id, error) => ⟨.ofError id error, state, []⟩
  | .ok call =>
    let outcome := router.dispatch call state
    ⟨.ofAnswer call.id outcome.result, outcome.state, outcome.events⟩

end Router

end BlogGateway.Rpc
