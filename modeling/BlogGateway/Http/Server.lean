/-
The gateway over HTTP.

Calls are posted to the root; a few other paths tell how the gateway is.  An error of a call
is still an HTTP success.  Every answer may be read from any site, a preflight request is
answered before anything else looks at it, and all other requests are told the id under which
they can be found in reports.

Left out are the pages that document the calls, and everything below a request: connections,
certificates and the stopping of the process.
-/
import BlogGateway.Authority.Node
import BlogGateway.Gateway.Basic

namespace BlogGateway.Http

open Blog Json

/-- A request. -/
structure Request where
  method : String
  /-- The path, perhaps with a query. -/
  target : String
  body : Bytes
  /-- The id that the client has given the request. -/
  id : Option String
  deriving DecidableEq, Repr

/-- The id under which a request can be found. -/
inductive RequestId
  | given (text : String)
  /-- A new one, since the client has given none. -/
  | fresh
  deriving DecidableEq, Repr

/-- A response. -/
structure Response where
  status : Nat
  contentType : Option String
  body : Bytes
  /-- The sites that may read the response. -/
  allowOrigin : String
  requestId : Option RequestId
  deriving DecidableEq, Repr

/-- What a server is set up with. -/
structure Server where
  gateway : Gateway
  /-- How many bytes the body of a call may have. -/
  maxRequestSize : Nat
  /-- The node that is asked whether it can be reached, if any. -/
  node : Option Node

/-- Status, content type and body of a response. -/
structure Content where
  status : Nat
  contentType : Option String
  body : Bytes
  deriving DecidableEq, Repr

namespace Content

/-- A response without a body. -/
def empty (status : Nat) : Content := ⟨status, none, []⟩

/-- A response in JSON. -/
def json (status : Nat) (body : Bytes) : Content := ⟨status, some "application/json", body⟩

/-- A response in plain text. -/
def plain (status : Nat) (text : String) : Content :=
  ⟨status, some "text/plain; charset=utf-8", Bytes.ofText text⟩

/-- The response to a call; one that has nothing to say has no body. -/
def ofRpc (response : Rpc.Response) : Content :=
  if response.isEmpty then empty 204 else json 200 response.write

end Content

/-! ### Pages -/

/-- What can only be looked at. -/
inductive Page
  | health
  | live
  | version
  deriving DecidableEq, Repr

namespace Page

/-- The page at a path. -/
def ofPath? : String → Option Page
  | "/health" => some .health
  | "/health/live" => some .live
  | "/health/ready" => some .health
  | "/version" => some .version
  | _ => none

/-- How the gateway is, and whether its node can be asked if it has one. -/
def healthContent (node : Option Node) : Content :=
  let reachable := node.map fun node => node.ping.toOption.isSome
  let healthy := reachable.getD true
  let word (good : Bool) (otherwise : String) : Value := .string (if good then "ok" else otherwise)
  let blockchain := reachable.map fun good => ("blockchain", word good "unavailable")
  .json (if healthy then 200 else 503)
    (Value.ofMembers [
      ("status", word healthy "degraded"),
      ("checks", .ofMembers (("service", .string "ok") :: blockchain.toList))]).write

/-- What a page shows. -/
def content (node : Option Node) : Page → Content
  | .health => healthContent node
  | .live => .json 200 (Value.ofMembers [("status", .string "ok")]).write
  | .version =>
    .json 200 (Value.ofMembers
      [("name", .string "scorum-blog-gateway"), ("version", .string "0.1.0")]).write

end Page

/-- The path of a target, without query and fragment. -/
def pathOf (target : String) : String :=
  String.ofList (target.toList.takeWhile fun c => c ≠ '?' && c ≠ '#')

/-- The path that calls are posted to. -/
def callPath : String := "/"

/-- What handling a request comes to. -/
structure Handled where
  content : Content
  state : Store
  events : List Event

namespace Server

/-- Answers what is sent to the path for calls. -/
def handleCall (server : Server) (moment : Moment) (request : Request) (store : Store) :
    Handled :=
  if request.method ≠ "POST" then
    let error := Rpc.Error.invalidRequest "only POST http method is supported"
    ⟨.ofRpc (.ofError 0 error), store, []⟩
  else if server.maxRequestSize < request.body.length then
    ⟨.plain 413 "Failed to buffer the request body: length limit exceeded", store, []⟩
  else
    let handled := server.gateway.handle moment request.body store
    ⟨.ofRpc handled.response, handled.state, handled.events⟩

/-- What is found at a path other than that for calls. -/
def lookUp (server : Server) (method path : String) : Content :=
  match Page.ofPath? path with
  | none => .empty 404
  | some page =>
    if method = "GET" || method = "HEAD" then page.content server.node else .empty 405

/-- Answers a request that is no preflight. -/
def handlePath (server : Server) (moment : Moment) (request : Request) (store : Store) :
    Handled :=
  let path := pathOf request.target
  if path = callPath then server.handleCall moment request store
  else ⟨server.lookUp request.method path, store, []⟩

/-- Whether the method of a request leaves no room for a body in the answer. -/
def isBodiless (request : Request) (content : Content) : Bool :=
  request.method = "HEAD" || (request.method = "CONNECT" && isSuccess content.status)

/-- Answers a request. -/
def handle (server : Server) (moment : Moment) (request : Request) (store : Store) :
    Response × Store × List Event :=
  if request.method = "OPTIONS" then
    (⟨200, none, [], "*", none⟩, store, [])
  else
    let handled := server.handlePath moment request store
    let content := handled.content
    let body := if isBodiless request content then [] else content.body
    let id := match request.id with
      | some text => .given text
      | none => .fresh
    (⟨content.status, content.contentType, body, "*", some id⟩, handled.state, handled.events)

end Server

end BlogGateway.Http
