/-
Transactions as they are dispatched.

`Router.route` says what the stages of a transaction come to.  The gateway takes them in
smaller steps, and no step counts on what an earlier one has found out.  The shape is checked,
and then the only operation is asked for as if there might be none; the kind is known, and
then the signed form may still be missing; handlers are kept under kinds, but each of them
takes operations of any kind and says itself when it is given the wrong one.

A step that finds nothing where an earlier step has seen to it is a mistake of the gateway,
and its error says so to the client.
-/
import BlogGateway.Broadcast.Router

namespace BlogGateway.Broadcast

open Operation

variable {σ : Type}

/-! ### Handlers under their kinds -/

/-- A handler of operations of any kind. -/
abbrev OperationHandler (σ : Type) := Operation → Run σ Unit

/-- An operation has come to the handler of another kind. -/
def misrouted (tag : String) (kind : Kind) : Rpc.Error :=
  .internal s!"{tag} routed to {kind.tag} handler"

/-- The handler that looks for a body of its kind in the operation. -/
def onKind (kind : Kind) (handler : BodyHandler σ kind) : OperationHandler σ
  | .known given body =>
    if same : given = kind then handler (same ▸ body) else Run.fail (misrouted given.tag kind)
  | .unknown tag _ => Run.fail (misrouted tag kind)

/-- Handlers, each under the kind that it was registered for. -/
structure Registry (σ : Type) where
  handler? : Kind → Option (OperationHandler σ)

namespace Registry

/-- No handlers. -/
def empty : Registry σ := ⟨fun _ => none⟩

/-- Registers a handler for a kind, in the place of an earlier one. -/
def register (registry : Registry σ) (kind : Kind) (handler : OperationHandler σ) :
    Registry σ :=
  ⟨fun asked => if asked = kind then some handler else registry.handler? asked⟩

/-- Registers a handler of bodies for their kind. -/
def on (registry : Registry σ) (kind : Kind) (handler : BodyHandler σ kind) : Registry σ :=
  registry.register kind (onKind kind handler)

/-- The kinds without a handler, in the order of their codes. -/
def missing (registry : Registry σ) : List Kind :=
  Kind.all.filter fun kind => (registry.handler? kind).isNone

end Registry

/-! ### The steps -/

/-- What transactions need to be dispatched: a chain, a source of keys, and handlers. -/
structure Dispatcher (σ : Type) where
  chain : ChainId
  authority : Authority
  registry : Registry σ

namespace Dispatcher

/-- The dispatcher with these handlers, or the kinds that have none. -/
def build (chain : ChainId) (authority : Authority) (registry : Registry σ) :
    Except (List Kind) (Dispatcher σ) :=
  if registry.missing = [] then .ok ⟨chain, authority, registry⟩ else .error registry.missing

/-- The transaction asks for no operation, or for several. -/
def notSingle : Rpc.Error := .invalidParameter "only one operation per transaction supported"

/-- The operation is of no known kind. -/
def unknownOperation (operation : Operation) : Rpc.Error :=
  .invalidParameter s!"{operation.tag} operation is unknown"

/-- There is no operation to take out of the transaction.  A call that got here would not be
answered at all. -/
def nothingToTake : Rpc.Error := .internal "removal index (is 0) should be < len (is 0)"

/-- There is no handler for the kind of the operation. -/
def notRegistered (kind : Kind) : Rpc.Error :=
  .internal s!"{kind.tag} handler is not registered"

/-- Whether there is one signature and it was made over the hash with one of the keys. -/
def verifies (keys : KeySet) (signatures : List String) (digest : Digest) : Bool :=
  match signatures with
  | [signature] => Signature.verifyAny keys.all signature digest
  | _ => false

/-- Takes the transaction of a call step by step to the handler of its operation. -/
def route (dispatcher : Dispatcher σ) (call : Rpc.Call) : Run σ (Option Json.Value) := do
  let tx ← Run.ofExcept (readTransaction call)
  Run.ofExcept (tx.checkShape.mapError fun cause => .invalidParameter cause.message)
  let operation ← Run.require tx.operation? notSingle
  let kind ← Run.require operation.kind? (unknownOperation operation)
  let account ← Run.require operation.account? (unknownOperation operation)
  let keys ← Run.keysOf dispatcher.authority account
  let digest ← Run.ofExcept
    ((Digest.ofTransaction dispatcher.chain tx).mapError fun _ => notValid)
  Run.ensure (verifies keys tx.signatures digest = true) notValid
  let operation ← Run.require tx.operations.head? nothingToTake
  Run.ofExcept (operation.validate.mapError fun cause =>
    .invalidParameter s!"invalid request: {cause.message}")
  let handler ← Run.require (dispatcher.registry.handler? kind) (notRegistered kind)
  Run.emit (.handled operation)
  handler operation
  pure (some (acknowledgement call.id))

end Dispatcher

end BlogGateway.Broadcast
