/-
How transactions reach their handlers.

A transaction passes one stage after the other: it has to be there, to be readable, to have
the right shape and a known operation; then the keys of the account are asked for, the
signature is checked against them, and the fields of the operation are checked; only then
does the handler of the operation's kind see it.  The first stage that fails gives the
answer.  Everything that is wrong with a signature gets the same answer, so that nothing
about the keys can be learnt from it.

There is one handler for every kind, and it takes bodies of that kind: a table is only made
when no kind is missing.
-/
import BlogGateway.Operation.Rules
import BlogGateway.Rpc.Router

namespace BlogGateway.Broadcast

open Operation

/-- A handler of the bodies of one kind. -/
abbrev BodyHandler (σ : Type) (kind : Kind) := Body kind → Run σ Unit

/-- A handler registered for a kind. -/
structure Registration (σ : Type) where
  kind : Kind
  handler : BodyHandler σ kind

/-- A handler for every kind. -/
structure Table (σ : Type) where
  handler : (kind : Kind) → BodyHandler σ kind

variable {σ : Type}

/-- The handler that was registered last for a kind. -/
def lastFor? (kind : Kind) : List (Registration σ) → Option (BodyHandler σ kind)
  | [] => none
  | registration :: rest =>
    match lastFor? kind rest with
    | some handler => some handler
    | none =>
      if h : registration.kind = kind then some (h ▸ registration.handler) else none

/-- The kinds that have no handler, in the order of their codes. -/
def missing (registrations : List (Registration σ)) : List Kind :=
  Kind.all.filter fun kind => (lastFor? kind registrations).isNone

theorem isSome_lastFor? {registrations : List (Registration σ)}
    (complete : missing registrations = []) (kind : Kind) :
    (lastFor? kind registrations).isSome := by
  have present := List.filter_eq_nil_iff.mp complete kind (Kind.mem_all kind)
  exact Option.isSome_iff_ne_none.mpr (by simpa using present)

/-- The text that reports missing handlers. -/
def missingMessage (kinds : List Kind) : String :=
  "handlers are not registered for: " ++ ", ".intercalate (kinds.map Kind.tag)

/-- The table of the registered handlers, or the kinds that have none. -/
def Table.build (registrations : List (Registration σ)) : Except (List Kind) (Table σ) :=
  if complete : missing registrations = [] then
    .ok ⟨fun kind => (lastFor? kind registrations).get (isSome_lastFor? complete kind)⟩
  else .error (missing registrations)

/-- What transactions need to be handled: a chain, a source of keys, and handlers. -/
structure Router (σ : Type) where
  chain : ChainId
  authority : Authority
  table : Table σ

/-- The answer to everything that is wrong with a signature. -/
def notValid : Rpc.Error := .invalidParameter "transaction is not valid"

/-- What is answered when an operation has been carried out. -/
def acknowledgement (id : UInt64) : Json.Value :=
  .ofMembers [
    ("id", .string (toString id.toNat)),
    ("block_num", .ofNat 0),
    ("trx_num", .ofNat 0),
    ("expired", .boolean false)]

/-- The transaction in the first argument of a call. -/
def readTransaction (call : Rpc.Call) : Except Rpc.Error Transaction := do
  let raw ← call.rawArg 0
  (raw.read Transaction.read).mapError fun cause =>
    .invalidRequest s!"transaction is malformed: {cause.message}"

/-- Kind and body of the operation that a transaction asks for. -/
def readOperation (tx : Transaction) : Except Rpc.Error (Σ kind, Body kind) :=
  match tx.shape with
  | .error cause => .error (.invalidParameter cause.message)
  | .ok (.unknown tag _) => .error (.invalidParameter s!"{tag} operation is unknown")
  | .ok (.known kind body) => .ok ⟨kind, body⟩

/-- Whether a transaction carries one signature, made for this chain with one of the keys. -/
def isSigned (chain : ChainId) (tx : Transaction) (keys : KeySet) : Bool :=
  match Digest.ofTransaction chain tx, tx.signatures with
  | .ok digest, [signature] => Signature.verifyAny keys.all signature digest
  | _, _ => false

/-- Takes the transaction of a call through all stages. -/
def Router.route (router : Router σ) (call : Rpc.Call) : Run σ (Option Json.Value) := do
  let tx ← Run.ofExcept (readTransaction call)
  let ⟨kind, body⟩ ← Run.ofExcept (readOperation tx)
  let keys ← Run.keysOf router.authority body.account
  if !isSigned router.chain tx keys then
    Run.fail notValid
  Run.ofExcept ((rules kind body).mapError fun cause =>
    .invalidParameter s!"invalid request: {cause.message}")
  Run.emit (.handled (.known kind body))
  router.table.handler kind body
  pure (some (acknowledgement call.id))

end BlogGateway.Broadcast
