/-
Keys from a node of the chain.

A node is asked over HTTP and answers in JSON with a result or an error.  What the request
says and what an answer means are decided here; a node itself is only what it makes of the
bytes it is sent.  Whatever goes wrong with a node is one error to clients, and its detail
is kept for reports.
-/
import BlogGateway.Authority.Lookup
import BlogGateway.Http.Status
import BlogGateway.Json.Record
import BlogGateway.Json.Value

namespace BlogGateway

open Json

/-- What becomes of a request to a node. -/
inductive Exchange
  /-- The request did not get through. -/
  | unreachable
  /-- The node answered with a status and a body. -/
  | replied (status : Nat) (body : Bytes)
  deriving DecidableEq, Repr

/-- What a node does with the bytes it is sent. -/
abbrev Node := Bytes → Exchange

namespace Node

/-- An error that a node reports. -/
structure Failure where
  code : Int
  message : String
  deriving DecidableEq, Repr

/-- Reads an error that a node reports. -/
def readFailure : Reader Failure := fun s => do
  let ((code, message, ()), s) ← readRecord "NodeError"
    [.optional "code" readInt64 0, .optional "message" (readString "a string") ""] s
  pure (⟨code, message⟩, s)

/-- What a node answers: a result of type `α`, an error, both or neither. -/
structure Reply (α : Type) where
  result : Option α
  error : Option Failure

/-- A field that may be missing from an object, but not from an array. -/
def maybe {α : Type} (name : String) (read : Reader α) : Field :=
  ⟨name, Option α, readOption read, some none, none⟩

/-- Reads an answer. -/
def readReply {α : Type} (read : Reader α) : Reader (Reply α) := fun s => do
  let ((result, error, ()), s) ← readRecord "NodeResponse"
    [maybe "result" read, maybe "error" readFailure] s
  pure (⟨result, error⟩, s)

/-- The interface of a node that is used. -/
def api : String := "database_api"

/-- The body of a request to a node. -/
def requestBody (method : String) (args : Value) : Bytes :=
  Ascii.openBrace :: writeText "id" ++ Ascii.colon :: Bytes.ofText "1"
    ++ Ascii.comma :: writeText "method" ++ Ascii.colon :: writeText "call"
    ++ Ascii.comma :: writeText "params" ++ Ascii.colon
      :: (Value.list [.string api, .string method, args]).write
    ++ [Ascii.closeBrace]

/-- The result in what a node answered to a method, if everything went well. -/
def resultOf {α : Type} (method : String) (read : Reader α) :
    Exchange → Except AuthorityError α
  | .unreachable => .error (.unavailable "error sending request")
  | .replied status body =>
    if !Http.isSuccess status then
      .error (.unavailable s!"HTTP {Http.statusText status} from blockchain node")
    else match readWholeText (readReply read) body with
      | .error _ => .error (.unavailable "error decoding response body")
      | .ok ⟨_, some failure⟩ =>
        .error (.unavailable s!"{api}.{method} failed ({failure.code}): {failure.message}")
      | .ok ⟨none, none⟩ => .error (.unavailable s!"{api}.{method} returned no result")
      | .ok ⟨some result, none⟩ => .ok result

/-! ### Keys of an account -/

/-- How deep the weight of a key may nest, which stands inside six containers. -/
def weightDepth : Nat := depthLimit - 6

/-- Reads the key texts of one level; weights are not looked at. -/
def readLevel : Reader (List String) := fun s => do
  let ((keys, ()), s) ← readRecord "Authority"
    [.optional "key_auths" (readList (readPair (readString "a string") (readValue weightDepth)))
      []] s
  pure (keys.map Prod.fst, s)

/-- The key texts of an account, level by level. -/
structure KeyTexts where
  owner : List String
  active : List String
  posting : List String
  deriving DecidableEq, Repr

/-- Reads the key texts of an account. -/
def readAccount : Reader KeyTexts := fun s => do
  let ((owner, active, posting, ()), s) ← readRecord "Account"
    [.optional "owner" readLevel [], .optional "active" readLevel [],
      .optional "posting" readLevel []] s
  pure (⟨owner, active, posting⟩, s)

/-- The method that looks up accounts. -/
def accountsMethod : String := "get_accounts"

/-- The request for an account. -/
def accountRequest (account : String) : Bytes :=
  requestBody accountsMethod (.list [.list [.string account]])

/-- The keys of the first of the accounts that a node found. -/
def keysOf : List KeyTexts → Except AuthorityError KeySet
  | [] => .error .accountNotFound
  | account :: _ => KeySet.parse account.owner account.active account.posting

/-- The keys that a node knows of an account. -/
def resolve (node : Node) (account : String) : Except AuthorityError KeySet :=
  match resultOf accountsMethod (readList readAccount) (node (accountRequest account)) with
  | .error cause => .error cause
  | .ok accounts => keysOf accounts

/-- A node as a source of keys that answers in time. -/
def authority (node : Node) (timeout : Milliseconds) : Authority where
  ask := fun account => .answered (node.resolve account)
  timeout := timeout
  stopping := false

/-! ### Reachability -/

/-- The method that every node answers. -/
def pingMethod : String := "get_dynamic_global_properties"

/-- The request that finds out whether a node can be asked. -/
def pingRequest : Bytes := requestBody pingMethod (.list [])

/-- How deep the answer of a reachable node may nest, which stands inside one container. -/
def pingDepth : Nat := depthLimit - 1

/-- Whether a node can be asked, or why not. -/
def ping (node : Node) : Except AuthorityError Unit :=
  (resultOf pingMethod (readValue pingDepth) (node pingRequest)).map fun _ => ()

end Node

end BlogGateway
