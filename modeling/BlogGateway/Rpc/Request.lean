/-
Requests of remote calls.

A request names an interface, a method and arguments.  The arguments are kept as the text
they arrived in: what they mean is for the handler to say, and signatures are made over that
text.
-/
import BlogGateway.Rpc.Error

namespace BlogGateway.Rpc

open Json

/-- A call, as its handler sees it. -/
structure Call where
  id : UInt64
  api : String
  method : String
  args : List Raw
  deriving DecidableEq, Repr

namespace Call

/-- The text of the argument at a place, counted from zero. -/
def rawArg (call : Call) (index : Nat) : Except Error Raw :=
  match call.args[index]? with
  | some raw => .ok raw
  | none => .error (.invalidParameter s!"no params at index {index}")

/-- The argument at a place as a value of a type. -/
def arg {α : Type} (call : Call) (index : Nat) (read : Reader α) : Except Error α := do
  let raw ← call.rawArg index
  (raw.read read).mapError fun cause => .invalidParameter cause.message

end Call

/-- A request. -/
structure Request where
  /-- What is asked of the endpoint; only calls are answered. -/
  verb : String
  call : Call
  deriving DecidableEq, Repr

namespace Request

/-- Interface, method and arguments of a call. -/
structure Target where
  api : String
  method : String
  args : List Raw
  deriving DecidableEq, Repr

/-- Reads the list of interface, method and arguments.  The arguments may be `null`. -/
def readTarget : Reader Target := fun s => do
  let (parts, s) ← readList readRaw s
  match parts with
  | [api, method, args] =>
    let inner {α : Type} (raw : Raw) (read : Reader α) : Except Json.Error α :=
      (raw.read read).mapError fun cause => .rule cause.message
    let args ← inner args (readOption (readList readRaw))
    let api ← inner api (readString "a string")
    let method ← inner method (readString "a string")
    pure (⟨api, method, args.getD []⟩, s)
  | parts => .error (.rule s!"wrong number args: {parts.length} != 3")

/-- The fields of a request. -/
def fields : List Field := [
  .optional "method" (readString "a string") "",
  .required "params" readTarget,
  .optional "id" readUInt64 0]

/-- Reads a request. -/
def read : Reader Request := fun s => do
  let ((verb, target, id, ()), s) ← readRecord "RpcRequest" fields s
  pure (⟨verb, ⟨id, target.api, target.method, target.args⟩⟩, s)

/-- The request that a body spells. -/
def parse (body : Bytes) : Except Json.Error Request := readWholeText read body

end Request

end BlogGateway.Rpc
