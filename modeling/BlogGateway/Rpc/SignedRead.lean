/-
Reads on behalf of an account.

Some of what the blog keeps is for one account only.  A call that reads it carries the name
of the account, a salt, a signature and the parameters of the read, and the signature covers
all of them.  The wrapped handler runs only when a key of the account made the signature, and
sees exactly the parameters that were signed.
-/
import BlogGateway.Rpc.Router

namespace BlogGateway.Rpc

open Json

/-- A read whose account has been proven. -/
structure SignedCall where
  id : UInt64
  account : String
  params : List Raw
  deriving DecidableEq, Repr

/-- The parameter at a place as a value of a type. -/
def SignedCall.param {α : Type} (call : SignedCall) (index : Nat) (read : Reader α) :
    Except Error α :=
  match call.params[index]? with
  | none => .error (.invalidParameter s!"no params at index {index}")
  | some raw => (raw.read read).mapError fun cause => .invalidParameter cause.message

/-- What a signed read claims. -/
structure Claim where
  account : String
  salt : String
  signature : String
  params : List Raw
  deriving DecidableEq, Repr

/-- The claim in the arguments of a call. -/
def Claim.ofCall (call : Call) : Except Error Claim := do
  let account ← call.arg 0 (readString "a string")
  let salt ← call.arg 1 (readString "a string")
  let signature ← call.arg 2 (readString "a string")
  let params ← call.arg 3 (readList readRaw)
  pure ⟨account, salt, signature, params⟩

/-- Whether one of the keys made the signature of a claim on this chain. -/
def Claim.isSigned (claim : Claim) (chain : ChainId) (keys : KeySet) : Bool :=
  Signature.verifyAny keys.all claim.signature
    (Digest.ofQuery chain claim.account claim.salt claim.params)

/-- Checks who makes a call. -/
def authenticate {σ : Type} (chain : ChainId) (authority : Authority) (call : Call) :
    Run σ SignedCall := do
  let claim ← Run.ofExcept (Claim.ofCall call)
  let keys ← Run.keysOf authority claim.account
  if !claim.isSigned chain keys then
    Run.fail (.invalidParameter "signature is not valid")
  pure ⟨call.id, claim.account, claim.params⟩

/-- The handler that checks who makes a call and then gives it to another. -/
def signed {σ : Type} (chain : ChainId) (authority : Authority)
    (handler : SignedCall → Run σ (Option Value)) : Handler σ := fun call => do
  let call ← authenticate chain authority call
  handler call

end BlogGateway.Rpc
