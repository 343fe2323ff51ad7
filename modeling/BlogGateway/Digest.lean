/-
What is signed.

A signature is made over a hash, and the hash over one of two byte strings.  For a
transaction it is the chain id with the signed form of the transaction; for a read on behalf
of an account it is the chain id with the account, a salt and the parameters of the read.  A
parameter goes in as the hexadecimal text of its JSON text, so that every byte of it counts.
-/
import BlogGateway.Chain
import BlogGateway.Crypto.Sha256
import BlogGateway.Transaction

namespace BlogGateway

/-- A hash of 32 bytes. -/
abbrev Digest := Bytes

namespace Digest

/-- The bytes that are hashed for a transaction. -/
def transactionBytes (chain : ChainId) (tx : Transaction) :
    Except Transaction.EncodeError Bytes :=
  tx.encode.map (chain.bytes ++ ·)

/-- The hash that a transaction's signature is made over. -/
def ofTransaction (chain : ChainId) (tx : Transaction) :
    Except Transaction.EncodeError Digest :=
  (transactionBytes chain tx).map Sha256.digest

theorem ofTransaction_eq (chain : ChainId) (tx : Transaction) :
    ofTransaction chain tx = (transactionBytes chain tx).map Sha256.digest := rfl

/-- The bytes that are hashed for a signed read. -/
def queryBytes (chain : ChainId) (account salt : String) (params : List Json.Raw) : Bytes :=
  chain.bytes ++ Wire.text account ++ Wire.text salt
    ++ params.flatMap fun param => Wire.prefixed (Hex.encode param.bytes)

/-- The hash that the signature of a read is made over. -/
def ofQuery (chain : ChainId) (account salt : String) (params : List Json.Raw) : Digest :=
  Sha256.digest (queryBytes chain account salt params)

theorem ofQuery_eq (chain : ChainId) (account salt : String) (params : List Json.Raw) :
    ofQuery chain account salt params = Sha256.digest (queryBytes chain account salt params) :=
  rfl

end Digest

end BlogGateway
