/-
Transactions.

A transaction carries an operation to the gateway, with the signatures that prove who sent
it.  The form allows any number of operations and signatures and may leave the expiration
out; what is handled further has an expiration, exactly one operation, and no empty
signature.
-/
import BlogGateway.ChainTime
import BlogGateway.Operation.Basic

namespace BlogGateway

open Json

/-- A transaction as clients send it. -/
structure Transaction where
  refBlockNum : UInt16
  refBlockPrefix : UInt32
  expiration : Option ChainTime
  operations : List Operation
  signatures : List String
  deriving DecidableEq

namespace Transaction

/-! ### JSON -/

/-- The fields of a transaction. -/
def fields : List Field := [
  .optional "ref_block_num" readUInt16 0,
  .optional "ref_block_prefix" readUInt32 0,
  .optional "expiration" (readOption ChainTime.read) none,
  .optional "operations" (readList Operation.read) [],
  .optional "signatures" (readList (readString "a string")) []]

/-- Reads a transaction. -/
def read : Reader Transaction := fun s => do
  let ((refBlockNum, refBlockPrefix, expiration, operations, signatures, ()), s) ←
    readRecord "Transaction" fields s
  pure (⟨refBlockNum, refBlockPrefix, expiration, operations, signatures⟩, s)

/-- Written values between brackets, with commas. -/
def writeList (items : List Bytes) : Bytes :=
  Ascii.openBracket :: (items.intersperse [Ascii.comma]).flatten ++ [Ascii.closeBracket]

/-- A member of an object without the comma before it. -/
def writeMember (name : String) (value : Bytes) : Bytes :=
  writeText name ++ Ascii.colon :: value

/-- A transaction as JSON. -/
def write (tx : Transaction) : Bytes :=
  let members := [
    writeMember "ref_block_num" (Bytes.ofText (toString tx.refBlockNum.toNat)),
    writeMember "ref_block_prefix" (Bytes.ofText (toString tx.refBlockPrefix.toNat)),
    writeMember "expiration" (match tx.expiration with
      | some time => time.write
      | none => Bytes.ofText "null"),
    writeMember "operations" (writeList (tx.operations.map Operation.write)),
    writeMember "signatures" (writeList (tx.signatures.map writeText))]
  Ascii.openBrace :: (members.intersperse [Ascii.comma]).flatten ++ [Ascii.closeBrace]

/-! ### Shape -/

/-- Why a transaction is not of the shape that is handled further. -/
inductive ShapeError
  | missingExpiration
  | operationCount (count : Nat)
  | noSignatures
  | emptySignature (index : Nat)
  deriving DecidableEq, Repr

/-- The text of a shape error. -/
def ShapeError.message : ShapeError → String
  | .missingExpiration => "transaction is invalid: expiration is required"
  | .operationCount _ => "only one operation per transaction supported"
  | .noSignatures => "transaction is invalid: signatures are required"
  | .emptySignature index => s!"transaction is invalid: signature {index} is empty"

/-- The operation of a transaction that has the right shape. -/
def shape (tx : Transaction) : Except ShapeError Operation :=
  if tx.expiration.isNone then .error .missingExpiration
  else match tx.operations with
    | [operation] =>
      if tx.signatures.isEmpty then .error .noSignatures
      else match tx.signatures.findIdx? (· = "") with
        | some index => .error (.emptySignature index)
        | none => .ok operation
    | operations => .error (.operationCount operations.length)

/-- Checks the shape of a transaction. -/
def checkShape (tx : Transaction) : Except ShapeError Unit :=
  if tx.expiration.isNone then .error .missingExpiration
  else if tx.operations.length ≠ 1 then .error (.operationCount tx.operations.length)
  else if tx.signatures.isEmpty then .error .noSignatures
  else match tx.signatures.findIdx? (· = "") with
    | some index => .error (.emptySignature index)
    | none => .ok ()

/-- The operation of a transaction that has exactly one. -/
def operation? (tx : Transaction) : Option Operation :=
  match tx.operations with
  | [operation] => some operation
  | _ => none

/-! ### Signed bytes -/

/-- Why a transaction has no signed form. -/
inductive EncodeError
  | missingExpiration
  | operation (cause : Operation.Unencodable)
  deriving DecidableEq, Repr

/-- The text of an encoding error. -/
def EncodeError.message : EncodeError → String
  | .missingExpiration => "expiration should not be empty"
  | .operation cause => cause.message

/-- The signed form of a list of operations, one behind the other. -/
def encodeOperations (operations : List Operation) : Except EncodeError Bytes := do
  let encoded ← (operations.mapM Operation.encode).mapError .operation
  pure encoded.flatten

/-- The signed form: everything but the signatures, and an empty list of extensions. -/
def encode (tx : Transaction) : Except EncodeError Bytes :=
  match tx.expiration with
  | none => .error .missingExpiration
  | some expiration => do
    let operations ← encodeOperations tx.operations
    pure (Wire.uint16 tx.refBlockNum ++ Wire.uint32 tx.refBlockPrefix
      ++ Wire.uint32 expiration.seconds ++ Wire.varint tx.operations.length ++ operations
      ++ Wire.varint 0)

end Transaction

end BlogGateway
