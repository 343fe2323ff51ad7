/-
Transactions are read back from what is written.

A transaction is written as an object with a member for each of its fields, and each of them
is read back: numbers from their digits, the time from its text, operations and signatures
one by one from their lists.  So the gateway and a client that writes a transaction mean the
same one, and compute the same hash for it.
-/
import BlogGateway.Digest
import BlogGateway.Proofs.ChainTime
import BlogGateway.Proofs.Operation.Written

namespace BlogGateway.Transaction

open Json Ascii

/-! ### Fields -/

/-- A list is read back when each of its values is. -/
theorem reads_writeList {α : Type} {read : Reader α} {write : α → Bytes} (values : List α)
    (reads : ∀ value ∈ values, Reads read (write value) value) :
    Reads (readList read) (writeList (values.map write)) values :=
  reads_listed (listed_intersperse _) reads

/-- The expiration as it is written. -/
def writeExpiration : Option ChainTime → Bytes
  | some time => time.write
  | none => Bytes.ofText "null"

theorem reads_writeExpiration (expiration : Option ChainTime) :
    Reads (readOption ChainTime.read) (writeExpiration expiration) expiration := by
  cases expiration with
  | none => exact reads_null
  | some time =>
      have other : (writeExpiration (some time)).head? ≠ some lowerN := by
        show some quote ≠ some lowerN
        decide
      exact time.reads_write.option other

/-! ### Transactions -/

theorem distinct_fields : (fields.map Field.name).Nodup := by decide

/-- A transaction that is written is read as itself. -/
theorem reads_write {tx : Transaction}
    (spellable : ∀ operation ∈ tx.operations, operation.Spellable) : Reads read tx.write tx := by
  have num := reads_uint16 tx.refBlockNum
  have pre := reads_uint32 tx.refBlockPrefix
  have expiration := reads_writeExpiration tx.expiration
  have operations := reads_writeList tx.operations fun operation hmem =>
    Operation.reads_write (spellable operation hmem)
  have signatures := reads_writeList tx.signatures fun signature _ =>
    reads_writeText signature "a string"
  have holds : Json.Holds fields
      [.written "ref_block_num" _ num.isValue, .written "ref_block_prefix" _ pre.isValue,
        .written "expiration" _ expiration.isValue, .written "operations" _ operations.isValue,
        .written "signatures" _ signatures.isValue]
      (tx.refBlockNum, tx.refBlockPrefix, tx.expiration, tx.operations, tx.signatures, ()) :=
    .member rfl num (.member rfl pre (.member rfl expiration (.member rfl operations
      (.member rfl signatures .nil))))
  have record := reads_holds "Transaction" distinct_fields holds (listed_intersperse _)
  simp only [List.map_cons, List.map_nil, Member.bytes_written] at record
  exact record.andThen fun rest => rfl

/-- **What is written is read back**: every known operation, every unknown one with its body
byte for byte, and every transaction of such operations, which then has the hash that it had. -/
theorem written_read_back :
    (∀ operation : Operation, operation.Spellable →
      Operation.decode operation.write = .ok operation) ∧
    ∀ tx : Transaction, (∀ operation ∈ tx.operations, operation.Spellable) →
      readWholeText read tx.write = .ok tx ∧
        ∀ chain, (readWholeText read tx.write).map (Digest.ofTransaction chain)
          = .ok (Digest.ofTransaction chain tx) := by
  refine ⟨fun operation spellable => Operation.decode_of_spellable spellable, ?_⟩
  intro tx spellable
  have whole := (reads_write spellable).alone
  refine ⟨whole, fun chain => ?_⟩
  rw [whole]
  rfl

/-- A transaction on a leap day, of an operation that no kind has a name for. -/
def wave : Transaction where
  refBlockNum := 7
  refBlockPrefix := 0
  expiration := some ⟨951782400⟩
  operations := [.unknown "wave" ⟨"[ ]"⟩]
  signatures := ["\""]

/-- The white space inside the body of an unknown operation is kept. -/
theorem wave_read_back :
    (∀ operation ∈ wave.operations, operation.Spellable) ∧
      Operation.decode (Operation.unknown "wave" ⟨"[ ]"⟩).write
        = .ok (.unknown "wave" ⟨"[ ]"⟩) ∧
      readWholeText read wave.write = .ok wave := by
  have blank : Blank [0x20] := by decide
  have spellable : (Operation.unknown "wave" ⟨"[ ]"⟩).Spellable := by
    refine ⟨fun kind => ?_, .list (.nil blank) fun token h => nomatch h⟩
    cases kind <;> decide
  have all : ∀ operation ∈ wave.operations, operation.Spellable := by
    intro operation hmem
    obtain rfl := List.mem_singleton.mp hmem
    exact spellable
  exact ⟨all, written_read_back.1 _ spellable, (written_read_back.2 wave all).1⟩

end BlogGateway.Transaction
