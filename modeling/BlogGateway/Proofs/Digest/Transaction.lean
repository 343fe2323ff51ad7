/-
What the signature of a transaction covers.

A transaction has a signed form when it has an expiration and only known operations, and the
form then depends on its `Content`: the two numbers of the header, the expiration and the
operations.  Each of them is self-delimiting, the list of operations because its length is in
front, so contents are told apart by their bytes.

Every signed form starts behind the 32 bytes of a chain id.  The bytes that are hashed thus
determine the chain and everything in the transaction but its signatures, and none of them is
a beginning of others: nothing can be added to a signed transaction, nor left out of it.  Two
transactions that share a hash have the same content, or their bytes collide.
-/
import BlogGateway.Digest
import BlogGateway.Proofs.Digest.Operation

namespace BlogGateway

open Operation Wire

namespace Transaction

/-! ### Contents -/

/-- What the signature of a transaction covers. -/
structure Content where
  refBlockNum : UInt16
  refBlockPrefix : UInt32
  expiration : ChainTime
  operations : List Known

/-- The numbers of the header, the operations behind their number, and no extensions. -/
def Content.encode (content : Content) : Bytes :=
  uint16 content.refBlockNum ++ (uint32 content.refBlockPrefix ++
    (uint32 content.expiration.seconds ++ (varint content.operations.length ++
      (content.operations.flatMap Known.encode ++ varint 0))))

/-- Contents are told apart field by field. -/
theorem Content.selfDelimiting_encode : SelfDelimiting Content.encode := by
  intro a b s t h
  obtain ⟨num, pre, ⟨seconds⟩, operations⟩ := a
  obtain ⟨num', pre', ⟨seconds'⟩, operations'⟩ := b
  simp only [Content.encode, List.append_assoc] at h
  obtain ⟨hnum, hrest⟩ := selfDelimiting_uint16 h
  obtain ⟨hpre, hrest⟩ := selfDelimiting_uint32 hrest
  obtain ⟨hseconds, hrest⟩ := selfDelimiting_uint32 hrest
  obtain ⟨hlength, hrest⟩ := selfDelimiting_varint hrest
  obtain ⟨hoperations, hrest⟩ := Known.selfDelimiting_encode.flatMap hlength hrest
  obtain ⟨-, hst⟩ := selfDelimiting_varint hrest
  subst hnum hpre hseconds hoperations
  exact ⟨rfl, hst⟩

/-- The transaction has the content, and signatures besides. -/
structure Holds (tx : Transaction) (content : Content) : Prop where
  refBlockNum : tx.refBlockNum = content.refBlockNum
  refBlockPrefix : tx.refBlockPrefix = content.refBlockPrefix
  expiration : tx.expiration = some content.expiration
  operations : tx.operations = content.operations.map ofKnown

/-- The signed form of a transaction is that of its content. -/
theorem encode_eq_ok_iff {tx : Transaction} {bytes : Bytes} :
    tx.encode = .ok bytes ↔ ∃ content, tx.Holds content ∧ bytes = content.encode := by
  obtain ⟨num, pre, expiration, operations, signatures⟩ := tx
  cases expiration with
  | none =>
      constructor
      · intro h
        cases h
      · intro h
        obtain ⟨content, holds, -⟩ := h
        cases holds.expiration
  | some time =>
      constructor
      · intro h
        obtain ⟨encoded, hops, h⟩ := Except.bind_eq_ok_iff.mp h
        obtain ⟨known, rfl, rfl⟩ := encodeOperations_eq_ok_iff.mp hops
        refine ⟨⟨num, pre, time, known⟩, ⟨rfl, rfl, rfl, rfl⟩, ?_⟩
        rw [← Except.ok.inj h, List.length_map]
        simp only [Content.encode, List.append_assoc]
      · intro h
        obtain ⟨⟨num', pre', time', known⟩, ⟨hnum, hpre, hexp, hops⟩, rfl⟩ := h
        dsimp only at hnum hpre hexp hops
        obtain rfl := Option.some.inj hexp
        subst hnum hpre hops
        refine Except.bind_eq_ok_iff.mpr
          ⟨_, encodeOperations_eq_ok_iff.mpr ⟨known, rfl, rfl⟩, ?_⟩
        rw [List.length_map]
        simp only [Content.encode, List.append_assoc]
        rfl

/-- A transaction that expires and has only known operations has a content. -/
theorem exists_holds {tx : Transaction} (expires : tx.expiration.isSome)
    (known : ∀ operation ∈ tx.operations, operation.kind?.isSome) :
    ∃ content, tx.Holds content := by
  obtain ⟨time, htime⟩ := Option.isSome_iff_exists.mp expires
  obtain ⟨operations, hops⟩ := exists_known_of_forall_kind? known
  exact ⟨⟨tx.refBlockNum, tx.refBlockPrefix, time, operations⟩, rfl, rfl, htime, hops⟩

end Transaction

/-! ### The bytes that are hashed -/

namespace Digest

theorem selfDelimiting_chain : SelfDelimiting ChainId.bytes := by
  refine .of_length ChainId.length_eq fun a b h => ?_
  cases a
  cases b
  simp_all

theorem transactionBytes_eq_ok_iff {chain : ChainId} {tx : Transaction} {bytes : Bytes} :
    transactionBytes chain tx = .ok bytes ↔
      ∃ content, tx.Holds content ∧ bytes = chain.bytes ++ content.encode := by
  unfold transactionBytes
  rw [Except.map_eq_ok_iff]
  constructor
  · intro h
    obtain ⟨encoded, hencode, rfl⟩ := h
    obtain ⟨content, holds, rfl⟩ := Transaction.encode_eq_ok_iff.mp hencode
    exact ⟨content, holds, rfl⟩
  · intro h
    obtain ⟨content, holds, rfl⟩ := h
    exact ⟨_, Transaction.encode_eq_ok_iff.mpr ⟨content, holds, rfl⟩, rfl⟩

theorem transactionBytes_of_holds {tx : Transaction} {content : Transaction.Content}
    (holds : tx.Holds content) (chain : ChainId) :
    transactionBytes chain tx = .ok (chain.bytes ++ content.encode) :=
  transactionBytes_eq_ok_iff.mpr ⟨content, holds, rfl⟩

/-- The bytes of a chain and a content are told apart, whatever follows. -/
theorem selfDelimiting_chain_content :
    SelfDelimiting fun signed : ChainId × Transaction.Content =>
      signed.1.bytes ++ signed.2.encode := by
  intro a b s t h
  obtain ⟨chain, content⟩ := a
  obtain ⟨chain', content'⟩ := b
  simp only [List.append_assoc] at h
  obtain ⟨hchain, hrest⟩ := selfDelimiting_chain h
  obtain ⟨hcontent, hst⟩ := Transaction.Content.selfDelimiting_encode hrest
  exact ⟨by rw [hchain, hcontent], hst⟩

/-- Transactions with the same bytes are the same but for their signatures, on the same
chain. -/
theorem same_of_transactionBytes {chain chain' : ChainId} {tx tx' : Transaction} {bytes : Bytes}
    (hbytes : transactionBytes chain tx = .ok bytes)
    (hbytes' : transactionBytes chain' tx' = .ok bytes) :
    chain = chain' ∧ tx.refBlockNum = tx'.refBlockNum ∧
      tx.refBlockPrefix = tx'.refBlockPrefix ∧ tx.expiration = tx'.expiration ∧
      tx.operations = tx'.operations := by
  obtain ⟨content, holds, rfl⟩ := transactionBytes_eq_ok_iff.mp hbytes
  obtain ⟨content', holds', same⟩ := transactionBytes_eq_ok_iff.mp hbytes'
  have hsame := selfDelimiting_chain_content.injective (a := (chain, content))
    (b := (chain', content')) same
  simp only [Prod.mk.injEq] at hsame
  obtain ⟨rfl, rfl⟩ := hsame
  exact ⟨rfl, holds.refBlockNum.trans holds'.refBlockNum.symm,
    holds.refBlockPrefix.trans holds'.refBlockPrefix.symm,
    holds.expiration.trans holds'.expiration.symm,
    holds.operations.trans holds'.operations.symm⟩

/--
**The bytes of a transaction determine its chain and its content.**

Transactions that expire and have only known operations have bytes to hash.  These are never a
beginning of others, and when they are the same then so is the chain, and so is everything in
the transactions but the signatures.
-/
theorem transactionBytes_determine (chain chain' : ChainId) (tx tx' : Transaction)
    (expires : tx.expiration.isSome)
    (known : ∀ operation ∈ tx.operations, operation.kind?.isSome)
    (expires' : tx'.expiration.isSome)
    (known' : ∀ operation ∈ tx'.operations, operation.kind?.isSome) :
    ∃ bytes bytes', transactionBytes chain tx = .ok bytes ∧
      transactionBytes chain' tx' = .ok bytes' ∧
      (bytes <+: bytes' ∨ bytes' <+: bytes → bytes = bytes') ∧
      (bytes = bytes' → chain = chain' ∧ tx.refBlockNum = tx'.refBlockNum ∧
        tx.refBlockPrefix = tx'.refBlockPrefix ∧ tx.expiration = tx'.expiration ∧
        tx.operations = tx'.operations) := by
  obtain ⟨content, holds⟩ := Transaction.exists_holds expires known
  obtain ⟨content', holds'⟩ := Transaction.exists_holds expires' known'
  have hbytes := transactionBytes_of_holds holds chain
  have hbytes' := transactionBytes_of_holds holds' chain'
  refine ⟨_, _, hbytes, hbytes', ?_, fun h => same_of_transactionBytes hbytes (h ▸ hbytes')⟩
  -- What a longer one has in addition is told apart from nothing at all.
  intro h
  rcases h with ⟨more, h⟩ | ⟨more, h⟩
  · obtain ⟨hsame, -⟩ := selfDelimiting_chain_content (a := (chain, content))
      (b := (chain', content')) (s := more) (t := []) (by rw [h, List.append_nil])
    simp only [Prod.mk.injEq] at hsame
    rw [hsame.1, hsame.2]
  · obtain ⟨hsame, -⟩ := selfDelimiting_chain_content (a := (chain', content'))
      (b := (chain, content)) (s := more) (t := []) (by rw [h, List.append_nil])
    simp only [Prod.mk.injEq] at hsame
    rw [hsame.1, hsame.2]

/-- What is signed to follow an account on the main chain is no beginning of what is signed
for the same on the chain for tests. -/
theorem mainnet_not_prefix_testnet :
    ∃ bytes bytes',
      transactionBytes .mainnet
        ⟨16, 1234, some ⟨100⟩, [.known .follow ⟨"acc1", "acc2"⟩], []⟩ = .ok bytes ∧
      transactionBytes .testnet
        ⟨16, 1234, some ⟨100⟩, [.known .follow ⟨"acc1", "acc2"⟩], []⟩ = .ok bytes' ∧
      ¬ bytes <+: bytes' := by
  obtain ⟨bytes, bytes', hbytes, hbytes', hbegins, hsame⟩ :=
    transactionBytes_determine .mainnet .testnet
      ⟨16, 1234, some ⟨100⟩, [.known .follow ⟨"acc1", "acc2"⟩], []⟩
      ⟨16, 1234, some ⟨100⟩, [.known .follow ⟨"acc1", "acc2"⟩], []⟩
      (by decide) (by decide) (by decide) (by decide)
  refine ⟨bytes, bytes', hbytes, hbytes', ?_⟩
  intro h
  have hchain := (hsame (hbegins (.inl h))).1
  exact absurd hchain (by decide)

/-! ### The hash -/

/-- Two byte strings are different, and have the same hash. -/
def Collides (bytes bytes' : Bytes) : Prop :=
  bytes ≠ bytes' ∧ Sha256.digest bytes = Sha256.digest bytes'

theorem ofTransaction_eq_ok_iff {chain : ChainId} {tx : Transaction} {digest : Digest} :
    ofTransaction chain tx = .ok digest ↔
      ∃ bytes, transactionBytes chain tx = .ok bytes ∧ digest = Sha256.digest bytes := by
  rw [ofTransaction_eq, Except.map_eq_ok_iff]
  exact exists_congr fun bytes => and_congr_right fun _ => eq_comm

/-- **A signature of one transaction is none of another**, unless their bytes are a collision of
the hash. -/
theorem same_or_collides_of_ofTransaction {chain chain' : ChainId} {tx tx' : Transaction}
    {digest : Digest} (hdigest : ofTransaction chain tx = .ok digest)
    (hdigest' : ofTransaction chain' tx' = .ok digest) :
    (chain = chain' ∧ tx.refBlockNum = tx'.refBlockNum ∧
      tx.refBlockPrefix = tx'.refBlockPrefix ∧ tx.expiration = tx'.expiration ∧
      tx.operations = tx'.operations) ∨
    ∃ bytes bytes', transactionBytes chain tx = .ok bytes ∧
      transactionBytes chain' tx' = .ok bytes' ∧ Collides bytes bytes' := by
  obtain ⟨bytes, hbytes, rfl⟩ := ofTransaction_eq_ok_iff.mp hdigest
  obtain ⟨bytes', hbytes', same⟩ := ofTransaction_eq_ok_iff.mp hdigest'
  by_cases equal : bytes = bytes'
  · subst equal
    exact .inl (same_of_transactionBytes hbytes hbytes')
  · exact .inr ⟨bytes, bytes', hbytes, hbytes', equal, same⟩

end Digest

end BlogGateway
