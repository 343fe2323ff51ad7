/-
Reads that sign the bytes of a transaction.

The bytes that are hashed for a read and those that are hashed for a transaction both begin
with the chain id, and neither says which of the two it is.  What follows the chain id is an
account, a salt and parameters on one side, and ten bytes of header, operations and a closing
zero on the other.  This file says how far that keeps the two apart.

A parameter is signed in hexadecimal, and no hexadecimal digit is the closing zero: a read
with parameters is never a transaction.  That needs parameters that are not empty texts, and
those that arrive with a call never are, by `Rpc.Claim.spelled_of_ofCall`.  Without parameters
the salt comes last, so it has to bring the zero itself, and an empty salt, which is a zero of
its own, leaves to the account everything else: the code of the first operation, or the number
of operations if there is none.

Nothing stands in the way of a salt that is chosen so.  The header of a transaction is any ten
bytes at all, and the account and the salt of a read are the bytes of a transaction exactly
when something that spells a list of operations comes behind ten of them.
-/
import BlogGateway.Proofs.Bytes.Hex
import BlogGateway.Proofs.Digest.Transaction

namespace BlogGateway

open Operation Wire

/-! ### What ends the bytes of a read -/

namespace Digest

/-- The bytes of a read with parameters do not end in zero. -/
theorem getLast?_queryBytes_ne_zero {chain : ChainId} {account salt : String}
    {params : List Json.Raw} (spelled : ∀ param ∈ params, param.text ≠ "") (h : params ≠ []) :
    (queryBytes chain account salt params).getLast? ≠ some 0 := by
  rcases List.eq_nil_or_concat params with hnil | ⟨front, last, rfl⟩
  · exact absurd hnil h
  have hbytes : last.bytes ≠ [] := by
    intro hnil
    exact spelled last (by simp) (Bytes.ofText_eq_nil_iff.mp hnil)
  have hdigits := Hex.encode_ne_nil hbytes
  intro hlast
  have hmem : (0 : UInt8) ∈ Hex.encode last.bytes := by
    apply List.mem_of_getLast?
    rw [← getLast?_prefixed hdigits, ← hlast]
    unfold queryBytes
    rw [List.concat_eq_append, List.flatMap_append, List.flatMap_singleton, ← List.append_assoc,
      List.getLast?_append_of_ne_nil _ (prefixed_ne_nil hdigits)]
  exact Hex.ne_zero_of_mem_encode hmem rfl

theorem queryBytes_nil (chain : ChainId) (account salt : String) :
    queryBytes chain account salt [] = chain.bytes ++ (text account ++ text salt) := by
  simp [queryBytes]

/-! ### What ends the bytes of a transaction -/

/-- The bytes spell a list of operations behind its length, and no extensions. -/
def SpellsOperations (bytes : Bytes) : Prop :=
  ∃ operations : List Known,
    bytes = varint operations.length ++ (operations.flatMap Known.encode ++ varint 0)

/-- The extensions come last, and there are none. -/
theorem getLast?_append_of_spells {front rest : Bytes} (h : SpellsOperations rest) :
    (front ++ rest).getLast? = some 0 := by
  obtain ⟨operations, rfl⟩ := h
  rw [varint_zero]
  simp only [← List.append_assoc]
  exact List.getLast?_concat

end Digest

namespace Transaction.Content

/-- The ten bytes in front of the operations. -/
def header (content : Content) : Bytes :=
  uint16 content.refBlockNum ++ (uint32 content.refBlockPrefix ++
    uint32 content.expiration.seconds)

theorem length_header (content : Content) : content.header.length = 10 := rfl

theorem encode_eq_header (content : Content) :
    content.encode = content.header ++ (varint content.operations.length ++
      (content.operations.flatMap Known.encode ++ varint 0)) := by
  simp only [encode, header, List.append_assoc]

/-- Any ten bytes are a header, in front of any operations. -/
theorem exists_header {bytes : Bytes} (h : bytes.length = 10) (operations : List Known) :
    ∃ content : Content, content.header = bytes ∧ content.operations = operations := by
  have hsplit : bytes = bytes.take 2 ++ ((bytes.drop 2).take 4 ++ (bytes.drop 2).drop 4) := by
    rw [List.take_append_drop, List.take_append_drop]
  have hlength : (bytes.take 2).length = 2 ∧ ((bytes.drop 2).take 4).length = 4 ∧
      ((bytes.drop 2).drop 4).length = 4 := by simp [h]
  obtain ⟨num, hnum⟩ := exists_uint16 hlength.1
  obtain ⟨pre, hpre⟩ := exists_uint32 hlength.2.1
  obtain ⟨seconds, hseconds⟩ := exists_uint32 hlength.2.2
  refine ⟨⟨num, pre, ⟨seconds⟩, operations⟩, ?_, rfl⟩
  rw [hsplit, hnum, hpre, hseconds]
  rfl

end Transaction.Content

/-! ### Which reads sign a transaction -/

namespace Digest

open Transaction

private theorem params_eq_nil_of_eq {chain chain' : ChainId} {account salt : String}
    {params : List Json.Raw} {content : Content}
    (spelled : ∀ param ∈ params, param.text ≠ "")
    (h : queryBytes chain account salt params = chain'.bytes ++ content.encode) :
    params = [] := by
  by_cases hparams : params = []
  · exact hparams
  · exfalso
    apply getLast?_queryBytes_ne_zero spelled hparams
    rw [h, content.encode_eq_header, ← List.append_assoc]
    exact getLast?_append_of_spells ⟨content.operations, rfl⟩

theorem exists_transaction_iff {chain chain' : ChainId} {account salt : String}
    {params : List Json.Raw} (spelled : ∀ param ∈ params, param.text ≠ "") :
    (∃ tx, transactionBytes chain' tx = .ok (queryBytes chain account salt params)) ↔
      chain = chain' ∧ params = [] ∧ ∃ header rest, header.length = 10 ∧
        SpellsOperations rest ∧ text account ++ text salt = header ++ rest := by
  constructor
  · intro h
    obtain ⟨tx, h⟩ := h
    obtain ⟨content, -, hbytes⟩ := transactionBytes_eq_ok_iff.mp h
    obtain rfl := params_eq_nil_of_eq spelled hbytes
    rw [queryBytes_nil] at hbytes
    obtain ⟨hchain, hrest⟩ := selfDelimiting_chain hbytes
    exact ⟨hchain, rfl, content.header, _, content.length_header, ⟨content.operations, rfl⟩,
      hrest.trans content.encode_eq_header⟩
  · intro h
    obtain ⟨rfl, rfl, header, rest, hlength, ⟨operations, rfl⟩, hsplit⟩ := h
    obtain ⟨content, rfl, rfl⟩ := Content.exists_header hlength operations
    refine ⟨⟨content.refBlockNum, content.refBlockPrefix, some content.expiration,
      content.operations.map ofKnown, []⟩, ?_⟩
    refine transactionBytes_eq_ok_iff.mpr ⟨content, ⟨rfl, rfl, rfl, rfl⟩, ?_⟩
    rw [queryBytes_nil, hsplit, content.encode_eq_header]

/-! ### What such a read looks like -/

/-- The code of a kind is one small byte. -/
theorem varint_code (kind : Kind) : varint kind.code = [kind.code.toUInt8] ∧ kind.code ≤ 20 := by
  have hcode : kind.code ≤ 20 := by cases kind <;> decide
  exact ⟨varint_of_lt (by omega), hcode⟩

/-- The zero at the end is the last character of a salt that is not empty. -/
theorem getLast?_salt {account salt : String} {header rest : Bytes}
    (hspells : SpellsOperations rest) (h : text account ++ text salt = header ++ rest)
    (hsalt : salt ≠ "") : salt.toList.getLast? = some '\x00' := by
  have hbytes : Bytes.ofText salt ≠ [] := mt Bytes.ofText_eq_nil_iff.mp hsalt
  have hzero : (Bytes.ofText salt).getLast? = some 0 := by
    rw [← getLast?_prefixed hbytes,
      ← List.getLast?_append_of_ne_nil (text account) (prefixed_ne_nil hbytes)]
    exact (congrArg List.getLast? h).trans (getLast?_append_of_spells hspells)
  obtain ⟨c, hc, hnat⟩ := Bytes.getLast?_of_getLast?_ofText hzero (by decide)
  have hchar : c = '\x00' := Char.toNat_inj.mp hnat
  rw [hc, hchar]

/-- An account with no salt holds the code of the first operation, or the zero that says
there is none. -/
theorem exists_char_account {account : String} {header rest : Bytes}
    (hlength : header.length = 10) (hspells : SpellsOperations rest)
    (h : text account ++ text "" = header ++ rest) :
    ∃ c ∈ account.toList, c.toNat ≤ 20 := by
  obtain ⟨operations, rfl⟩ := hspells
  have hfront : text account
      = header ++ (varint operations.length ++ operations.flatMap Known.encode) := by
    have hempty : text "" = varint 0 := List.append_nil _
    rw [hempty] at h
    simp only [← List.append_assoc] at h ⊢
    exact List.append_cancel_right h
  cases operations with
  | nil =>
      -- Only the number of operations is left, and the account is not empty to begin with.
      have hbytes : Bytes.ofText account ≠ [] := by
        intro hnil
        have := congrArg List.length hfront
        simp [text, prefixed, hnil, varint_of_lt, hlength] at this
      have hlast : (Bytes.ofText account).getLast? = some 0 := by
        rw [← getLast?_prefixed hbytes]
        rw [List.length_nil, varint_zero, List.flatMap_nil, List.append_nil] at hfront
        exact (congrArg List.getLast? hfront).trans List.getLast?_concat
      obtain ⟨c, hc, hnat⟩ := Bytes.getLast?_of_getLast?_ofText hlast (by decide)
      exact ⟨c, List.mem_of_getLast? hc, by rw [hnat]; decide⟩
  | cons first operations =>
      obtain ⟨hcode, hle⟩ := varint_code first.1
      have hcodeNat : (first.1.code.toUInt8).toNat = first.1.code := by
        simp
        omega
      -- The number of operations ends with a byte below 128, and that is behind the length.
      obtain ⟨front, last, hcount, -, hlast⟩ := varint_eq_append (first :: operations).length
      unfold text prefixed at hfront
      rw [← List.append_assoc] at hfront
      obtain ⟨more, -, haccount⟩ := split_of_varint_append hfront
        (List.mem_append_right header (hcount ▸ by simp)) hlast
      have hmem : first.1.code.toUInt8 ∈ Bytes.ofText account := by
        rw [haccount, List.flatMap_cons, Known.encode, hcode]
        simp
      obtain ⟨c, hc, hnat⟩ := Bytes.exists_char_of_mem_ofText hmem (by rw [hcodeNat]; omega)
      exact ⟨c, hc, by rw [hnat, hcodeNat]; exact hle⟩

/--
**Only a read without parameters can sign the bytes of a transaction.**

It does so exactly when the account and the salt spell a list of operations behind ten bytes,
and then the salt ends with the character zero; or there is no salt, and the account has a
character that is no larger than the code of an operation.
-/
theorem query_signs_transaction_iff (chain chain' : ChainId) (account salt : String)
    (params : List Json.Raw) (spelled : ∀ param ∈ params, param.text ≠ "") :
    ((∃ tx, transactionBytes chain' tx = .ok (queryBytes chain account salt params)) ↔
      chain = chain' ∧ params = [] ∧ ∃ header rest, header.length = 10 ∧
        SpellsOperations rest ∧ text account ++ text salt = header ++ rest) ∧
    ((∃ tx, transactionBytes chain' tx = .ok (queryBytes chain account salt params)) →
      salt.toList.getLast? = some '\x00' ∨
        salt = "" ∧ ∃ c ∈ account.toList, c.toNat ≤ 20) := by
  refine ⟨exists_transaction_iff spelled, ?_⟩
  intro h
  obtain ⟨-, -, header, rest, hlength, hspells, hsplit⟩ := (exists_transaction_iff spelled).mp h
  by_cases hsalt : salt = ""
  · subst hsalt
    exact .inr ⟨rfl, exists_char_account hlength hspells hsplit⟩
  · exact .inl (getLast?_salt hspells hsplit hsalt)

/-- No transaction is signed with a read that has a parameter. -/
theorem not_transaction_of_param :
    ¬ ∃ tx, transactionBytes .testnet tx
      = .ok (queryBytes .testnet "roselle" "1111\x00" [⟨"\"draft1\""⟩]) := by
  intro h
  have hparams := ((query_signs_transaction_iff .testnet .testnet "roselle" "1111\x00"
    [⟨"\"draft1\""⟩] (by decide)).1.mp h).2.1
  cases hparams

/-- The bytes of reads and of transactions are not kept apart: with a salt that goes on where
the name leaves off, alice reads and registers with the same bytes. -/
theorem query_transaction_collision :
    ¬ ∀ (chain : ChainId) (account salt : String) (params : List Json.Raw) (tx : Transaction)
        (bytes : Bytes), tx.expiration.isSome →
        (∀ operation ∈ tx.operations, operation.kind?.isSome) →
        transactionBytes chain tx = .ok bytes →
        queryBytes chain account salt params ≠ bytes := by
  intro separated
  have hbytes : transactionBytes .mainnet
      ⟨24837, 1701013868, some ⟨1667391756⟩, [.known .register ⟨"alice"⟩], []⟩
        = .ok (queryBytes .mainnet "alice" "abc\x01\x00\x05alice\x00" []) :=
    transactionBytes_eq_ok_iff.mpr
      ⟨⟨24837, 1701013868, ⟨1667391756⟩, [⟨.register, ⟨"alice"⟩⟩]⟩, ⟨rfl, rfl, rfl, rfl⟩,
        by decide +kernel⟩
  exact separated .mainnet "alice" "abc\x01\x00\x05alice\x00" [] _ _ (by decide) (by decide)
    hbytes rfl

end Digest

end BlogGateway
