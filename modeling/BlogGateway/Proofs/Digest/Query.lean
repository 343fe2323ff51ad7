/-
What the signature of a read covers.

The bytes that are hashed for a read are those of its chain, the account and the salt behind
their lengths, and then the parameters, each in hexadecimal behind its length.  Nothing says
how many parameters there are.  But hexadecimal keeps bytes apart, a length keeps items apart,
and no item is empty, so that the bytes tell where the last of the parameters is: equal bytes
come from equal reads.  What is signed is the hash of these bytes, so that reads with one hash
are equal as well, or their bytes collide.
-/
import BlogGateway.Digest
import BlogGateway.Proofs.Bytes.Hex
import BlogGateway.Proofs.Digest.Transaction

namespace BlogGateway

open Wire

/-- Bytes are told apart by their digits. -/
theorem Hex.encode_injective {a b : Bytes} (h : encode a = encode b) : a = b := by
  have digits : SelfDelimiting fun b : UInt8 =>
      [Ascii.hexDigit (b / 16), Ascii.hexDigit (b % 16)] := by
    refine .of_length (n := 2) (fun _ => rfl) fun a b h => ?_
    simp only [List.cons.injEq, and_true] at h
    exact digits_injective h.1 h.2
  exact digits.flatMap_injective (fun _ => List.cons_ne_nil _ _) h

namespace Digest

/-- A parameter as it is signed tells where it ends. -/
theorem selfDelimiting_param :
    SelfDelimiting fun param : Json.Raw => prefixed (Hex.encode param.bytes) := by
  refine selfDelimiting_prefixed.comap fun a b h => ?_
  have same : a.text = b.text := Bytes.ofText_injective (Hex.encode_injective h)
  cases a
  cases b
  exact congrArg _ same

/-- The bytes that are hashed for an account and a salt determine the parameters. -/
theorem params_eq_of_queryBytes {chain : ChainId} {account salt : String}
    {params params' : List Json.Raw}
    (h : queryBytes chain account salt params = queryBytes chain account salt params') :
    params = params' := by
  refine selfDelimiting_param.flatMap_injective (fun param => ?_) (List.append_cancel_left h)
  exact List.append_ne_nil_of_left_ne_nil (varint_ne_nil _) _

/-- What comes before the parameters is told apart from them, and from any other. -/
theorem selfDelimiting_heading :
    SelfDelimiting fun heading : ChainId × String × String =>
      heading.1.bytes ++ text heading.2.1 ++ text heading.2.2 := by
  intro a b s t h
  obtain ⟨chain, account, salt⟩ := a
  obtain ⟨chain', account', salt'⟩ := b
  simp only [List.append_assoc] at h
  obtain ⟨hchain, hrest⟩ := selfDelimiting_chain h
  obtain ⟨haccount, hrest⟩ := selfDelimiting_text hrest
  obtain ⟨hsalt, hst⟩ := selfDelimiting_text hrest
  exact ⟨by rw [hchain, haccount, hsalt], hst⟩

theorem eq_of_queryBytes {chain chain' : ChainId} {account account' salt salt' : String}
    {params params' : List Json.Raw}
    (same : queryBytes chain account salt params = queryBytes chain' account' salt' params') :
    chain = chain' ∧ account = account' ∧ salt = salt' ∧ params = params' := by
  obtain ⟨hheading, -⟩ := selfDelimiting_heading (a := (chain, account, salt))
    (b := (chain', account', salt')) same
  simp only [Prod.mk.injEq] at hheading
  obtain ⟨rfl, rfl, rfl⟩ := hheading
  exact ⟨rfl, rfl, rfl, params_eq_of_queryBytes same⟩

/--
**The bytes of a read determine its chain, account, salt and parameters.**

Two reads are hashed over the same bytes only when they are the same read: the same parameters
in the same number and order, for the same account with the same salt on the same chain.
-/
theorem queryBytes_eq_iff (chain chain' : ChainId) (account account' salt salt' : String)
    (params params' : List Json.Raw) :
    queryBytes chain account salt params = queryBytes chain' account' salt' params' ↔
      chain = chain' ∧ account = account' ∧ salt = salt' ∧ params = params' := by
  refine ⟨eq_of_queryBytes, ?_⟩
  rintro ⟨rfl, rfl, rfl, rfl⟩
  rfl

/-- **A signature of one read is none of another**, unless their bytes are a collision of the
hash. -/
theorem same_or_collides_of_ofQuery {chain chain' : ChainId}
    {account account' salt salt' : String} {params params' : List Json.Raw}
    (h : ofQuery chain account salt params = ofQuery chain' account' salt' params') :
    (chain = chain' ∧ account = account' ∧ salt = salt' ∧ params = params') ∨
    Collides (queryBytes chain account salt params)
      (queryBytes chain' account' salt' params') := by
  rw [ofQuery_eq, ofQuery_eq] at h
  by_cases equal : queryBytes chain account salt params = queryBytes chain' account' salt' params'
  · exact .inl (eq_of_queryBytes equal)
  · exact .inr ⟨equal, h⟩

end Digest

end BlogGateway
