/-
Reads on behalf of an account.

A read is taken apart into its claim, the claim is checked, and only then is anything read.
None of that touches the state, so a signed call changes no more than the handler behind it.

The parameters of a claim are raw values that were cut out of an argument of the call, and so
they are never empty texts.
-/
import BlogGateway.Proofs.Authority.Lookup
import BlogGateway.Proofs.Json.Raw
import BlogGateway.Proofs.Rpc.Request
import BlogGateway.Proofs.Rpc.Run
import BlogGateway.Rpc.SignedRead

namespace BlogGateway.Rpc

open Json

/-! ### Claims -/

/-- The arguments that a claim is made of. -/
theorem Claim.ofCall_eq_ok_iff {call : Call} {claim : Claim} :
    Claim.ofCall call = .ok claim ↔
      call.arg 0 (readString "a string") = .ok claim.account ∧
      call.arg 1 (readString "a string") = .ok claim.salt ∧
      call.arg 2 (readString "a string") = .ok claim.signature ∧
      call.arg 3 (readList readRaw) = .ok claim.params := by
  constructor
  · intro h
    obtain ⟨account, haccount, h⟩ := Except.bind_eq_ok_iff.mp h
    obtain ⟨salt, hsalt, h⟩ := Except.bind_eq_ok_iff.mp h
    obtain ⟨signature, hsignature, h⟩ := Except.bind_eq_ok_iff.mp h
    obtain ⟨params, hparams, h⟩ := Except.bind_eq_ok_iff.mp h
    obtain rfl := Except.ok.inj h
    exact ⟨haccount, hsalt, hsignature, hparams⟩
  · intro h
    obtain ⟨haccount, hsalt, hsignature, hparams⟩ := h
    unfold Claim.ofCall
    rw [haccount, hsalt, hsignature, hparams]
    rfl

/-- The parameters of a claim that has arrived are never empty texts. -/
theorem Claim.spelled_of_ofCall {call : Call} {claim : Claim}
    (h : Claim.ofCall call = .ok claim) : ∀ param ∈ claim.params, param.text ≠ "" := by
  obtain ⟨-, -, -, hparams⟩ := Claim.ofCall_eq_ok_iff.mp h
  obtain ⟨raw, -, hread⟩ := Call.arg_eq_ok_iff.mp hparams
  obtain ⟨rest, hlist⟩ := exists_read_of_readWholeText hread
  exact forall_of_readList text_ne_empty_of_readRaw hlist

/-- Arguments that make no claim are a mistake of the caller. -/
theorem Claim.code_of_ofCall_eq_error {call : Call} {error : Error}
    (h : Claim.ofCall call = .error error) : error.code = 4 := by
  rcases Except.bind_eq_error_iff.mp h with h | ⟨account, -, h⟩
  · exact Call.code_of_arg_eq_error h
  rcases Except.bind_eq_error_iff.mp h with h | ⟨salt, -, h⟩
  · exact Call.code_of_arg_eq_error h
  rcases Except.bind_eq_error_iff.mp h with h | ⟨signature, -, h⟩
  · exact Call.code_of_arg_eq_error h
  rcases Except.bind_eq_error_iff.mp h with h | ⟨params, -, h⟩
  · exact Call.code_of_arg_eq_error h
  · cases h

/-- One of the keys made the signature of the claim, over this chain and all that it claims. -/
def Claim.SignedBy (claim : Claim) (chain : ChainId) (keys : KeySet) : Prop :=
  ∃ key, Signature.recover (Digest.ofQuery chain claim.account claim.salt claim.params)
      claim.signature = .ok key ∧ (key ∈ keys.owner ∨ key ∈ keys.active ∨ key ∈ keys.posting)

/-! ### Checking who makes a call -/

theorem silent_authenticate {σ : Type} (chain : ChainId) (authority : Authority) (call : Call) :
    Run.Silent (authenticate chain authority call : Run σ SignedCall) := by
  refine .bind (Run.silent_ofExcept _) fun claim => ?_
  refine .bind (Run.silent_keysOf authority claim.account) fun keys => ?_
  dsimp only
  split
  · exact .bind (Run.silent_fail _) fun _ => Run.silent_pure _
  · exact .bind (Run.silent_pure _) fun _ => Run.silent_pure _

/-- Who makes the call is known: its claim is signed with a key that the account has. -/
def Authenticates (chain : ChainId) (authority : Authority) (call : Call) (signed : SignedCall) :
    Prop :=
  ∃ claim keys, Claim.ofCall call = .ok claim ∧ authority.resolve claim.account = .ok keys ∧
    claim.isSigned chain keys = true ∧ ⟨call.id, claim.account, claim.params⟩ = signed

theorem result_authenticate_eq_ok_iff {σ : Type} {chain : ChainId} {authority : Authority}
    {call : Call} {signed : SignedCall} {state : σ} :
    (authenticate chain authority call state).result = .ok signed ↔
      Authenticates chain authority call signed := by
  unfold authenticate Authenticates
  cases hclaim : Claim.ofCall call with
  | error error => simp
  | ok claim =>
      cases hkeys : authority.resolve claim.account with
      | error cause => simp [Run.keysOf_bind_error hkeys, hkeys]
      | ok keys =>
          cases hsigned : claim.isSigned chain keys with
          | false => simp [Run.keysOf_bind_ok hkeys, hkeys, hsigned, Outcome.behind]
          | true => simp [Run.keysOf_bind_ok hkeys, hkeys, hsigned, Outcome.behind]

/-- Who makes a call is found out without a look at the state. -/
theorem alike_authenticate {σ : Type} {related : σ → σ → Prop} (chain : ChainId)
    (authority : Authority) (call : Call) :
    Run.Alike related (authenticate chain authority call) := by
  refine .bind (Run.alike_ofExcept _) fun claim _ => ?_
  refine .bind (Run.alike_keysOf authority claim.account) fun keys _ => ?_
  dsimp only
  split
  · exact .bind (Run.alike_fail _) fun _ _ => Run.alike_pure _
  · exact Run.alike_pure _

/-- What a signed read does with a claim: the handler sees the parameters that are hashed. -/
theorem signed_of_claim {σ : Type} {call : Call} {claim : Claim} (h : Claim.ofCall call = .ok claim)
    (chain : ChainId) (authority : Authority) (handler : SignedCall → Run σ (Option Value)) :
    signed chain authority handler call = (do
      let keys ← Run.keysOf authority claim.account
      if Signature.verifyAny keys.all claim.signature
          (Digest.ofQuery chain claim.account claim.salt claim.params) then
        handler ⟨call.id, claim.account, claim.params⟩
      else Run.fail (.invalidParameter "signature is not valid")) := by
  unfold signed authenticate
  rw [h, Run.ofExcept_ok_bind, Run.bind_assoc]
  refine congrArg _ (funext fun keys => ?_)
  show _ = if claim.isSigned chain keys then _ else _
  cases claim.isSigned chain keys with
  | false => simp
  | true => simp

section Outcomes

variable {σ : Type} {chain : ChainId} {authority : Authority} {call : Call} {claim : Claim}
  {keys : KeySet} {state : σ}

/-- Without a claim there is nobody to ask for. -/
theorem signed_of_no_claim {error : Error} (unclaimed : Claim.ofCall call = .error error)
    (handler : SignedCall → Run σ (Option Value)) :
    signed chain authority handler call state = ⟨.error error, state, []⟩ := by
  simp [signed, authenticate, unclaimed]

theorem signed_of_unresolved {cause : AuthorityError} (claimed : Claim.ofCall call = .ok claim)
    (refused : authority.resolve claim.account = .error cause)
    (handler : SignedCall → Run σ (Option Value)) :
    signed chain authority handler call state
      = ⟨.error (.invalidParameter cause.message), state, authority.lookups claim.account⟩ := by
  rw [signed_of_claim claimed, Run.keysOf_bind_error refused]

theorem signed_of_forged (claimed : Claim.ofCall call = .ok claim)
    (resolved : authority.resolve claim.account = .ok keys)
    (forged : ¬ claim.SignedBy chain keys) (handler : SignedCall → Run σ (Option Value)) :
    signed chain authority handler call state
      = ⟨.error (.invalidParameter "signature is not valid"), state,
          authority.lookups claim.account⟩ := by
  rw [signed_of_claim claimed, Run.keysOf_bind_ok resolved,
    if_neg (mt KeySet.verifyAny_all_iff.mp forged)]
  simp [Outcome.behind]

theorem signed_of_signed (claimed : Claim.ofCall call = .ok claim)
    (resolved : authority.resolve claim.account = .ok keys)
    (own : claim.SignedBy chain keys) (handler : SignedCall → Run σ (Option Value)) :
    signed chain authority handler call state
      = (handler ⟨call.id, claim.account, claim.params⟩ state).behind
          (authority.lookups claim.account) := by
  rw [signed_of_claim claimed, Run.keysOf_bind_ok resolved,
    if_pos (KeySet.verifyAny_all_iff.mpr own)]

end Outcomes

theorem silent_signed {σ : Type} {chain : ChainId} {authority : Authority}
    {handler : SignedCall → Run σ (Option Value)} (hhandler : ∀ call, Run.Silent (handler call))
    (call : Call) : Run.Silent (signed chain authority handler call) :=
  .bind (silent_authenticate chain authority call) hhandler

end BlogGateway.Rpc
