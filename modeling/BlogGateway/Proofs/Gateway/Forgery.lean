/-
What a forger learns.

Somebody who does not have a key of an account may still send what claims to come from it, and
look at the answers.  The answers are all the same.  They say what is known about the keys of
the account, which anyone may ask the chain, and nothing about the attempt: not whether a
signature was too short or made with a key of somebody else, and not whether the operation
would have passed the rules, or whether there is something to read.

An attempt is compared with its answer once, for transactions and for signed reads.  The
answer depends on the source of keys and the account alone, so two attempts cannot differ.
-/
import BlogGateway.Proofs.Broadcast.Registering
import BlogGateway.Proofs.Gateway.Reads
import BlogGateway.Proofs.Rpc.Identity

namespace BlogGateway

open Operation

/-- What is said to somebody without a key of the account: why its keys are not known, or
else the given words. -/
def Authority.refusal (authority : Authority) (account words : String) : Rpc.Error :=
  match authority.resolve account with
  | .error cause => .invalidParameter cause.message
  | .ok _ => .invalidParameter words

theorem Authority.handled_not_mem_lookups (authority : Authority) (account : String)
    (operation : Operation) : .handled operation ∉ authority.lookups account := by
  unfold lookups
  split <;> simp

/-- From every state the call is answered with this response, the state stays as it is, and no
operation is given to its handler. -/
def Rpc.TurnsAway {σ : Type} (handler : Rpc.Handler σ) (call : Rpc.Call)
    (response : Rpc.Response) : Prop :=
  ∀ state, .ofAnswer call.id (handler call state).result = response ∧
    (handler call state).state = state ∧
    ∀ operation, .handled operation ∉ (handler call state).events

theorem Rpc.turnsAway_of_refused {σ : Type} {handler : Rpc.Handler σ} {call : Rpc.Call}
    {error : Rpc.Error} {authority : Authority} {account : String}
    (refused : ∀ state,
      handler call state = ⟨.error error, state, authority.lookups account⟩) :
    Rpc.TurnsAway handler call (.ofError call.id error) := by
  intro state
  rw [refused state]
  exact ⟨rfl, rfl, authority.handled_not_mem_lookups account⟩

/-- Calls of one id that are such attempts get one response, from either handler. -/
def Rpc.TellsNothing {σ : Type} (attempts : Rpc.Call → Prop) (handler handler' : Rpc.Handler σ) :
    Prop :=
  ∀ call call', call.id = call'.id → attempts call → attempts call' →
    ∃ response, Rpc.TurnsAway handler call response ∧ Rpc.TurnsAway handler' call' response

theorem Rpc.tellsNothing_of_refused {σ : Type} {attempts : Rpc.Call → Prop}
    {handler handler' : Rpc.Handler σ} {error : Rpc.Error} {authority : Authority}
    {account : String}
    (refused : ∀ call, attempts call → ∀ state,
      handler call state = ⟨.error error, state, authority.lookups account⟩)
    (refused' : ∀ call, attempts call → ∀ state,
      handler' call state = ⟨.error error, state, authority.lookups account⟩) :
    Rpc.TellsNothing attempts handler handler' := by
  intro call call' same attempted attempted'
  refine ⟨_, Rpc.turnsAway_of_refused (refused call attempted), ?_⟩
  rw [same]
  exact Rpc.turnsAway_of_refused (refused' call' attempted')

/-! ### Transactions -/

/-- The call carries a transaction that has the right shape and a known operation of the
account, and is not signed with a key of the account. -/
inductive Broadcast.Forges (chain : ChainId) (authority : Authority) (account : String)
    (call : Rpc.Call) : Prop
  | transaction {tx : Transaction} {kind : Kind} {body : Body kind} (carried : Carries call tx)
      (asks : Asks tx kind body) (claims : body.account = account)
      (forged : ∀ keys, authority.Knows account keys → ¬ SignedBy chain tx keys) :
      Forges chain authority account call

/-- The fields of the operation are not looked at, and neither is the handler. -/
theorem Broadcast.route_of_forges {σ : Type} {router : Router σ} {account : String}
    {call : Rpc.Call} (forges : Forges router.chain router.authority account call) (state : σ) :
    router.route call state
      = ⟨.error (router.authority.refusal account "transaction is not valid"), state,
          router.authority.lookups account⟩ := by
  obtain ⟨carried, asks, rfl, forged⟩ := forges
  unfold Authority.refusal
  cases resolved : router.authority.resolve _ with
  | error cause => exact route_of_unresolved carried asks resolved
  | ok keys =>
      have unsigned := forged keys (Authority.resolve_eq_ok_iff.mp resolved)
      exact route_of_forged carried asks resolved unsigned

theorem Broadcast.route_tellsNothing {σ : Type} (chain : ChainId) (authority : Authority)
    (account : String) (table table' : Table σ) :
    Rpc.TellsNothing (Forges chain authority account) (Router.route ⟨chain, authority, table⟩)
      (Router.route ⟨chain, authority, table'⟩) :=
  Rpc.tellsNothing_of_refused (fun _ forges => route_of_forges forges)
    (fun _ forges => route_of_forges forges)

/-! ### Signed reads -/

/-- The call claims to be a read of the account, and is not signed with a key of the
account. -/
inductive Rpc.Forges (chain : ChainId) (authority : Authority) (account : String)
    (call : Call) : Prop
  | read {claim : Claim} (claimed : Claim.ofCall call = .ok claim)
      (claims : claim.account = account)
      (forged : ∀ keys, authority.Knows account keys → ¬ claim.SignedBy chain keys) :
      Forges chain authority account call

/-- What would have been read does not matter. -/
theorem Rpc.signed_of_forges {σ : Type} {chain : ChainId} {authority : Authority}
    {account : String} {call : Call} (forges : Forges chain authority account call)
    (handler : SignedCall → Run σ (Option Json.Value)) (state : σ) :
    signed chain authority handler call state
      = ⟨.error (authority.refusal account "signature is not valid"), state,
          authority.lookups account⟩ := by
  obtain ⟨claimed, rfl, forged⟩ := forges
  unfold Authority.refusal
  cases resolved : authority.resolve _ with
  | error cause => exact signed_of_unresolved claimed resolved handler
  | ok keys =>
      have unsigned := forged keys (Authority.resolve_eq_ok_iff.mp resolved)
      exact signed_of_forged claimed resolved unsigned handler

theorem Rpc.signed_tellsNothing {σ : Type} (chain : ChainId) (authority : Authority)
    (account : String) (handler handler' : SignedCall → Run σ (Option Json.Value)) :
    TellsNothing (Forges chain authority account) (signed chain authority handler)
      (signed chain authority handler') :=
  tellsNothing_of_refused (fun _ forges => signed_of_forges forges handler)
    (fun _ forges => signed_of_forges forges handler')

namespace Gateway

/--
**Forgeries cannot be told apart by their answers.**

Transactions that claim an account, and are not signed by it, all get one response, whatever
their operations and signatures are and whatever the handlers.  So do signed reads, on any
routes that are behind the check, and all those of the gateway are.
-/
theorem forgeries_answered_alike (chain : ChainId) (authority : Authority) (account : String) :
    (∀ {σ : Type} (table table' : Broadcast.Table σ),
      Rpc.TellsNothing (Broadcast.Forges chain authority account)
        (Broadcast.Router.route ⟨chain, authority, table⟩)
        (Broadcast.Router.route ⟨chain, authority, table'⟩)) ∧
    (∀ {σ : Type} (handler handler' : Rpc.SignedCall → Run σ (Option Json.Value)),
      Rpc.TellsNothing (Rpc.Forges chain authority account)
        (Rpc.signed chain authority handler) (Rpc.signed chain authority handler')) ∧
    ∀ policy, ∀ route ∈ signedReads chain authority policy,
      ∀ route' ∈ signedReads chain authority policy,
        Rpc.TellsNothing (Rpc.Forges chain authority account) route.handler route'.handler := by
  refine ⟨Broadcast.route_tellsNothing chain authority account,
    Rpc.signed_tellsNothing chain authority account, ?_⟩
  intro policy route listed route' listed'
  obtain ⟨read, behind⟩ := signedReads_reading chain authority policy route listed
  obtain ⟨read', behind'⟩ := signedReads_reading chain authority policy route' listed'
  rw [behind, behind']
  exact Rpc.signed_tellsNothing chain authority account _ _

/-- Alice has another key since. -/
private def newKeys : KeySet := ⟨[], [], [.ofPoint
  0x79be667ef9dcbbac55a06295ce870b07029bfcdb2dce28d959f2815b16f81798
  0x483ada7726a3c4655da4fbfc0e1108a8fd17b448a68554199c47d08ffb10d4b8]⟩

private def newAuthority : Authority := ⟨fun _ => .answered (.ok newKeys), ⟨5000⟩, false⟩

private theorem eq_newKeys {account : String} {keys : KeySet}
    (known : newAuthority.Knows account keys) : keys = newKeys := by
  have answered : newKeys = keys := Except.ok.inj (Lookup.answered.inj known.answered)
  exact answered.symm

/-- Transactions that nothing comes of but a count. -/
private def counted : Rpc.Handler Nat :=
  Broadcast.Router.route ⟨.mainnet, newAuthority, ⟨fun _ _ => Run.modify (· + 1)⟩⟩

/-- A transaction in order, signed with the old key. -/
private def oldRegister : Rpc.Call := Broadcast.registerCall

/-- A transaction that breaks the rules, with two signatures that are none. -/
private def selfFollow : Rpc.Call :=
  ⟨7, "", "", [⟨"[0, 0, \"2022-11-02T12:22:36\", [[\"follow\", [\"alice\", \"alice\"]]], "
    ++ "[\"a\", \"b\"]]"⟩]⟩

/-- A read with a parameter and no signature. -/
private def bareRead : Rpc.Call :=
  ⟨7, "", "", [⟨"\"alice\""⟩, ⟨"\"\""⟩, ⟨"\"\""⟩, ⟨"[\"cat\"]"⟩]⟩

private theorem forges_oldRegister :
    Broadcast.Forges .mainnet newAuthority "alice" oldRegister := by
  have carried : Broadcast.Carries oldRegister Broadcast.registersAlice :=
    Broadcast.carries_registersAlice
  refine .transaction carried ⟨rfl, rfl, by decide, by decide⟩ rfl fun keys known => ?_
  rw [eq_newKeys known]
  exact mt Broadcast.isSigned_iff.mpr (by decide +kernel)

private theorem forges_selfFollow :
    Broadcast.Forges .mainnet newAuthority "alice" selfFollow := by
  have carried : Broadcast.Carries selfFollow ⟨0, 0, some ⟨1667391756⟩,
      [.known .follow ⟨"alice", "alice"⟩], ["a", "b"]⟩ :=
    ⟨_, rfl, Except.eq_ok_of_toOption (by decide +kernel)⟩
  refine .transaction carried ⟨rfl, rfl, by decide, by decide⟩ rfl fun keys known => ?_
  rw [eq_newKeys known]
  exact mt Broadcast.isSigned_iff.mpr (by decide +kernel)

private theorem forges_aliceRead : Rpc.Forges .mainnet newAuthority "alice" Rpc.aliceRead := by
  have claimed : Rpc.Claim.ofCall Rpc.aliceRead
      = .ok ⟨"alice", Rpc.readSalt, Rpc.readSignature, [⟨"\"first\""⟩]⟩ :=
    Except.eq_ok_of_toOption (by decide +kernel)
  refine .read claimed rfl fun keys known => ?_
  rw [eq_newKeys known]
  exact mt KeySet.verifyAny_all_iff.mpr (by decide +kernel)

private theorem forges_bareRead : Rpc.Forges .mainnet newAuthority "alice" bareRead := by
  have claimed : Rpc.Claim.ofCall bareRead = .ok ⟨"alice", "", "", [⟨"\"cat\""⟩]⟩ :=
    Except.eq_ok_of_toOption (by decide +kernel)
  refine .read claimed rfl fun keys known => ?_
  rw [eq_newKeys known]
  exact mt KeySet.verifyAny_all_iff.mpr (by decide +kernel)

/-- Both transactions get one response; so do both reads, one of settings and one of drafts. -/
theorem alice_forged_alike :
    (∃ response, Rpc.TurnsAway counted oldRegister response ∧
      Rpc.TurnsAway counted selfFollow response) ∧
    ∃ response,
      Rpc.TurnsAway ((signedReads .mainnet newAuthority .default).get ⟨0, by decide⟩).handler
        Rpc.aliceRead response ∧
      Rpc.TurnsAway ((signedReads .mainnet newAuthority .default).get ⟨2, by decide⟩).handler
        bareRead response := by
  obtain ⟨transactions, -, reads⟩ := forgeries_answered_alike .mainnet newAuthority "alice"
  have settings := List.get_mem (signedReads .mainnet newAuthority .default) ⟨0, by decide⟩
  have drafts := List.get_mem (signedReads .mainnet newAuthority .default) ⟨2, by decide⟩
  exact ⟨transactions ⟨_⟩ ⟨_⟩ _ _ rfl forges_oldRegister forges_selfFollow,
    reads .default _ settings _ drafts _ _ rfl forges_aliceRead forges_bareRead⟩

end Gateway

end BlogGateway
