/-
Who a signed read is made for.

A signed read names an account, and is answered for that account only.  `Proves` says what
that takes, argument by argument: a name, a salt, a signature and a list of parameters, an
account that has keys, and one of these keys that made the signature over the name, the salt
and the parameters.  It also says what the handler behind the check is given: the parameters
that were signed, and the account that signed them.

To say whether a handler runs, and how often, it is watched: `noting` is the same handler, but
keeps a list of the calls it was given.
-/
import BlogGateway.Proofs.Rpc.SignedRead

namespace BlogGateway.Rpc

open Json

variable {σ : Type} {chain : ChainId} {authority : Authority} {call : Call} {state : σ}

/-- The call comes from the account that it names. -/
inductive Proves (chain : ChainId) (authority : Authority) (call : Call) : SignedCall → Prop
  | signed {account salt signature : String} {params : List Raw} {keys : KeySet}
      {key : PublicKey} (named : call.arg 0 (readString "a string") = .ok account)
      (salted : call.arg 1 (readString "a string") = .ok salt)
      (signs : call.arg 2 (readString "a string") = .ok signature)
      (given : call.arg 3 (readList readRaw) = .ok params)
      (known : authority.Knows account keys)
      (recovered : Signature.recover (Digest.ofQuery chain account salt params) signature
        = .ok key)
      (own : key ∈ keys.owner ∨ key ∈ keys.active ∨ key ∈ keys.posting) :
      Proves chain authority call ⟨call.id, account, params⟩

/-- The first four arguments are there and of their types. -/
def Complete (call : Call) : Prop :=
  (∃ account, call.arg 0 (readString "a string") = .ok account) ∧
  (∃ salt, call.arg 1 (readString "a string") = .ok salt) ∧
  (∃ signature, call.arg 2 (readString "a string") = .ok signature) ∧
  ∃ params, call.arg 3 (readList readRaw) = .ok params

/-- The handler, which also notes down the calls that it is given. -/
def noting (handler : SignedCall → Run σ (Option Value)) :
    SignedCall → Run (σ × List SignedCall) (Option Value) := fun call state =>
  let outcome := handler call state.1
  ⟨outcome.result, (outcome.state, state.2 ++ [call]), outcome.events⟩

theorem complete_iff : Complete call ↔ ∃ claim, Claim.ofCall call = .ok claim := by
  constructor
  · intro h
    obtain ⟨⟨account, named⟩, ⟨salt, salted⟩, ⟨signature, signs⟩, params, given⟩ := h
    exact ⟨⟨account, salt, signature, params⟩,
      Claim.ofCall_eq_ok_iff.mpr ⟨named, salted, signs, given⟩⟩
  · intro h
    obtain ⟨claim, claimed⟩ := h
    obtain ⟨named, salted, signs, given⟩ := Claim.ofCall_eq_ok_iff.mp claimed
    exact ⟨⟨_, named⟩, ⟨_, salted⟩, ⟨_, signs⟩, _, given⟩

theorem proves_iff {proven : SignedCall} :
    Proves chain authority call proven ↔
      ∃ claim keys, Claim.ofCall call = .ok claim ∧ authority.Knows claim.account keys ∧
        claim.SignedBy chain keys ∧ proven = ⟨call.id, claim.account, claim.params⟩ := by
  constructor
  · intro proves
    obtain ⟨named, salted, signs, given, known, recovered, own⟩ := proves
    exact ⟨⟨_, _, _, _⟩, _, Claim.ofCall_eq_ok_iff.mpr ⟨named, salted, signs, given⟩, known,
      ⟨_, recovered, own⟩, rfl⟩
  · intro h
    obtain ⟨claim, keys, claimed, known, ⟨key, recovered, own⟩, rfl⟩ := h
    obtain ⟨named, salted, signs, given⟩ := Claim.ofCall_eq_ok_iff.mp claimed
    exact .signed named salted signs given known recovered own

/-- Behind the check only the handler is left. -/
theorem signed_of_proves {proven : SignedCall} (proves : Proves chain authority call proven)
    (handler : SignedCall → Run σ (Option Value)) :
    signed chain authority handler call state
      = (handler proven state).behind [.lookup proven.account] := by
  obtain ⟨claim, keys, claimed, known, own, rfl⟩ := proves_iff.mp proves
  have asked : authority.lookups claim.account = [.lookup claim.account] := by
    unfold Authority.lookups
    rw [known.running]
    rfl
  rw [signed_of_signed claimed (Authority.resolve_eq_ok_iff.mpr known) own, asked]

/-- Without a proof every handler is passed over, and the caller has made a mistake. -/
theorem signed_of_not_proves (unproven : ∀ proven, ¬ Proves chain authority call proven) :
    ∃ message events, (¬ Complete call → events = []) ∧
      ∀ {σ : Type} (handler : SignedCall → Run σ (Option Value)) (state : σ),
        signed chain authority handler call state = ⟨.error ⟨4, message⟩, state, events⟩ := by
  cases claimed : Claim.ofCall call with
  | error error =>
      have code := Claim.code_of_ofCall_eq_error claimed
      obtain ⟨code', message⟩ := error
      obtain rfl : code' = 4 := code
      exact ⟨message, [], fun _ => rfl, fun handler state => signed_of_no_claim claimed handler⟩
  | ok claim =>
      have complete : Complete call := complete_iff.mpr ⟨claim, claimed⟩
      cases resolved : authority.resolve claim.account with
      | error cause =>
          exact ⟨cause.message, _, fun incomplete => absurd complete incomplete,
            fun handler state => signed_of_unresolved claimed resolved handler⟩
      | ok keys =>
          have forged : ¬ claim.SignedBy chain keys := fun own =>
            unproven _ (proves_iff.mpr
              ⟨claim, keys, claimed, Authority.resolve_eq_ok_iff.mp resolved, own, rfl⟩)
          exact ⟨"signature is not valid", _, fun incomplete => absurd complete incomplete,
            fun handler state => signed_of_forged claimed resolved forged handler⟩

/--
**A signed read runs for the account that has proven itself, and for nobody else.**

The handler behind the check notes exactly one call more when the call proves one, and it is
that one; then its outcome is the outcome of the read.  Otherwise it notes none, the answer is
a mistake of the caller, and where an argument is missing or of another type nobody's keys are
asked for.
-/
theorem signed_runs_iff_proves (chain : ChainId) (authority : Authority)
    (handler : SignedCall → Run σ (Option Value)) (call : Call) (state : σ)
    (noted : List SignedCall) :
    (∀ proven,
      (signed chain authority (noting handler) call (state, noted)).state.2 = noted ++ [proven] ↔
        Proves chain authority call proven) ∧
    (∀ proven, Proves chain authority call proven →
      signed chain authority handler call state
        = (handler proven state).behind [.lookup proven.account]) ∧
    ((∀ proven, ¬ Proves chain authority call proven) →
      (signed chain authority (noting handler) call (state, noted)).state.2 = noted ∧
      ∃ message events, (¬ Complete call → events = []) ∧
        signed chain authority handler call state = ⟨.error ⟨4, message⟩, state, events⟩) := by
  refine ⟨fun proven => ⟨?_, ?_⟩, fun proven proves => signed_of_proves proves handler, ?_⟩
  · intro ran
    by_cases proves : ∃ proven, Proves chain authority call proven
    · obtain ⟨proven', proves⟩ := proves
      rw [signed_of_proves proves] at ran
      have same : proven' = proven := by simpa [noting, Outcome.behind] using ran
      exact same ▸ proves
    · have unproven : ∀ proven, ¬ Proves chain authority call proven := not_exists.mp proves
      obtain ⟨message, events, -, refused⟩ := signed_of_not_proves unproven
      rw [refused] at ran
      exact absurd ran (by simp)
  · intro proves
    rw [signed_of_proves proves]
    rfl
  · intro unproven
    obtain ⟨message, events, silent, refused⟩ := signed_of_not_proves unproven
    refine ⟨?_, message, events, silent, refused handler state⟩
    rw [refused]

/-- The signature of alice for the read below. -/
def readSignature : String :=
  "2065f34cf801b11984c33237b595913fc6935b668c1cb3b324a315be45cb21a225" ++
  "2632edb0ab366418be29b5e3990bc9c5657fa86bd9950d5b1912ec91fb81bc1f"

/-- The salt of the read. -/
def readSalt : String := "monday"

/-- Alice reads the first of her drafts. -/
def aliceRead : Call :=
  ⟨7, "draft_api", "get_draft", [⟨"\"alice\""⟩, ⟨"\"" ++ readSalt ++ "\""⟩,
    ⟨"\"" ++ readSignature ++ "\""⟩, ⟨"[ \"first\" ]"⟩]⟩

/-- The key that alice signs with. -/
def readKey : PublicKey := .ofPoint
  0x9997a497d964fc1a62885b05a51166a65a90df00492c8d7cf61d6accf54803be
  0x229885d507c0ad853f9f0002564d821be71ced82038b789fad0c71e28a022575

/-- Every account has the key of alice. -/
def readAuthority : Authority :=
  ⟨fun _ => .answered (.ok ⟨[], [], [readKey]⟩), ⟨5000⟩, false⟩

/-- The handler that answers with the parameters that it is given. -/
def echoing : SignedCall → Run σ (Option Value) := fun call =>
  pure (some (.ofTexts (call.params.map Raw.text)))

private theorem proves_aliceRead :
    Proves .mainnet readAuthority aliceRead ⟨7, "alice", [⟨"\"first\""⟩]⟩ := by
  have named : aliceRead.arg 0 (readString "a string") = .ok "alice" :=
    Except.eq_ok_of_toOption (by decide +kernel)
  have salted : aliceRead.arg 1 (readString "a string") = .ok readSalt :=
    Except.eq_ok_of_toOption (by decide +kernel)
  have signs : aliceRead.arg 2 (readString "a string") = .ok readSignature :=
    Except.eq_ok_of_toOption (by decide +kernel)
  have given : aliceRead.arg 3 (readList readRaw) = .ok [⟨"\"first\""⟩] :=
    Except.eq_ok_of_toOption (by decide +kernel)
  have recovered : Signature.recover
      (Digest.ofQuery .mainnet "alice" readSalt [⟨"\"first\""⟩]) readSignature = .ok readKey :=
    Except.eq_ok_of_toOption (by decide +kernel)
  exact .signed named salted signs given ⟨rfl, rfl, by decide⟩ recovered
    (.inr (.inr (List.mem_singleton.mpr rfl)))

/-- A call without arguments comes from nobody. -/
private theorem not_proves_nobody (proven : SignedCall) :
    ¬ Proves .mainnet readAuthority ⟨7, "", "", []⟩ proven := by
  intro proves
  obtain ⟨named⟩ := proves
  cases named

/-- Alice is answered once, with the parameter that she signed, and nobody else's keys are asked
for; a call without arguments is not given to the handler at all. -/
theorem alice_reads :
    Proves .mainnet readAuthority aliceRead ⟨7, "alice", [⟨"\"first\""⟩]⟩ ∧
    (signed .mainnet readAuthority (noting echoing) aliceRead ((), [])).state.2
      = [⟨7, "alice", [⟨"\"first\""⟩]⟩] ∧
    signed .mainnet readAuthority echoing aliceRead ()
      = ⟨.ok (some (.ofTexts ["\"first\""])), (), [.lookup "alice"]⟩ ∧
    (signed .mainnet readAuthority (noting echoing) ⟨7, "", "", []⟩ ((), [])).state.2 = [] := by
  obtain ⟨once, answered, -⟩ :=
    signed_runs_iff_proves .mainnet readAuthority echoing aliceRead () []
  obtain ⟨-, -, refused⟩ :=
    signed_runs_iff_proves .mainnet readAuthority echoing ⟨7, "", "", []⟩ () []
  exact ⟨proves_aliceRead, (once _).mpr proves_aliceRead, answered _ proves_aliceRead,
    (refused not_proves_nobody).1⟩

end BlogGateway.Rpc
