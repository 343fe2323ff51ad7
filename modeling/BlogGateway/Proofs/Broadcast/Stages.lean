/-
The stages of a transaction.

`Router.route` takes the transaction of a call through its stages in one order.  What that
means is said here by `Ends`, a relation with one constructor for each way a call can end: a
constructor names the stage that decides, asks that every stage before it passed, and fixes
the whole outcome — the answer, the state, and what was asked and done on the way.

The stages themselves are stated without the code that runs them.  `Carries` is about the
text of the argument, `Asks` about the shape of the transaction, `SignedBy` about keys; each
has a lemma saying that the function of the router decides just that.  `ends_route` then
follows a call through the stages once, and the lemmas `route_of_…` give back the outcome
from the stage that decides, so that exactly one ending fits every call.
-/
import BlogGateway.Broadcast.Router
import BlogGateway.Proofs.Rpc.Request
import BlogGateway.Proofs.Rpc.Run

namespace BlogGateway.Broadcast

open Operation

variable {σ : Type}

/-! ### What each stage demands -/

/-- The first argument of the call spells the transaction. -/
def Carries (call : Rpc.Call) (tx : Transaction) : Prop :=
  ∃ raw, call.args[0]? = some raw ∧ raw.read Transaction.read = .ok tx

/-- The transaction has the right shape and asks for one operation that is known. -/
structure Asks (tx : Transaction) (kind : Kind) (body : Body kind) : Prop where
  expires : tx.expiration.isSome
  only : tx.operations = [.known kind body]
  signed : tx.signatures ≠ []
  noneEmpty : "" ∉ tx.signatures

/-- The transaction carries one signature, and it was made for this chain with one of the
keys. -/
def SignedBy (chain : ChainId) (tx : Transaction) (keys : KeySet) : Prop :=
  ∃ signature digest key, tx.signatures = [signature] ∧
    Digest.ofTransaction chain tx = .ok digest ∧
    Signature.recover digest signature = .ok key ∧
    (key ∈ keys.owner ∨ key ∈ keys.active ∨ key ∈ keys.posting)

/-- A transaction with the right shape has an expiration, one operation, and signatures none
of which is empty. -/
theorem shape_eq_ok_iff {tx : Transaction} {operation : Operation} :
    tx.shape = .ok operation ↔
      tx.expiration.isSome ∧ tx.operations = [operation] ∧
        tx.signatures ≠ [] ∧ "" ∉ tx.signatures := by
  unfold Transaction.shape
  constructor
  · intro h
    split at h
    · simp at h
    · rename_i hexp
      split at h
      · rename_i only hops
        split at h
        · simp at h
        · rename_i hsig
          split at h
          · simp at h
          · rename_i hnone
            rw [Except.ok.injEq] at h
            subst h
            refine ⟨by simpa [Option.isSome_iff_ne_none] using hexp, hops, by simpa using hsig, ?_⟩
            intro hmem
            rw [List.findIdx?_eq_none_iff] at hnone
            simpa using hnone "" hmem
      · simp at h
  · intro h
    obtain ⟨hexp, hops, hsig, hempty⟩ := h
    have hnone : tx.signatures.findIdx? (· = "") = none := by
      rw [List.findIdx?_eq_none_iff]
      intro signature hmem
      simpa using fun hc : signature = "" => hempty (hc ▸ hmem)
    rw [if_neg (by simpa [Option.isSome_iff_ne_none] using hexp), hops]
    simp only [hnone]
    rw [if_neg (by simpa using hsig)]

theorem readTransaction_eq_ok_iff {call : Rpc.Call} {tx : Transaction} :
    readTransaction call = .ok tx ↔ Carries call tx := by
  constructor
  · intro h
    obtain ⟨raw, hraw, hread⟩ := Except.bind_eq_ok_iff.mp h
    exact ⟨raw, Rpc.Call.rawArg_eq_ok_iff.mp hraw, Except.mapError_eq_ok_iff.mp hread⟩
  · intro h
    obtain ⟨raw, hraw, hread⟩ := h
    exact Except.bind_eq_ok_iff.mpr
      ⟨raw, Rpc.Call.rawArg_eq_ok_iff.mpr hraw, Except.mapError_eq_ok_iff.mpr hread⟩

theorem readTransaction_of_absent {call : Rpc.Call} (absent : call.args[0]? = none) :
    readTransaction call = .error ⟨4, "no params at index 0"⟩ := by
  unfold readTransaction Rpc.Call.rawArg
  rw [absent]
  rfl

theorem readTransaction_of_malformed {call : Rpc.Call} {raw : Json.Raw} {cause : Json.Error}
    (present : call.args[0]? = some raw) (unread : raw.read Transaction.read = .error cause) :
    readTransaction call = .error ⟨3, "transaction is malformed: " ++ cause.message⟩ := by
  unfold readTransaction Rpc.Call.rawArg
  rw [present]
  simp only [bind, Except.bind, unread]
  rfl

theorem readOperation_of_misshapen {tx : Transaction} {cause : Transaction.ShapeError}
    (violation : tx.shape = .error cause) :
    readOperation tx = .error ⟨4, cause.message⟩ := by
  unfold readOperation
  rw [violation]
  rfl

theorem readOperation_of_unknown {tx : Transaction} {tag : String} {raw : Json.Raw}
    (shaped : tx.shape = .ok (.unknown tag raw)) :
    readOperation tx = .error ⟨4, tag ++ " operation is unknown"⟩ := by
  unfold readOperation
  rw [shaped]
  rfl

theorem readOperation_eq_ok_iff {tx : Transaction} {kind : Kind} {body : Body kind} :
    readOperation tx = .ok ⟨kind, body⟩ ↔ Asks tx kind body := by
  have hshape : readOperation tx = .ok ⟨kind, body⟩ ↔ tx.shape = .ok (.known kind body) := by
    unfold readOperation
    cases tx.shape with
    | error cause => simp
    | ok operation =>
        cases operation with
        | known kind' body' => simp
        | unknown tag raw => simp
  rw [hshape, shape_eq_ok_iff]
  constructor
  · intro h
    obtain ⟨hexp, hops, hsig, hempty⟩ := h
    exact ⟨hexp, hops, hsig, hempty⟩
  · intro h
    obtain ⟨hexp, hops, hsig, hempty⟩ := h
    exact ⟨hexp, hops, hsig, hempty⟩

theorem isSigned_iff {chain : ChainId} {tx : Transaction} {keys : KeySet} :
    isSigned chain tx keys = true ↔ SignedBy chain tx keys := by
  unfold isSigned SignedBy Signature.verifyAny
  constructor
  · intro h
    split at h
    · rename_i digest signature hdigest hsig
      split at h
      · rename_i key hkey
        refine ⟨signature, digest, key, hsig, hdigest, hkey, ?_⟩
        simpa [KeySet.all, or_assoc] using h
      · simp at h
    · simp at h
  · intro h
    obtain ⟨signature, digest, key, hsig, hdigest, hkey, hmem⟩ := h
    simp only [hdigest, hsig, hkey]
    simpa [KeySet.all, or_assoc] using hmem

/-! ### How a call ends -/

/-- How the call of a router ends, from the state it starts in. -/
inductive Ends (router : Router σ) (call : Rpc.Call) (state : σ) :
    Outcome σ (Option Json.Value) → Prop
  /-- There is no first argument. -/
  | noArgument (absent : call.args[0]? = none) :
      Ends router call state ⟨.error ⟨4, "no params at index 0"⟩, state, []⟩
  /-- The first argument spells no transaction. -/
  | malformed {raw : Json.Raw} {cause : Json.Error} (present : call.args[0]? = some raw)
      (unread : raw.read Transaction.read = .error cause) :
      Ends router call state
        ⟨.error ⟨3, "transaction is malformed: " ++ cause.message⟩, state, []⟩
  /-- The transaction does not have the right shape. -/
  | misshapen {tx : Transaction} {cause : Transaction.ShapeError} (carried : Carries call tx)
      (violation : tx.shape = .error cause) :
      Ends router call state ⟨.error ⟨4, cause.message⟩, state, []⟩
  /-- The only operation is not known. -/
  | unknown {tx : Transaction} {tag : String} {raw : Json.Raw} (carried : Carries call tx)
      (shaped : tx.shape = .ok (.unknown tag raw)) :
      Ends router call state ⟨.error ⟨4, tag ++ " operation is unknown"⟩, state, []⟩
  /-- The keys of the account are not known. -/
  | unresolved {tx : Transaction} {kind : Kind} {body : Body kind} {cause : AuthorityError}
      (carried : Carries call tx) (asks : Asks tx kind body)
      (refused : router.authority.resolve body.account = .error cause) :
      Ends router call state
        ⟨.error ⟨4, cause.message⟩, state, router.authority.lookups body.account⟩
  /-- There is not exactly one signature, or it is not from one of the keys. -/
  | unsigned {tx : Transaction} {kind : Kind} {body : Body kind} {keys : KeySet}
      (carried : Carries call tx) (asks : Asks tx kind body)
      (resolved : router.authority.resolve body.account = .ok keys)
      (forged : ¬ SignedBy router.chain tx keys) :
      Ends router call state
        ⟨.error ⟨4, "transaction is not valid"⟩, state, router.authority.lookups body.account⟩
  /-- A field breaks a rule. -/
  | invalid {tx : Transaction} {kind : Kind} {body : Body kind} {keys : KeySet}
      {cause : FieldError} (carried : Carries call tx) (asks : Asks tx kind body)
      (resolved : router.authority.resolve body.account = .ok keys)
      (signed : SignedBy router.chain tx keys) (broken : rules kind body = .error cause) :
      Ends router call state
        ⟨.error ⟨4, "invalid request: " ++ cause.message⟩, state,
          router.authority.lookups body.account⟩
  /-- The handler of the kind runs and fails. -/
  | failed {tx : Transaction} {kind : Kind} {body : Body kind} {keys : KeySet}
      {error : Rpc.Error} {after : σ} {events : List Event}
      (carried : Carries call tx) (asks : Asks tx kind body)
      (resolved : router.authority.resolve body.account = .ok keys)
      (signed : SignedBy router.chain tx keys) (valid : rules kind body = .ok ())
      (handled : router.table.handler kind body state = ⟨.error error, after, events⟩) :
      Ends router call state
        ⟨.error error, after,
          router.authority.lookups body.account ++ .handled (.known kind body) :: events⟩
  /-- The handler of the kind runs and succeeds. -/
  | acknowledged {tx : Transaction} {kind : Kind} {body : Body kind} {keys : KeySet}
      {after : σ} {events : List Event}
      (carried : Carries call tx) (asks : Asks tx kind body)
      (resolved : router.authority.resolve body.account = .ok keys)
      (signed : SignedBy router.chain tx keys) (valid : rules kind body = .ok ())
      (handled : router.table.handler kind body state = ⟨.ok (), after, events⟩) :
      Ends router call state
        ⟨.ok (some (.ofMembers [("id", .string (toString call.id.toNat)),
            ("block_num", .ofNat 0), ("trx_num", .ofNat 0), ("expired", .boolean false)])),
          after,
          router.authority.lookups body.account ++ .handled (.known kind body) :: events⟩

/-! ### The outcome at the stage that decides -/

section Route

variable {router : Router σ} {call : Rpc.Call} {state : σ} {tx : Transaction} {kind : Kind}
  {body : Body kind} {keys : KeySet}

theorem route_of_unread {error : Rpc.Error} (unread : readTransaction call = .error error) :
    router.route call state = ⟨.error error, state, []⟩ := by
  simp [Router.route, unread]

theorem route_of_refused {error : Rpc.Error} (carried : Carries call tx)
    (refused : readOperation tx = .error error) :
    router.route call state = ⟨.error error, state, []⟩ := by
  simp [Router.route, readTransaction_eq_ok_iff.mpr carried, refused]

theorem route_of_unresolved {cause : AuthorityError} (carried : Carries call tx)
    (asks : Asks tx kind body) (refused : router.authority.resolve body.account = .error cause) :
    router.route call state
      = ⟨.error (.invalidParameter cause.message), state,
          router.authority.lookups body.account⟩ := by
  simp [Router.route, readTransaction_eq_ok_iff.mpr carried, readOperation_eq_ok_iff.mpr asks,
    Run.keysOf_bind_error refused]

theorem route_of_forged (carried : Carries call tx) (asks : Asks tx kind body)
    (resolved : router.authority.resolve body.account = .ok keys)
    (forged : ¬ SignedBy router.chain tx keys) :
    router.route call state
      = ⟨.error notValid, state, router.authority.lookups body.account⟩ := by
  have hsigned : isSigned router.chain tx keys = false := by
    simpa [← isSigned_iff] using forged
  simp [Router.route, readTransaction_eq_ok_iff.mpr carried, readOperation_eq_ok_iff.mpr asks,
    Run.keysOf_bind_ok resolved, hsigned, Outcome.behind]

theorem route_of_invalid {cause : FieldError} (carried : Carries call tx)
    (asks : Asks tx kind body) (resolved : router.authority.resolve body.account = .ok keys)
    (signed : SignedBy router.chain tx keys) (broken : rules kind body = .error cause) :
    router.route call state
      = ⟨.error (.invalidParameter s!"invalid request: {cause.message}"), state,
          router.authority.lookups body.account⟩ := by
  simp [Router.route, readTransaction_eq_ok_iff.mpr carried, readOperation_eq_ok_iff.mpr asks,
    Run.keysOf_bind_ok resolved, isSigned_iff.mpr signed, broken, Outcome.behind]

/-- Behind the rules only the handler is left. -/
theorem route_of_valid (carried : Carries call tx) (asks : Asks tx kind body)
    (resolved : router.authority.resolve body.account = .ok keys)
    (signed : SignedBy router.chain tx keys) (valid : rules kind body = .ok ()) :
    router.route call state
      = ((router.table.handler kind body >>= fun _ =>
            pure (some (acknowledgement call.id))) state).behind
          (router.authority.lookups body.account ++ [.handled (.known kind body)]) := by
  simp [Router.route, readTransaction_eq_ok_iff.mpr carried, readOperation_eq_ok_iff.mpr asks,
    Run.keysOf_bind_ok resolved, isSigned_iff.mpr signed, valid, Outcome.behind]

end Route

/-! ### Every call ends in exactly one way -/

/-- A call ends in one of the ways of `Ends`.  The stages are followed in their order, so
that each case has what the stages before it established. -/
theorem ends_route (router : Router σ) (call : Rpc.Call) (state : σ) :
    Ends router call state (router.route call state) := by
  cases hraw : call.args[0]? with
  | none =>
      rw [route_of_unread (readTransaction_of_absent hraw)]
      exact .noArgument hraw
  | some raw =>
  cases hread : raw.read Transaction.read with
  | error cause =>
      rw [route_of_unread (readTransaction_of_malformed hraw hread)]
      exact .malformed hraw hread
  | ok tx =>
  have carried : Carries call tx := ⟨raw, hraw, hread⟩
  cases hshape : tx.shape with
  | error cause =>
      rw [route_of_refused carried (readOperation_of_misshapen hshape)]
      exact .misshapen carried hshape
  | ok operation =>
  cases operation with
  | unknown tag body =>
      rw [route_of_refused carried (readOperation_of_unknown hshape)]
      exact .unknown carried hshape
  | known kind body =>
  obtain ⟨hexp, hops, hsig, hempty⟩ := shape_eq_ok_iff.mp hshape
  have asks : Asks tx kind body := ⟨hexp, hops, hsig, hempty⟩
  cases hkeys : router.authority.resolve body.account with
  | error cause =>
      rw [route_of_unresolved carried asks hkeys]
      exact .unresolved carried asks hkeys
  | ok keys =>
  by_cases signed : SignedBy router.chain tx keys
  · cases hrules : rules kind body with
    | error cause =>
        rw [route_of_invalid carried asks hkeys signed hrules]
        exact .invalid carried asks hkeys signed hrules
    | ok _ =>
        rw [route_of_valid carried asks hkeys signed hrules]
        cases hhandled : router.table.handler kind body state with
        | mk result after events =>
        cases result with
        | error error =>
            rw [Run.bind_of_error (by rw [hhandled]), hhandled]
            simpa [Outcome.behind] using Ends.failed carried asks hkeys signed hrules hhandled
        | ok _ =>
            rw [Run.bind_of_ok (by rw [hhandled]), hhandled]
            simpa [Outcome.behind, acknowledgement] using
              Ends.acknowledged carried asks hkeys signed hrules hhandled
  · rw [route_of_forged carried asks hkeys signed]
    exact .unsigned carried asks hkeys signed

/-- The stage that decides fixes the whole outcome. -/
theorem route_of_ends {router : Router σ} {call : Rpc.Call} {state : σ}
    {outcome : Outcome σ (Option Json.Value)} (ends : Ends router call state outcome) :
    router.route call state = outcome := by
  cases ends with
  | noArgument absent => exact route_of_unread (readTransaction_of_absent absent)
  | malformed present unread =>
      exact route_of_unread (readTransaction_of_malformed present unread)
  | misshapen carried violation =>
      exact route_of_refused carried (readOperation_of_misshapen violation)
  | unknown carried shaped => exact route_of_refused carried (readOperation_of_unknown shaped)
  | unresolved carried asks refused => exact route_of_unresolved carried asks refused
  | unsigned carried asks resolved forged =>
      exact route_of_forged carried asks resolved forged
  | invalid carried asks resolved signed broken =>
      exact route_of_invalid carried asks resolved signed broken
  | failed carried asks resolved signed valid handled =>
      rw [route_of_valid carried asks resolved signed valid,
        Run.bind_of_error (by rw [handled]), handled]
      simp [Outcome.behind]
  | acknowledged carried asks resolved signed valid handled =>
      rw [route_of_valid carried asks resolved signed valid,
        Run.bind_of_ok (by rw [handled]), handled]
      simp [Outcome.behind, acknowledgement]

/-- A call ends in one of the ways of `Ends` and in no other. -/
theorem ends_iff {router : Router σ} {call : Rpc.Call} {state : σ}
    {outcome : Outcome σ (Option Json.Value)} :
    Ends router call state outcome ↔ router.route call state = outcome := by
  refine ⟨route_of_ends, ?_⟩
  rintro rfl
  exact ends_route router call state

end BlogGateway.Broadcast
