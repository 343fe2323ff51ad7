/-
Dispatching comes to the stages.

`Dispatcher.route` has branches that no call takes.  Each of them is closed by a check that
was made elsewhere: a transaction of the right shape has an operation to ask for and to take
out, a known operation has a signed form, the handlers were registered for every kind, and a
handler that was registered for a kind is given the bodies of that kind.

The lemmas here close the branches one by one, and `route_eq_route` puts them together: a
dispatcher whose registry matches a table does what the router with that table does.
-/
import BlogGateway.Broadcast.Dispatcher
import BlogGateway.Proofs.Broadcast.Stages
import BlogGateway.Proofs.Digest.Transaction

namespace BlogGateway.Broadcast

open Operation

variable {σ : Type}

/-! ### What the shape leaves open -/

/-- The check of the shape finds what taking the shape apart finds. -/
theorem checkShape_eq_map_shape (tx : Transaction) :
    tx.checkShape = tx.shape.map fun _ => () := by
  unfold Transaction.checkShape Transaction.shape
  by_cases expires : tx.expiration.isNone = true
  · rw [if_pos expires, if_pos expires]
    rfl
  rw [if_neg expires, if_neg expires]
  match tx.operations with
  | [] => rfl
  | _ :: _ :: _ => simp [Except.map]
  | [operation] =>
      by_cases unsigned : tx.signatures.isEmpty = true
      · simp [unsigned, Except.map]
      · simp only [List.length_singleton, ne_eq, not_true_eq_false, if_false, unsigned]
        cases tx.signatures.findIdx? (· = "") with
        | none => rfl
        | some index => rfl

/-- A transaction of the right shape has an operation to ask for and to take out. -/
theorem operation_of_checkShape {tx : Transaction} (shaped : tx.checkShape = .ok ()) :
    ∃ operation, tx.operation? = some operation ∧ tx.operations.head? = some operation := by
  rw [checkShape_eq_map_shape, Except.map_eq_ok_iff] at shaped
  obtain ⟨operation, shape, -⟩ := shaped
  have only := (shape_eq_ok_iff.mp shape).2.1
  exact ⟨operation, by rw [Transaction.operation?, only], by rw [only, List.head?_cons]⟩

/-- A transaction of the right shape whose operation is known has a signed form. -/
theorem digest_of_checkShape {tx : Transaction} (shaped : tx.checkShape = .ok ())
    (known : ∀ operation, tx.operation? = some operation → operation.kind?.isSome)
    (chain : ChainId) : ∃ digest, Digest.ofTransaction chain tx = .ok digest := by
  rw [checkShape_eq_map_shape, Except.map_eq_ok_iff] at shaped
  obtain ⟨operation, shape, -⟩ := shaped
  obtain ⟨expires, only, -, -⟩ := shape_eq_ok_iff.mp shape
  have allKnown : ∀ operation ∈ tx.operations, operation.kind?.isSome := by
    intro operation hmem
    rw [only, List.mem_singleton] at hmem
    exact known operation (by rw [Transaction.operation?, only, hmem])
  obtain ⟨content, holds⟩ := Transaction.exists_holds expires allKnown
  exact ⟨_, Digest.ofTransaction_eq_ok_iff.mpr
    ⟨_, Digest.transactionBytes_of_holds holds chain, rfl⟩⟩

/-! ### Handlers and their kinds -/

/-- A handler that was registered for a kind is given the bodies of that kind. -/
@[simp] theorem onKind_known (kind : Kind) (handler : BodyHandler σ kind) (body : Body kind) :
    onKind kind handler (.known kind body) = handler body := by
  simp [onKind]

/-- The registry holds the handlers of the table. -/
def Registry.Serves (registry : Registry σ) (table : Table σ) : Prop :=
  ∀ kind, registry.handler? kind = some (onKind kind (table.handler kind))

/-- The registry has a handler for every kind, and a body is to it what it is to the table.  A
handler may do anything with operations of other kinds, which never come to it. -/
def Registry.Matches (registry : Registry σ) (table : Table σ) : Prop :=
  ∀ kind, ∃ handler, registry.handler? kind = some handler ∧
    ∀ body, handler (.known kind body) = table.handler kind body

theorem Registry.Serves.matches {registry : Registry σ} {table : Table σ}
    (serves : registry.Serves table) : registry.Matches table :=
  fun kind => ⟨_, serves kind, onKind_known kind _⟩

theorem Registry.Serves.missing_eq_nil {registry : Registry σ} {table : Table σ}
    (serves : registry.Serves table) : registry.missing = [] := by
  refine List.filter_eq_nil_iff.mpr fun kind _ => ?_
  rw [serves kind]
  simp

/-- With a handler for every kind the dispatcher is built. -/
theorem Dispatcher.build_of_serves {registry : Registry σ} {table : Table σ}
    (serves : registry.Serves table) (chain : ChainId) (authority : Authority) :
    Dispatcher.build chain authority registry = .ok ⟨chain, authority, registry⟩ :=
  if_pos serves.missing_eq_nil

/-! ### The steps and the stages -/

section Route

variable {dispatcher : Dispatcher σ} {table : Table σ} {call : Rpc.Call} {tx : Transaction}

/-- A transaction that the stages refuse is refused by the steps that they are made of. -/
theorem route_of_refused_shape {error : Rpc.Error} (read : readTransaction call = .ok tx)
    (refused : readOperation tx = .error error) : dispatcher.route call = Run.fail error := by
  unfold Dispatcher.route
  rw [read, Run.ofExcept_ok_bind, checkShape_eq_map_shape]
  unfold readOperation at refused
  cases shape : tx.shape with
  | error cause =>
      rw [shape] at refused
      obtain rfl := Except.error.inj refused
      rfl
  | ok operation =>
      rw [shape] at refused
      have asked : tx.operation? = some operation := by
        rw [Transaction.operation?, (shape_eq_ok_iff.mp shape).2.1]
      cases operation with
      | known kind body => cases refused
      | unknown tag raw =>
          obtain rfl := Except.error.inj refused
          rw [asked]
          rfl

/-- Behind the shape the steps are the stages: nothing they ask for is missing. -/
theorem route_of_asks {kind : Kind} {body : Body kind} (read : readTransaction call = .ok tx)
    (asks : Asks tx kind body) (same : dispatcher.registry.Matches table) :
    dispatcher.route call
      = Router.route ⟨dispatcher.chain, dispatcher.authority, table⟩ call := by
  have shape := shape_eq_ok_iff.mpr ⟨asks.expires, asks.only, asks.signed, asks.noneEmpty⟩
  have shaped : tx.checkShape = .ok () := by
    rw [checkShape_eq_map_shape, shape]
    rfl
  have asked : tx.operation? = some (.known kind body) := by
    rw [Transaction.operation?, asks.only]
  obtain ⟨digest, hdigest⟩ := digest_of_checkShape shaped (fun operation h => by
    obtain rfl := Option.some.inj (asked.symm.trans h)
    rfl) dispatcher.chain
  have sameCheck (keys : KeySet) :
      isSigned dispatcher.chain tx keys = Dispatcher.verifies keys tx.signatures digest := by
    unfold isSigned Dispatcher.verifies
    rw [hdigest]
    match tx.signatures with
    | [] => rfl
    | [_] => rfl
    | _ :: _ :: _ => rfl
  obtain ⟨handler, registered, handles⟩ := same kind
  unfold Dispatcher.route Router.route
  simp only [read, Run.ofExcept_ok_bind, readOperation_eq_ok_iff.mpr asks, shaped, asked, hdigest,
    asks.only, registered, handles, sameCheck, Except.mapError_ok, Run.require_some_bind,
    Operation.kind?, Operation.account?, List.head?_cons]
  refine congrArg _ (funext fun keys => ?_)
  by_cases signed : Dispatcher.verifies keys tx.signatures digest = true
  · rw [Run.ensure_of_pos signed, Run.pure_bind, signed]
    rfl
  · rw [Run.ensure_of_neg signed, Run.fail_bind, Bool.eq_false_iff.mpr signed]
    rfl

/--
**A dispatcher does what the stages of its transactions come to.**
-/
theorem route_eq_route (same : dispatcher.registry.Matches table) (call : Rpc.Call) :
    dispatcher.route call
      = Router.route ⟨dispatcher.chain, dispatcher.authority, table⟩ call := by
  cases read : readTransaction call with
  | error error =>
      unfold Dispatcher.route Router.route
      rw [read]
      rfl
  | ok tx =>
  cases taken : readOperation tx with
  | error error =>
      rw [route_of_refused_shape read taken]
      funext state
      exact (route_of_refused (readTransaction_eq_ok_iff.mp read) taken).symm
  | ok operation =>
      exact route_of_asks read (readOperation_eq_ok_iff.mp taken) same

/-- A call that is dispatched ends in one of the ways of `Ends` and in no other. -/
theorem ends_iff_dispatched (same : dispatcher.registry.Matches table) {state : σ}
    {outcome : Outcome σ (Option Json.Value)} :
    Ends ⟨dispatcher.chain, dispatcher.authority, table⟩ call state outcome ↔
      dispatcher.route call state = outcome := by
  rw [ends_iff, route_eq_route same]

end Route

end BlogGateway.Broadcast
