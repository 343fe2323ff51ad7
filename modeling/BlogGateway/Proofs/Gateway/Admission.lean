/-
What changes the store.

Whatever requests arrive, the store is what its own methods make of the operations that were
admitted, in the order in which they came.  `Admits` says when that is: the request is a call
of the one method that takes transactions, its first argument carries one with a known
operation, the account that the operation names has keys, one of them made the signature for
this chain, and the fields keep the rules.  `Evolves` says what becomes of the store over a
sequence of requests, each of which meets a source of keys and a moment of its own.

Nothing else gets through, for two reasons.  Every other route is a read, and reads are silent
because the runs that they are made of are.  And a transaction that fails at a stage ends
before its handler, which is what `Broadcast.Ends` says case by case.
-/
import BlogGateway.Gateway.Basic
import BlogGateway.Proofs.Authority.Lookup
import BlogGateway.Proofs.Blog.InPlace
import BlogGateway.Proofs.Broadcast.Dispatcher
import BlogGateway.Proofs.Gateway.Reads

namespace BlogGateway

open Blog Operation

/-! ### The stages of a transaction, as far as they concern the state -/

namespace Broadcast

variable {σ : Type} {router : Router σ} {call : Rpc.Call} {state : σ}

/-- The operation of the call passes all stages. -/
def Passes (router : Router σ) (call : Rpc.Call) (kind : Kind) (body : Body kind) : Prop :=
  ∃ tx keys, Carries call tx ∧ Asks tx kind body ∧
    router.authority.resolve body.account = .ok keys ∧ SignedBy router.chain tx keys ∧
    rules kind body = .ok ()

theorem state_route_of_passes {kind : Kind} {body : Body kind}
    (passes : Passes router call kind body) :
    (router.route call state).state = (router.table.handler kind body state).state := by
  obtain ⟨tx, keys, carried, asks, resolved, signed, valid⟩ := passes
  rw [route_of_valid carried asks resolved signed valid]
  cases hhandled : (router.table.handler kind body state).result with
  | error error =>
      rw [Run.bind_of_error hhandled]
      rfl
  | ok _ =>
      rw [Run.bind_of_ok hhandled]
      rfl

/-- Without an operation that passes the state stays. -/
theorem state_route_of_not_passes (refused : ∀ kind body, ¬ Passes router call kind body) :
    (router.route call state).state = state := by
  have hends := ends_route router call state
  generalize router.route call state = outcome at hends
  cases hends with
  | noArgument | malformed | misshapen | unknown | unresolved | unsigned | invalid => rfl
  | failed carried asks resolved signed valid handled =>
      exact absurd ⟨_, _, carried, asks, resolved, signed, valid⟩ (refused _ _)
  | acknowledged carried asks resolved signed valid handled =>
      exact absurd ⟨_, _, carried, asks, resolved, signed, valid⟩ (refused _ _)

end Broadcast

namespace Gateway

/-! ### Which route a call takes -/

variable {gateway : Gateway} {moment : Moment} {call : Rpc.Call}

/-- The call is for the method that takes transactions. -/
def IsBroadcast (call : Rpc.Call) : Prop :=
  call.api = "network_broadcast_api" ∧ call.method = "broadcast_transaction_synchronous"

/-- The registered handlers are those of the table. -/
theorem registry_serves : (gateway.registry moment).Serves (gateway.table moment) := by
  intro kind
  cases kind <;> rfl

theorem route_dispatcher :
    (gateway.dispatcher moment).route = (gateway.transactions moment).route :=
  funext fun call => Broadcast.route_eq_route registry_serves.matches call

theorem handler?_broadcast :
    (gateway.router moment).handler? broadcastApi broadcastMethod
      = some (gateway.transactions moment).route := by
  rw [← route_dispatcher]
  rfl

theorem dispatch_of_broadcast (broadcast : IsBroadcast call) :
    (gateway.router moment).dispatch call = (gateway.transactions moment).route call := by
  have hhandler : (gateway.router moment).handler? call.api call.method
      = some (gateway.transactions moment).route := by
    rw [broadcast.1, broadcast.2]
    exact handler?_broadcast
  unfold Rpc.Router.dispatch
  rw [hhandler]

/-- Every other call goes to the read that it names, or to nobody. -/
theorem dispatch_of_other (other : ¬ IsBroadcast call) :
    (∃ route ∈ publicReads, (gateway.router moment).dispatch call = route.handler call) ∨
    (∃ route ∈ signedReads gateway.chain gateway.authority gateway.policy,
      route.api = call.api ∧ route.method = call.method ∧
        (gateway.router moment).dispatch call = route.handler call) ∨
    (gateway.router moment).dispatch call
      = Run.fail (.routeNotRegistered s!"route: {call.api}.{call.method} not registered") := by
  unfold Rpc.Router.dispatch Rpc.Router.handler?
  cases hfind : (gateway.router moment).routes.reverse.find? fun route =>
      route.api = call.api && route.method = call.method with
  | none => exact .inr (.inr rfl)
  | some route =>
      have hmatch := List.find?_some hfind
      have hmem := List.mem_of_find?_eq_some hfind
      simp only [Bool.and_eq_true, decide_eq_true_eq] at hmatch
      simp only [router, List.mem_reverse, List.cons_append, List.mem_cons, List.mem_append]
        at hmem
      rcases hmem with rfl | hpublic | hsigned
      · exact absurd ⟨hmatch.1.symm, hmatch.2.symm⟩ other
      · exact .inl ⟨route, hpublic, rfl⟩
      · exact .inr (.inl ⟨route, hsigned, hmatch.1, hmatch.2, rfl⟩)

/-- Every other call leaves the store alone. -/
theorem silent_dispatch (other : ¬ IsBroadcast call) :
    Run.Silent ((gateway.router moment).dispatch call) := by
  rcases dispatch_of_other other with ⟨route, hread, h⟩ | ⟨route, hread, -, -, h⟩ | h
  · rw [h]
    exact silent_publicReads route hread call
  · rw [h]
    exact silent_signedReads _ _ _ route hread call
  · rw [h]
    exact Run.silent_fail _

/-! ### One request -/

/-- The body is a call for the method that takes transactions, and its first argument is a
transaction that brings the operation with all that it needs. -/
inductive Admits (chain : ChainId) (authority : Authority) (body : Bytes) (kind : Kind)
    (operation : Body kind) : Prop
  | transaction {request : Rpc.Request} {tx : Transaction} {keys : KeySet}
      (parsed : Rpc.Request.parse body = .ok request) (asked : request.verb = "call")
      (broadcast : IsBroadcast request.call) (carried : Broadcast.Carries request.call tx)
      (asks : Broadcast.Asks tx kind operation)
      (known : authority.Knows operation.account keys)
      (signed : Broadcast.SignedBy chain tx keys) (valid : rules kind operation = .ok ()) :
      Admits chain authority body kind operation

theorem readCall_eq_ok_iff {body : Bytes} {call : Rpc.Call} :
    Rpc.Router.readCall body = .ok call ↔
      ∃ request, Rpc.Request.parse body = .ok request ∧ request.verb = "call" ∧
        request.call = call := by
  unfold Rpc.Router.readCall
  cases Rpc.Request.parse body with
  | error cause => simp
  | ok request =>
      by_cases hverb : request.verb = Rpc.callVerb
      · simp only [if_pos hverb, Except.ok.injEq]
        constructor
        · intro h
          obtain rfl := h
          exact ⟨request, rfl, hverb, rfl⟩
        · intro h
          obtain ⟨request', rfl, -, rfl⟩ := h
          rfl
      · simp only [if_neg hverb, reduceCtorEq, false_iff]
        intro h
        obtain ⟨request', hrequest, hverb', -⟩ := h
        obtain rfl := Except.ok.inj hrequest
        exact hverb hverb'

theorem state_handle_of_call {body : Bytes} {store : Store}
    (hread : Rpc.Router.readCall body = .ok call) :
    (gateway.handle moment body store).state
      = ((gateway.router moment).dispatch call store).state := by
  unfold handle Rpc.Router.handle
  rw [hread]

theorem state_handle_of_no_call {body : Bytes} {store : Store} {answer : UInt64 × Rpc.Error}
    (hread : Rpc.Router.readCall body = .error answer) :
    (gateway.handle moment body store).state = store := by
  unfold handle Rpc.Router.handle
  rw [hread]

/-- A call is admitted when it is for transactions and its operation passes all stages. -/
theorem admits_iff {body : Bytes} (moment : Moment)
    (hread : Rpc.Router.readCall body = .ok call) {kind : Kind} {operation : Body kind} :
    Admits gateway.chain gateway.authority body kind operation ↔
      IsBroadcast call ∧ Broadcast.Passes (gateway.transactions moment) call kind operation := by
  obtain ⟨request, hparse, hverb, rfl⟩ := readCall_eq_ok_iff.mp hread
  constructor
  · intro h
    obtain ⟨parsed, -, broadcast, carried, asks, known, signed, valid⟩ := h
    obtain rfl := Except.ok.inj (hparse.symm.trans parsed)
    exact ⟨broadcast, _, _, carried, asks, Authority.resolve_eq_ok_iff.mpr known, signed, valid⟩
  · intro h
    obtain ⟨broadcast, tx, keys, carried, asks, resolved, signed, valid⟩ := h
    exact .transaction hparse hverb broadcast carried asks
      (Authority.resolve_eq_ok_iff.mp resolved) signed valid

/-- The store after an admitted operation is the one that its method leaves. -/
theorem state_handle_of_admits (gateway : Gateway) (moment : Moment) {body : Bytes}
    {store : Store} {kind : Kind} {operation : Body kind}
    (admitted : Admits gateway.chain gateway.authority body kind operation) :
    (gateway.handle moment body store).state
      = (Run.update (Store.apply gateway.policy moment kind operation) store).state := by
  cases hread : Rpc.Router.readCall body with
  | error answer =>
      obtain ⟨parsed, asked, -, -, -, -, -, -⟩ := admitted
      rw [readCall_eq_ok_iff.mpr ⟨_, parsed, asked, rfl⟩] at hread
      cases hread
  | ok call =>
      obtain ⟨broadcast, passes⟩ := (admits_iff moment hread).mp admitted
      rw [state_handle_of_call hread, dispatch_of_broadcast broadcast,
        Broadcast.state_route_of_passes passes, ← InPlace.apply_eq_update]
      rfl

/-- A request that is not admitted leaves the store as it was. -/
theorem state_handle_of_not_admits (gateway : Gateway) (moment : Moment) {body : Bytes}
    {store : Store}
    (refused : ∀ kind operation,
      ¬ Admits gateway.chain gateway.authority body kind operation) :
    (gateway.handle moment body store).state = store := by
  cases hread : Rpc.Router.readCall body with
  | error answer => exact state_handle_of_no_call hread
  | ok call =>
      rw [state_handle_of_call hread]
      by_cases broadcast : IsBroadcast call
      · rw [dispatch_of_broadcast broadcast]
        refine Broadcast.state_route_of_not_passes fun kind operation passes => ?_
        exact refused kind operation ((admits_iff moment hread).mpr ⟨broadcast, passes⟩)
      · exact silent_dispatch broadcast store

/-! ### Sequences of requests -/

/-- The method of the store for operations of each kind. -/
inductive Method (policy : Policy) (moment : Moment) : (kind : Kind) → Body kind → Change → Prop
  | register (op : Register) : Method policy moment .register op (Store.register moment op)
  | updateProfile (op : UpdateProfile) :
      Method policy moment .updateProfile op (Store.updateProfile op)
  | follow (op : Follow) : Method policy moment .follow op (Store.follow policy moment op)
  | unfollow (op : Unfollow) : Method policy moment .unfollow op (Store.unfollow op)
  | uploadMedia (op : UploadMedia) :
      Method policy moment .uploadMedia op (Store.uploadMedia policy moment op)
  | addToBlacklist (op : AddToBlacklistAdmin) :
      Method policy moment .addToBlacklistAdmin op (Store.addToBlacklist policy op)
  | removeFromBlacklist (op : RemoveFromBlacklistAdmin) :
      Method policy moment .removeFromBlacklistAdmin op (Store.removeFromBlacklist policy op)
  | addCategory (op : AddCategoryAdmin) :
      Method policy moment .addCategoryAdmin op (Store.addCategory policy op)
  | removeCategory (op : RemoveCategoryAdmin) :
      Method policy moment .removeCategoryAdmin op (Store.removeCategory policy op)
  | updateCategory (op : UpdateCategoryAdmin) :
      Method policy moment .updateCategoryAdmin op (Store.updateCategory policy op)
  | setAccountTrusted (op : SetAccountTrustedAdmin) :
      Method policy moment .setAccountTrustedAdmin op (Store.setAccountTrusted policy op)
  | upsertDraft (op : UpsertDraft) :
      Method policy moment .upsertDraft op (Store.upsertDraft moment op)
  | removeDraft (op : RemoveDraft) : Method policy moment .removeDraft op (Store.removeDraft op)
  | markNotificationRead (op : MarkNotificationRead) :
      Method policy moment .markNotificationRead op (Store.markNotificationRead op)
  | markAllNotificationsRead (op : MarkAllNotificationsRead) :
      Method policy moment .markAllNotificationsRead op (Store.markAllNotificationsRead op)
  | markAllNotificationsSeen (op : MarkAllNotificationsSeen) :
      Method policy moment .markAllNotificationsSeen op (Store.markAllNotificationsSeen op)
  | updateProfileSettings (op : UpdateProfileSettings) :
      Method policy moment .updateProfileSettings op (Store.updateProfileSettings op)
  | registerPushToken (op : RegisterPushToken) :
      Method policy moment .registerPushToken op (Store.registerPushToken op)
  | downvote (op : Operation.Downvote) :
      Method policy moment .downvote op (Store.castDownvote op)
  | removeDownvote (op : RemoveDownvote) :
      Method policy moment .removeDownvote op (Store.removeDownvote op)

/-- Every operation goes to the method of its kind. -/
theorem method_iff {policy : Policy} {moment : Moment} {kind : Kind} {operation : Body kind}
    {change : Change} :
    Method policy moment kind operation change ↔
      Store.apply policy moment kind operation = change := by
  constructor
  · intro method
    cases method <;> rfl
  · intro h
    obtain rfl := h
    cases kind <;> constructor

section Runs

variable (chain : ChainId) (policy : Policy)

/-- What a request makes of the store. -/
inductive Takes (turn : Turn) (store : Store) : Store → Prop
  /-- The operation is admitted, and its method changes the store. -/
  | changed {kind : Kind} {operation : Body kind} {change : Change} {after : Store}
      (admitted : Admits chain turn.authority turn.body kind operation)
      (method : Method policy turn.moment kind operation change)
      (succeeded : change store = .ok after) : Takes turn store after
  /-- The operation is admitted, and its method fails. -/
  | failed {kind : Kind} {operation : Body kind} {change : Change} {error : Rpc.Error}
      (admitted : Admits chain turn.authority turn.body kind operation)
      (method : Method policy turn.moment kind operation change)
      (failed : change store = .error error) : Takes turn store store
  /-- No operation is admitted. -/
  | refused (refused : ∀ kind operation,
      ¬ Admits chain turn.authority turn.body kind operation) :
      Takes turn store store

/-- What a sequence of requests makes of the store. -/
inductive Evolves : List Turn → Store → Store → Prop
  | nil (store : Store) : Evolves [] store store
  | cons {turn : Turn} {turns : List Turn} {store next final : Store}
      (first : Takes chain policy turn store next) (rest : Evolves turns next final) :
      Evolves (turn :: turns) store final

variable {chain : ChainId} {policy : Policy}

/-- What a request makes of the store is how the handling of its body ends. -/
theorem takes_iff {turn : Turn} {store after : Store} :
    Takes chain policy turn store after ↔
      (handle ⟨chain, turn.authority, policy⟩ turn.moment turn.body store).state = after := by
  constructor
  · intro h
    rcases h with ⟨admitted, method, succeeded⟩ | ⟨admitted, method, failed⟩ | refused
    · obtain rfl := method_iff.mp method
      rw [state_handle_of_admits ⟨chain, turn.authority, policy⟩ turn.moment admitted]
      simp only [Run.update, succeeded]
    · obtain rfl := method_iff.mp method
      rw [state_handle_of_admits ⟨chain, turn.authority, policy⟩ turn.moment admitted]
      simp only [Run.update, failed]
    · exact state_handle_of_not_admits _ _ refused
  · intro h
    obtain rfl := h
    by_cases hadmits : ∃ kind operation, Admits chain turn.authority turn.body kind operation
    · obtain ⟨kind, operation, admitted⟩ := hadmits
      rw [state_handle_of_admits ⟨chain, turn.authority, policy⟩ turn.moment admitted]
      cases happlied : Store.apply policy turn.moment kind operation store with
      | error error =>
          simp only [Run.update, happlied]
          exact .failed admitted (method_iff.mpr rfl) happlied
      | ok after =>
          simp only [Run.update, happlied]
          exact .changed admitted (method_iff.mpr rfl) happlied
    · have refused : ∀ kind operation,
          ¬ Admits chain turn.authority turn.body kind operation :=
        fun kind operation admitted => hadmits ⟨kind, operation, admitted⟩
      rw [state_handle_of_not_admits ⟨chain, turn.authority, policy⟩ turn.moment refused]
      exact .refused refused

/--
**The store is what the admitted operations made of it, in their order.**

Over any sequence of requests, whatever they say and whatever is known about keys when they
are made, the store ends as the methods of the admitted operations leave it, and no other
request has any part in that.
-/
theorem run_eq_iff_evolves (chain : ChainId) (policy : Policy) (turns : List Turn)
    (store final : Store) :
    (run chain policy turns store).2 = final ↔ Evolves chain policy turns store final := by
  induction turns generalizing store with
  | nil =>
      constructor
      · intro h
        obtain rfl := h
        exact .nil store
      · intro h
        cases h
        rfl
  | cons turn turns ih =>
      show (run chain policy turns
        (handle ⟨chain, turn.authority, policy⟩ turn.moment turn.body store).state).2 = final ↔ _
      rw [ih]
      constructor
      · intro rest
        exact .cons (takes_iff.mpr rfl) rest
      · intro evolves
        cases evolves with
        | cons first rest =>
            rw [takes_iff.mp first]
            exact rest

end Runs

/-- Alice and bob are registered, and nothing else is known. -/
def aliceAndBob : Store :=
  { profiles := ((∅ : Std.ExtTreeMap String Profile).insert "alice" (.fresh "alice" ⟨0⟩)).insert
      "bob" (.fresh "bob" ⟨0⟩) }

/-- The signature of the transaction below. -/
def followSignature : String :=
  "1f88b69d6adab3304caf19b142a725838baf4bd07baaaa72287d2f434823d53b94" ++
  "1c2beb6e0de6c31393a7e208b7cda710384d6b5c40b3c3e572ab0a1f4b40d7e5"

/-- The transaction in which alice follows bob. -/
def followText : String :=
  "[24837,1701013868,\"2022-11-02T12:22:36\",[[\"follow\",[\"alice\",\"bob\"]]],[\""
    ++ followSignature ++ "\"]]"

/-- The key that the transaction is signed with. -/
def followKey : PublicKey :=
  ⟨[3, 153, 151, 164, 151, 217, 100, 252, 26, 98, 136, 91, 5, 165, 17, 102, 166, 90, 144, 223, 0,
    73, 44, 141, 124, 246, 29, 106, 204, 245, 72, 3, 190], rfl⟩

/-- The request that brings the transaction to a gateway that knows one key of every
account. -/
def followTurn : Turn where
  authority := ⟨fun _ => .answered (.ok ⟨[], [], [followKey]⟩), ⟨5000⟩, false⟩
  moment := default
  body := Bytes.ofText ("\x7b\"id\":7,\"method\":\"call\",\"params\":[\"network_broadcast_api\","
    ++ "\"broadcast_transaction_synchronous\",[" ++ followText ++ "]]\x7d")

theorem parse_followTurn : Rpc.Request.parse followTurn.body
    = .ok ⟨"call", ⟨7, broadcastApi, broadcastMethod, [⟨followText⟩]⟩⟩ :=
  Except.eq_ok_of_toOption (by decide +kernel)

theorem read_followText : (⟨followText⟩ : Json.Raw).read Transaction.read
    = .ok ⟨24837, 1701013868, some ⟨1667391756⟩, [.known .follow ⟨"alice", "bob"⟩],
        [followSignature]⟩ :=
  Except.eq_ok_of_toOption (by decide +kernel)

/-- The transaction is signed with the key that is known, and keeps the rules. -/
private theorem admits_followTurn :
    Admits .mainnet followTurn.authority followTurn.body .follow ⟨"alice", "bob"⟩ := by
  have signed : Broadcast.SignedBy .mainnet
      ⟨24837, 1701013868, some ⟨1667391756⟩, [.known .follow ⟨"alice", "bob"⟩], [followSignature]⟩
      ⟨[], [], [followKey]⟩ := Broadcast.isSigned_iff.mp (by decide +kernel)
  exact .transaction parse_followTurn rfl ⟨rfl, rfl⟩ ⟨_, rfl, read_followText⟩
    ⟨rfl, rfl, by decide, by decide⟩ ⟨rfl, rfl, by decide⟩ signed rfl

/-- Alice's request is admitted: the store ends as her follow leaves it, and bob is told. -/
theorem follow_admitted :
    Admits .mainnet followTurn.authority followTurn.body .follow ⟨"alice", "bob"⟩ ∧
    ∃ final, Store.follow .default default ⟨"alice", "bob"⟩ aliceAndBob = .ok final ∧
      (run .mainnet .default [followTurn] aliceAndBob).2 = final ∧
      aliceAndBob.isFollowing "alice" "bob" = false ∧ final.isFollowing "alice" "bob" = true ∧
      final.notifications.length = 1 := by
  have seen : (Store.follow .default default ⟨"alice", "bob"⟩ aliceAndBob).toOption.map
      (fun store => (store.isFollowing "alice" "bob", store.notifications.length))
        = some (true, 1) := by decide +kernel
  obtain ⟨final, followed, seen⟩ := Option.map_eq_some_iff.mp seen
  have followed := Except.eq_ok_of_toOption followed
  obtain ⟨following, told⟩ := Prod.mk.inj seen
  have ends : (run .mainnet .default [followTurn] aliceAndBob).2 = final :=
    (run_eq_iff_evolves .mainnet .default [followTurn] aliceAndBob final).mpr
      (.cons (.changed admits_followTurn (.follow _) followed) (.nil final))
  exact ⟨admits_followTurn, final, followed, ends, rfl, following, told⟩

end Gateway

end BlogGateway
