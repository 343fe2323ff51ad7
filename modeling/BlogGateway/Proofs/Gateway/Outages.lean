/-
What clients see of a node that fails.

The keys of accounts come from a node of the chain, and what the node answers when something
is wrong with it is not for clients: an error page, the text of an error or the bytes of a
body that cannot be read.  The gateway looks at a node only through lookups, and lookups over
two nodes that fail are the same, so the whole gateway is the same over both.

What is left is to say what it answers.  A request that asks for keys is told that the node is
unavailable, in words that are fixed, and no request gets further.
-/
import BlogGateway.Proofs.Authority.Node
import BlogGateway.Proofs.Gateway.Admission

namespace BlogGateway

/-! ### Only lookups look at the source of keys -/

section Lookups

variable {σ : Type} {a b : Authority}

/-- Lookups over the two sources do the same. -/
def LookUpAlike (σ : Type) (a b : Authority) : Prop :=
  ∀ account, (Run.keysOf a account : Run σ KeySet) = Run.keysOf b account

theorem Broadcast.route_congr (same : LookUpAlike σ a b) (chain : ChainId)
    (registry : Registry σ) :
    Dispatcher.route ⟨chain, a, registry⟩ = Dispatcher.route ⟨chain, b, registry⟩ := by
  funext call
  unfold Dispatcher.route
  simp only [same _]

theorem Rpc.signed_congr (same : LookUpAlike σ a b) (chain : ChainId)
    (handler : SignedCall → Run σ (Option Json.Value)) :
    signed chain a handler = signed chain b handler := by
  funext call
  unfold signed authenticate
  simp only [same _]

end Lookups

namespace Gateway

open Blog

theorem router_congr {a b : Authority} (same : LookUpAlike Store a b) (chain : ChainId)
    (policy : Policy) (moment : Moment) :
    router ⟨chain, a, policy⟩ moment = router ⟨chain, b, policy⟩ moment := by
  have broadcast : (dispatcher ⟨chain, a, policy⟩ moment).route
      = (dispatcher ⟨chain, b, policy⟩ moment).route := Broadcast.route_congr same chain _
  unfold router signedReads signedReading
  simp only [broadcast, Rpc.signed_congr same]

end Gateway

/-! ### What is answered instead -/

/-- If keys were asked for, the answer is that the node is unavailable. -/
def Outcome.Deflects {σ α : Type} (outcome : Outcome σ α) : Prop :=
  ∀ account, .lookup account ∈ outcome.events →
    outcome.result = .error ⟨4, "blockchain node unavailable"⟩

theorem Outcome.deflects_of_no_events {σ α : Type} {outcome : Outcome σ α}
    (h : outcome.events = []) : outcome.Deflects := by
  intro account asked
  rw [h] at asked
  cases asked

section Down

variable {σ : Type} {node : Node} {timeout : Milliseconds}

/-- A transaction whose keys are asked for gets no further. -/
theorem Broadcast.deflects_route (down : node.Down) {router : Router σ}
    (source : router.authority = node.authority timeout) (call : Rpc.Call) (state : σ) :
    (router.route call state).Deflects := by
  have ends := ends_route router call state
  generalize router.route call state = outcome at ends
  have unknown (account : String) (keys : KeySet) :
      router.authority.resolve account ≠ .ok keys := by
    obtain ⟨detail, failed⟩ := Node.resolve_of_down down timeout account
    rw [source, failed]
    simp
  cases ends with
  | noArgument | malformed | misshapen | unknown => exact Outcome.deflects_of_no_events rfl
  | @unresolved _ _ body _ carried asks refused =>
      obtain ⟨detail, failed⟩ := Node.resolve_of_down down timeout body.account
      rw [source, failed] at refused
      obtain rfl := Except.error.inj refused
      exact fun _ _ => rfl
  | unsigned carried asks resolved => exact absurd resolved (unknown _ _)
  | invalid carried asks resolved => exact absurd resolved (unknown _ _)
  | failed carried asks resolved => exact absurd resolved (unknown _ _)
  | acknowledged carried asks resolved => exact absurd resolved (unknown _ _)

/-- A signed read whose keys are asked for gets no further. -/
theorem Rpc.deflects_signed (down : node.Down) (chain : ChainId)
    (handler : SignedCall → Run σ (Option Json.Value)) (call : Call) (state : σ) :
    (signed chain (node.authority timeout) handler call state).Deflects := by
  cases claimed : Claim.ofCall call with
  | error error =>
      rw [signed_of_no_claim claimed]
      exact Outcome.deflects_of_no_events rfl
  | ok claim =>
      obtain ⟨detail, failed⟩ := Node.resolve_of_down down timeout claim.account
      rw [signed_of_unresolved claimed failed]
      exact fun _ _ => rfl

end Down

namespace Gateway

open Blog

section Down

variable {node : Node} (down : node.Down) (timeout : Milliseconds) (chain : ChainId)
  (policy : Policy) (moment : Moment)
include down

theorem deflects_dispatch (call : Rpc.Call) (store : Store) :
    ((router ⟨chain, node.authority timeout, policy⟩ moment).dispatch call store).Deflects := by
  by_cases broadcast : IsBroadcast call
  · rw [dispatch_of_broadcast broadcast]
    exact Broadcast.deflects_route down rfl call store
  · rcases dispatch_of_other broadcast with ⟨route, hpublic, h⟩ | ⟨route, hsigned, -, -, h⟩ | h
    · obtain ⟨read, hread⟩ := publicReads_reading route hpublic
      rw [h, hread, reading_apply]
      exact Outcome.deflects_of_no_events rfl
    · obtain ⟨read, hread⟩ := signedReads_reading _ _ _ route hsigned
      rw [h, hread]
      exact Rpc.deflects_signed down chain _ call store
    · rw [h]
      exact Outcome.deflects_of_no_events rfl

/-- Without keys nothing is admitted, so the store stays as it is. -/
theorem state_handle_of_down (body : Bytes) (store : Store) :
    (handle ⟨chain, node.authority timeout, policy⟩ moment body store).state = store := by
  refine state_handle_of_not_admits _ moment fun kind operation admitted => ?_
  obtain ⟨-, -, -, -, -, known, -, -⟩ := admitted
  obtain ⟨detail, failed⟩ := Node.resolve_of_down down timeout operation.account
  rw [Authority.resolve_eq_ok_iff.mpr known] at failed
  cases failed

theorem response_handle_of_down {body : Bytes} {store : Store} {account : String}
    (asked : .lookup account
      ∈ (handle ⟨chain, node.authority timeout, policy⟩ moment body store).events) :
    ∃ request, Rpc.Request.parse body = .ok request ∧
      (handle ⟨chain, node.authority timeout, policy⟩ moment body store).response
        = ⟨request.call.id, none, some ⟨4, "blockchain node unavailable"⟩⟩ := by
  unfold handle Rpc.Router.handle at asked ⊢
  cases hread : Rpc.Router.readCall body with
  | error answer =>
      rw [hread] at asked
      cases asked
  | ok call =>
      rw [hread] at asked
      obtain ⟨request, parsed, -, rfl⟩ := readCall_eq_ok_iff.mp hread
      refine ⟨request, parsed, ?_⟩
      dsimp only
      rw [deflects_dispatch down timeout chain policy moment request.call store account asked]
      rfl

end Down

/--
**Clients cannot tell how the node failed.**

Over two nodes that fail, each in its own way, a request is handled alike: it is answered the
same, and the store stays as it was.  If it gets as far as asking for keys, the answer is the
fixed error and nothing besides.
-/
theorem outages_opaque (chain : ChainId) (policy : Policy) (moment : Moment) (body : Bytes)
    (store : Store) (node node' : Node) (timeout timeout' : Milliseconds) (down : node.Down)
    (down' : node'.Down) :
    let gateway : Gateway := ⟨chain, node.authority timeout, policy⟩
    let gateway' : Gateway := ⟨chain, node'.authority timeout', policy⟩
    (gateway.handle moment body store).response = (gateway'.handle moment body store).response ∧
    (gateway.handle moment body store).events = (gateway'.handle moment body store).events ∧
    (gateway.handle moment body store).state = store ∧
    (gateway'.handle moment body store).state = store ∧
    ∀ account, .lookup account ∈ (gateway.handle moment body store).events →
      ∃ request, Rpc.Request.parse body = .ok request ∧
        (gateway.handle moment body store).response
          = ⟨request.call.id, none, some ⟨4, "blockchain node unavailable"⟩⟩ := by
  intro gateway gateway'
  have same : LookUpAlike Store (node.authority timeout) (node'.authority timeout') := by
    intro account
    rw [Node.keysOf_of_down down, Node.keysOf_of_down down']
  have handled : gateway.handle moment body store = gateway'.handle moment body store := by
    unfold handle
    rw [router_congr same]
  refine ⟨by rw [handled], by rw [handled], ?_, ?_, ?_⟩
  · exact state_handle_of_down down timeout chain policy moment body store
  · exact state_handle_of_down down' timeout' chain policy moment body store
  · intro account asked
    exact response_handle_of_down down timeout chain policy moment asked

/-- An answer that no client should read. -/
private def talk : Bytes :=
  Bytes.ofText "\x7b\"error\":\x7b\"code\":7,\"message\":\"disk sda1\"\x7d\x7d"

private theorem down_talk : Node.Down fun _ => .replied 200 talk := by
  intro account
  have reads : Json.readWholeText (Node.readReply (Json.readList Node.readAccount)) talk
      = .ok ⟨none, some ⟨7, "disk sda1"⟩⟩ := rfl
  exact .reported (by decide) reads

/-- A signed read of alice. -/
private def aliceAsks : Bytes := Bytes.ofText
  ("\x7b\"id\":7,\"method\":\"call\",\"params\":[\"draft_api\",\"get_drafts\","
    ++ "[\"alice\",\"salt\",\"00\",[]]]\x7d")

/-- Over a node that says why it fails and one that is not reached, the keys of alice are asked
for and the answers are the same. -/
theorem alice_told_nothing :
    let gateway : Gateway :=
      ⟨.mainnet, Node.authority (fun _ => .replied 200 talk) ⟨5000⟩, .default⟩
    let gateway' : Gateway := ⟨.mainnet, Node.authority (fun _ => .unreachable) ⟨5000⟩, .default⟩
    .lookup "alice" ∈ (gateway.handle default aliceAsks .empty).events ∧
    (gateway.handle default aliceAsks .empty).response
      = (gateway'.handle default aliceAsks .empty).response := by
  obtain ⟨response, -, -, -, -⟩ := outages_opaque .mainnet .default default aliceAsks .empty
    (fun _ => .replied 200 talk) (fun _ => .unreachable) ⟨5000⟩ ⟨5000⟩ down_talk
    (fun _ => .unreachable)
  exact ⟨by decide +kernel, response⟩

end Gateway

end BlogGateway
