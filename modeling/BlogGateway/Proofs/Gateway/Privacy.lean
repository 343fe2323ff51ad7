/-
Nobody else learns what is private to an account.

Take two stores that differ in nothing but what is private to an account, and give both the
same requests, none of which acts for the account: no transaction of the account is admitted,
and no signed read is authenticated as the account.  Then every request is answered alike, and
the stores still differ in nothing else.

A request is followed through both stores at once.  What is decided before the store is looked
at is the same, because it does not depend on the store; a public read looks only at what is
shared; a signed read is about the account that signed it; and an operation of another account
ends alike.
-/
import BlogGateway.Proofs.Blog.Privacy
import BlogGateway.Proofs.Gateway.Admission

namespace BlogGateway

open Blog Operation

/-! ### Transactions -/

/-- A route cannot tell states apart that no handler can tell apart when it is given an
operation that passes. -/
theorem Broadcast.alike_route {σ : Type} {related : σ → σ → Prop} {router : Router σ}
    {call : Rpc.Call} (alike : ∀ kind body, Passes router call kind body →
      Run.Alike related (router.table.handler kind body)) :
    Run.Alike related (router.route call) := by
  refine .bind (Run.alike_ofExcept _) fun tx ⟨_, carried⟩ => ?_
  refine .bind (Run.alike_ofExcept _) fun ⟨kind, body⟩ ⟨_, asks⟩ => ?_
  refine .bind (Run.alike_keysOf _ _) fun keys ⟨_, resolved⟩ => ?_
  dsimp only
  split
  · exact .bind (Run.alike_fail _) fun _ ⟨_, ended⟩ => nomatch ended
  · rename_i signed
    refine .bind (Run.alike_ofExcept _) fun _ ⟨_, valid⟩ => ?_
    refine .bind (Run.alike_emit _) fun _ _ => ?_
    refine .bind (alike kind body ?_) fun _ _ => Run.alike_pure _
    exact ⟨tx, keys, readTransaction_eq_ok_iff.mp carried, readOperation_eq_ok_iff.mp asks,
      Except.mapError_eq_ok_iff.mp resolved, isSigned_iff.mp (by simpa using signed),
      Except.mapError_eq_ok_iff.mp valid⟩

namespace Gateway

variable {account : String}

/-- The handlers of operations of another account cannot tell the stores apart. -/
theorem alike_table (gateway : Gateway) (moment : Moment) {kind : Kind} {body : Body kind}
    (other : body.account ≠ account) :
    Run.Alike (Store.AlikeBut account) ((gateway.table moment).handler kind body) := by
  intro s t alike
  show (InPlace.apply gateway.policy moment kind body s).result
      = (InPlace.apply gateway.policy moment kind body t).result ∧
    Store.AlikeBut account (InPlace.apply gateway.policy moment kind body s).state
      (InPlace.apply gateway.policy moment kind body t).state
  rw [InPlace.apply_eq_update]
  exact Store.EndAlike.update alike (Store.alike_apply gateway.policy moment alike other)

/-! ### Reads -/

/-- A read cannot tell stores apart in which it reads the same. -/
theorem alike_read {related : Store → Store → Prop}
    {read : Store → Except Rpc.Error Json.Value}
    (same : ∀ s t, related s t → read s = read t) :
    Run.Alike related (do
      let store ← Run.get
      let value ← Run.ofExcept (read store)
      pure (some value)) := by
  intro s t alike
  rw [look_apply, look_apply, same s t alike]
  exact ⟨rfl, alike⟩

/-- What anyone may read is shared. -/
theorem publicReads_shared : ∀ route ∈ publicReads, ∃ read, route.handler = reading read ∧
    ∀ call store, read call store = read call store.shared := by
  unfold publicReads
  simp only [List.forall_mem_cons, List.not_mem_nil, false_imp_iff, implies_true, and_true]
  and_intros <;> exact ⟨_, rfl, fun _ _ => rfl⟩

theorem alike_publicReads : ∀ route ∈ publicReads, ∀ call,
    Run.Alike (Store.AlikeBut account) (route.handler call) := by
  intro route hmem call
  obtain ⟨read, hread, shared⟩ := publicReads_shared route hmem
  rw [hread]
  refine alike_read fun s t alike => ?_
  rw [shared call s, shared call t, alike.shared]

/-- What an account reads of its own is the same when the stores differ for another. -/
theorem signedReads_own (chain : ChainId) (authority : Authority) (policy : Policy) :
    ∀ route ∈ signedReads chain authority policy, ∃ read,
      route.handler = signedReading chain authority read ∧
      ∀ account call s t, Store.AlikeBut account s t → call.account ≠ account →
        read call s = read call t := by
  unfold signedReads
  simp only [List.forall_mem_cons, List.not_mem_nil, false_imp_iff, implies_true, and_true]
  refine ⟨⟨_, rfl, ?_⟩, ⟨_, rfl, ?_⟩, ⟨_, rfl, ?_⟩, ⟨_, rfl, ?_⟩⟩
  · intro account call s t alike other
    rw [alike.profileSettings other]
  · intro account call s t alike other
    simp only [alike.draft other]
  · intro account call s t alike other
    rw [alike.draftsOf other]
  · intro account call s t alike other
    rw [alike.notificationsOf other]

/-- The calls that an account makes to read what is its own. -/
def IsSignedRead (call : Rpc.Call) : Prop :=
  (call.api, call.method) ∈ [("account_api", "get_profile_settings"), ("draft_api", "get_draft"),
    ("draft_api", "get_drafts"), ("notification_api", "get_notifications")]

theorem isSignedRead_of_mem {chain : ChainId} {authority : Authority} {policy : Policy}
    {route : Rpc.Route Store} {call : Rpc.Call}
    (hmem : route ∈ signedReads chain authority policy) (api : route.api = call.api)
    (method : route.method = call.method) : IsSignedRead call := by
  have listed : (route.api, route.method)
      ∈ (signedReads chain authority policy).map fun route => (route.api, route.method) :=
    List.mem_map_of_mem hmem
  rw [api, method] at listed
  exact listed

theorem alike_signedReads {chain : ChainId} {authority : Authority} {policy : Policy}
    {call : Rpc.Call} (others : ∀ signed, Rpc.Authenticates chain authority call signed →
      signed.account ≠ account) :
    ∀ route ∈ signedReads chain authority policy,
      Run.Alike (Store.AlikeBut account) (route.handler call) := by
  intro route hmem
  obtain ⟨read, hread, own⟩ := signedReads_own chain authority policy route hmem
  rw [hread]
  refine .bind (Rpc.alike_authenticate chain authority call) fun signed ⟨_, ended⟩ => ?_
  have other := others signed (Rpc.result_authenticate_eq_ok_iff.mp ended)
  exact alike_read fun s t alike => own account signed s t alike other

/-! ### One request -/

/-- The body acts for the account: it brings a transaction of the account that is admitted, or
it is a signed read of the account that is authenticated. -/
inductive ActsFor (chain : ChainId) (authority : Authority) (body : Bytes) (account : String) :
    Prop
  | transaction {kind : Kind} {operation : Body kind}
      (admitted : Admits chain authority body kind operation)
      (own : operation.account = account) : ActsFor chain authority body account
  | signedRead {request : Rpc.Request} {signed : Rpc.SignedCall}
      (parsed : Rpc.Request.parse body = .ok request) (asked : request.verb = "call")
      (read : IsSignedRead request.call)
      (authenticated : Rpc.Authenticates chain authority request.call signed)
      (own : signed.account = account) : ActsFor chain authority body account

variable {body : Bytes}

theorem alike_dispatch (gateway : Gateway) (moment : Moment) {call : Rpc.Call}
    (hread : Rpc.Router.readCall body = .ok call)
    (others : ¬ ActsFor gateway.chain gateway.authority body account) :
    Run.Alike (Store.AlikeBut account) ((gateway.router moment).dispatch call) := by
  by_cases broadcast : IsBroadcast call
  · rw [dispatch_of_broadcast broadcast]
    refine Broadcast.alike_route fun kind operation passes => ?_
    refine alike_table gateway moment fun own => others ?_
    exact .transaction ((admits_iff moment hread).mpr ⟨broadcast, passes⟩) own
  · rcases dispatch_of_other broadcast with
      ⟨route, hpublic, h⟩ | ⟨route, hsigned, api, method, h⟩ | h
    · rw [h]
      exact alike_publicReads route hpublic call
    · rw [h]
      refine alike_signedReads (fun signed authenticated own => others ?_) route hsigned
      obtain ⟨request, parsed, asked, rfl⟩ := readCall_eq_ok_iff.mp hread
      exact .signedRead parsed asked (isSignedRead_of_mem hsigned api method) authenticated own
    · rw [h]
      exact Run.alike_fail _

/-- A request that does not act for the account is answered alike. -/
theorem alike_handle (gateway : Gateway) (moment : Moment) {s t : Store}
    (alike : Store.AlikeBut account s t)
    (others : ¬ ActsFor gateway.chain gateway.authority body account) :
    (gateway.handle moment body s).response = (gateway.handle moment body t).response ∧
      Store.AlikeBut account (gateway.handle moment body s).state
        (gateway.handle moment body t).state := by
  unfold handle Rpc.Router.handle
  cases hread : Rpc.Router.readCall body with
  | error answer => exact ⟨rfl, alike⟩
  | ok call =>
      obtain ⟨result, state⟩ := alike_dispatch gateway moment hread others s t alike
      exact ⟨congrArg (Rpc.Response.ofAnswer call.id) result, state⟩

/-! ### Sequences of requests -/

/--
**What is private to an account shows in no answer to others.**

Two stores that differ in nothing but the drafts, the settings, the devices and the
notifications of an account give the same answers to any sequence of requests none of which
acts for the account, and afterwards they still differ in nothing else.
-/
theorem run_alike (chain : ChainId) (policy : Policy) (account : String) (turns : List Turn)
    (s t : Store) (alike : Store.AlikeBut account s t)
    (others : ∀ turn ∈ turns, ¬ ActsFor chain turn.authority turn.body account) :
    (run chain policy turns s).1 = (run chain policy turns t).1 ∧
      Store.AlikeBut account (run chain policy turns s).2 (run chain policy turns t).2 := by
  induction turns generalizing s t with
  | nil => exact ⟨rfl, alike⟩
  | cons turn turns ih =>
      obtain ⟨response, next⟩ := alike_handle ⟨chain, turn.authority, policy⟩ turn.moment alike
        (others turn (List.mem_cons_self ..))
      obtain ⟨responses, final⟩ := ih _ _ next fun turn' hmem =>
        others turn' (List.mem_cons_of_mem _ hmem)
      refine ⟨?_, final⟩
      show _ :: _ = _ :: _
      rw [response, responses]

/-- Bob has drafted a post. -/
private def bobHasDrafted : Store :=
  { aliceAndBob with
    drafts := (∅ : Std.ExtTreeMap Owned Draft).insert ⟨"bob", "first"⟩
      ⟨"first", "bob", "Title", "Body", "", ⟨1⟩, ⟨1⟩⟩ }

/-- The request is made for alice. -/
private theorem not_actsFor_bob :
    ¬ ActsFor .mainnet followTurn.authority followTurn.body "bob" := by
  intro acts
  cases acts with
  | transaction admitted own =>
      obtain ⟨parsed, -, -, ⟨raw, carried, read⟩, asks, -, -, -⟩ := admitted
      obtain rfl := Except.ok.inj (parse_followTurn.symm.trans parsed)
      obtain rfl := Option.some.inj carried
      obtain rfl := Except.ok.inj (read_followText.symm.trans read)
      have same := congrArg (List.map Operation.account?) asks.only
      simp only [List.map_cons, Operation.account?, own] at same
      exact absurd same (by decide)
  | signedRead parsed _ read =>
      obtain rfl := Except.ok.inj (parse_followTurn.symm.trans parsed)
      exact absurd read (by unfold IsSignedRead; decide)

/-- The stores differ in a draft of bob. -/
private theorem alike_bob : Store.AlikeBut "bob" bobHasDrafted aliceAndBob where
  profiles := rfl
  follows := rfl
  media := rfl
  blacklist := rfl
  categories := rfl
  downvotes := rfl
  settings _ _ := rfl
  pushTokens _ _ := Iff.rfl
  notifications := rfl
  drafts := by
    intro key
    by_cases first : compare (⟨"bob", "first"⟩ : Owned) key = .eq
    · obtain rfl := Std.LawfulEqOrd.eq_of_compare first
      right
      simp [bobHasDrafted, aliceAndBob]
    · left
      exact Std.ExtTreeMap.getElem?_insert.trans (if_neg first)

/-- Alice's follow reaches both stores, and its answer does not tell what bob has drafted. -/
theorem follow_alike :
    Store.AlikeBut "bob" bobHasDrafted aliceAndBob ∧
    bobHasDrafted.draftsOf "bob" ≠ aliceAndBob.draftsOf "bob" ∧
    (∀ turn ∈ [followTurn], ¬ ActsFor .mainnet turn.authority turn.body "bob") ∧
    (run .mainnet .default [followTurn] aliceAndBob).2.notifications.length = 1 ∧
    (run .mainnet .default [followTurn] bobHasDrafted).1
      = (run .mainnet .default [followTurn] aliceAndBob).1 ∧
    Store.AlikeBut "bob" (run .mainnet .default [followTurn] bobHasDrafted).2
      (run .mainnet .default [followTurn] aliceAndBob).2 := by
  have others : ∀ turn ∈ [followTurn], ¬ ActsFor .mainnet turn.authority turn.body "bob" := by
    intro turn hmem
    rw [List.mem_singleton.mp hmem]
    exact not_actsFor_bob
  exact ⟨alike_bob, by decide +kernel, others, by decide +kernel,
    run_alike .mainnet .default "bob" [followTurn] bobHasDrafted aliceAndBob alike_bob others⟩

end Gateway

end BlogGateway
