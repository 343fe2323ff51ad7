/-
Failures that no client sees.

Two of the codes stand for failures that the gateway has a name for but never answers with:
that it has made a mistake itself, and that a picture it was to store cannot be decoded.  An
error with any other code is `Ordinary`.

The branches behind the two codes are there, and each is closed by a check in another place.
Those of the dispatcher are closed by what the shape of a transaction and the registered
handlers guarantee, so that dispatching comes to the stages of `Broadcast.Ends`, none of which
ends in such a way.  That of the store is closed by a rule for the fields: what the rule
accepts is decoded by the same function later.  Reads never had such a branch.

What fails ordinarily is closed under sequencing, so a handler is followed step by step, and
every request of a sequence is answered by one handler or by none.
-/
import BlogGateway.Proofs.Gateway.Admission
import BlogGateway.Proofs.Operation.Ids

namespace BlogGateway

open Blog Operation

/-! ### Ordinary errors -/

/-- The error is neither a mistake of the gateway nor a picture that cannot be decoded. -/
def Rpc.Error.Ordinary (error : Rpc.Error) : Prop := error.code ≠ 1 ∧ error.code ≠ 8

@[simp] theorem Rpc.Error.ordinary_of (code : Rpc.ErrorCode) (message : String) :
    (Rpc.Error.of code message).Ordinary ↔ code ≠ .internalError ∧ code ≠ .invalidMedia := by
  cases code <;> simp [Ordinary, Rpc.Error.of, Rpc.ErrorCode.number]

@[simp] theorem Rpc.Error.ordinary_invalidParameter (message : String) :
    (Rpc.Error.invalidParameter message).Ordinary := by
  simp [invalidParameter]

/-- If there is an error it is an ordinary one. -/
def FailsOrdinarily {α : Type} : Except Rpc.Error α → Prop
  | .ok _ => True
  | .error error => error.Ordinary

section Results

variable {α β : Type}

@[simp] theorem failsOrdinarily_ok (value : α) :
    FailsOrdinarily (.ok value : Except Rpc.Error α) := trivial

@[simp] theorem failsOrdinarily_pure (value : α) :
    FailsOrdinarily (pure value : Except Rpc.Error α) := trivial

@[simp] theorem failsOrdinarily_error (error : Rpc.Error) :
    FailsOrdinarily (.error error : Except Rpc.Error α) ↔ error.Ordinary := Iff.rfl

theorem FailsOrdinarily.bind {first : Except Rpc.Error α} {next : α → Except Rpc.Error β}
    (hfirst : FailsOrdinarily first) (hnext : ∀ value, FailsOrdinarily (next value)) :
    FailsOrdinarily (first >>= next) := by
  cases first with
  | error error => exact hfirst
  | ok value => exact hnext value

theorem failsOrdinarily_arg (call : Rpc.Call) (index : Nat) (read : Json.Reader α) :
    FailsOrdinarily (call.arg index read) := by
  cases h : call.arg index read with
  | ok value => trivial
  | error error =>
      have hcode := Rpc.Call.code_of_arg_eq_error h
      constructor <;> omega

end Results

/-! ### Operations on the store -/

namespace Blog.Store

theorem failsOrdinarily_checkPicture (store : Store) (account url : String) :
    FailsOrdinarily (store.checkPicture account url) := by
  unfold checkPicture
  split
  · trivial
  · split
    · simp
    · split <;> simp

/-- A picture that keeps the rules of its fields is decoded. -/
theorem decoded_of_rules {op : UploadMedia} (valid : rules .uploadMedia op = .ok ()) :
    ∃ bytes, Base64.decode? (Bytes.ofText op.media) = some bytes := by
  obtain ⟨_, -, valid⟩ := Except.bind_eq_ok_iff.mp valid
  obtain ⟨_, -, valid⟩ := Except.bind_eq_ok_iff.mp valid
  obtain ⟨_, -, valid⟩ := Except.bind_eq_ok_iff.mp valid
  obtain ⟨_, media, -⟩ := Except.bind_eq_ok_iff.mp valid
  exact Option.isSome_iff_exists.mp (demand_eq_ok_iff.mp media)

/-- What is for the administrator fails ordinarily for everybody else. -/
theorem failsOrdinarily_admin {policy : Policy} {account : String}
    {change : Except Rpc.Error Store} (h : FailsOrdinarily change) :
    FailsOrdinarily (if account ≠ policy.adminAccount then .error notAdmin else change) := by
  split
  · simp [notAdmin, Rpc.Error.accessDenied]
  · exact h

/-- An operation that keeps the rules of its fields fails ordinarily. -/
theorem failsOrdinarily_apply (policy : Policy) (moment : Moment) {kind : Kind}
    {body : Body kind} (valid : rules kind body = .ok ()) (store : Store) :
    FailsOrdinarily (apply policy moment kind body store) := by
  cases kind with
  | register | unfollow | markNotificationRead | markAllNotificationsRead
  | markAllNotificationsSeen | updateProfileSettings | registerPushToken => trivial
  | updateProfile =>
      simp only [apply, updateProfile]
      split
      · simp [notFound]
      · refine .bind (failsOrdinarily_checkPicture _ _ _) fun _ => ?_
        exact .bind (failsOrdinarily_checkPicture _ _ _) fun _ => trivial
  | follow =>
      simp only [apply, follow]
      split_ifs <;> simp [notFound]
  | uploadMedia =>
      obtain ⟨bytes, decoded⟩ := decoded_of_rules valid
      simp only [apply, uploadMedia, decoded]
      split
      · simp
      · split
        · simp
        · split <;> simp
  | addToBlacklistAdmin =>
      refine failsOrdinarily_admin ?_
      split_ifs <;> simp
  | removeFromBlacklistAdmin =>
      refine failsOrdinarily_admin ?_
      split_ifs <;> simp
  | addCategoryAdmin =>
      refine failsOrdinarily_admin ?_
      split
      · simp [noDomain]
      · split_ifs <;> simp
  | removeCategoryAdmin =>
      refine failsOrdinarily_admin ?_
      split
      · simp [noDomain]
      · split_ifs <;> simp [noCategory]
  | updateCategoryAdmin =>
      refine failsOrdinarily_admin ?_
      split
      · simp [noDomain]
      · split <;> simp [noCategory]
  | setAccountTrustedAdmin =>
      refine failsOrdinarily_admin ?_
      split <;> simp [notFound]
  | upsertDraft =>
      simp only [apply, upsertDraft]
      split_ifs <;> simp
  | removeDraft =>
      simp only [apply, removeDraft]
      split_ifs <;> simp [noDraft]
  | downvote =>
      simp only [apply, castDownvote]
      split <;> simp
  | removeDownvote =>
      simp only [apply, removeDownvote]
      split_ifs <;> simp

end Blog.Store

/-! ### Transactions -/

/-- The run ends with a value or with an ordinary error, whatever state it starts from. -/
def Run.Ordinary {σ α : Type} (run : Run σ α) : Prop :=
  ∀ state, FailsOrdinarily (run state).result

/-- A route ends ordinarily when its handlers do for the operations that keep the rules. -/
theorem Broadcast.ordinary_route {σ : Type} {router : Router σ}
    (handlers : ∀ kind body, rules kind body = .ok () →
      Run.Ordinary (router.table.handler kind body)) (call : Rpc.Call) :
    Run.Ordinary (router.route call) := by
  intro state
  have ends := ends_route router call state
  generalize router.route call state = outcome at ends
  cases ends with
  | acknowledged => trivial
  | noArgument | misshapen | unknown | unresolved | unsigned | invalid =>
      exact Rpc.Error.ordinary_invalidParameter _
  | malformed => exact (Rpc.Error.ordinary_of .invalidRequest _).mpr (by decide)
  | failed carried asks resolved signed valid handled =>
      have := handlers _ _ valid state
      rwa [handled] at this

namespace Gateway

theorem ordinary_table (gateway : Gateway) (moment : Moment) {kind : Kind} {body : Body kind}
    (valid : rules kind body = .ok ()) :
    Run.Ordinary ((gateway.table moment).handler kind body) := by
  intro store
  show FailsOrdinarily (InPlace.apply gateway.policy moment kind body store).result
  have ends := Store.failsOrdinarily_apply gateway.policy moment valid store
  rw [InPlace.apply_eq_update]
  unfold Run.update
  cases applied : Store.apply gateway.policy moment kind body store with
  | ok after => trivial
  | error error =>
      rw [applied] at ends
      exact ends

end Gateway

/-! ### Reads -/

section Reads

variable (store : Store)

theorem failsOrdinarily_page {α : Type} (items : List α) (start limit : UInt32) :
    FailsOrdinarily (page items start limit) := by
  unfold page
  split <;> simp

theorem Blog.Store.failsOrdinarily_profile (account : String) :
    FailsOrdinarily (store.profile account) := by
  unfold profile
  split <;> simp [notFound]

theorem Blog.Store.failsOrdinarily_profileSettings (account : String) :
    FailsOrdinarily (store.profileSettings account) := by
  unfold profileSettings
  split <;> simp [notFound]

theorem Blog.Store.failsOrdinarily_mediaOf (account id : String) :
    FailsOrdinarily (store.mediaOf account id) := by
  unfold mediaOf
  split <;> simp

theorem Blog.Store.failsOrdinarily_categoriesOf (domain : String) :
    FailsOrdinarily (store.categoriesOf domain) := by
  unfold categoriesOf
  split <;> simp [noDomain]

theorem Blog.Store.failsOrdinarily_categoryOf (domain label : String) :
    FailsOrdinarily (store.categoryOf domain label) := by
  unfold categoryOf
  split
  · simp [noDomain]
  · split <;> simp [noCategory]

theorem Blog.Store.failsOrdinarily_draft (account id : String) :
    FailsOrdinarily (store.draft account id) := by
  unfold draft
  split
  · simp
  · split <;> simp [noDraft]

theorem failsOrdinarily_param {α : Type} (call : Rpc.SignedCall) (index : Nat)
    (read : Json.Reader α) : FailsOrdinarily (call.param index read) := by
  unfold Rpc.SignedCall.param
  split
  · simp
  · rename_i raw _
    cases raw.read read <;> simp

end Reads

namespace Gateway

theorem ordinary_read {read : Store → Except Rpc.Error Json.Value}
    (h : ∀ store, FailsOrdinarily (read store)) : Run.Ordinary (do
      let store ← Run.get
      let value ← Run.ofExcept (read store)
      pure (some value)) := by
  intro store
  rw [look_apply]
  have ends := h store
  cases hread : read store with
  | ok value => trivial
  | error error =>
      rw [hread] at ends
      exact ends

/-- A public read fails ordinarily: its arguments are read one after the other, and then it is
looked up what they name. -/
theorem ordinary_publicReads : ∀ route ∈ publicReads, ∀ call,
    Run.Ordinary (route.handler call) := by
  unfold publicReads
  simp only [List.forall_mem_cons, List.not_mem_nil, false_imp_iff, implies_true, and_true]
  refine ⟨?_, ?_, ?_, ?_, ?_, ?_, ?_, ?_, ?_, ?_, ?_, ?_, ?_, ?_⟩
  all_goals
    intro call
    refine ordinary_read fun store => .bind (failsOrdinarily_arg ..) fun _ => ?_
  · exact .bind (store.failsOrdinarily_profile _) fun _ => trivial
  · trivial
  · trivial
  · refine .bind (failsOrdinarily_arg ..) fun _ => ?_
    exact .bind (failsOrdinarily_page ..) fun _ => trivial
  · refine .bind (failsOrdinarily_arg ..) fun _ => ?_
    exact .bind (store.failsOrdinarily_mediaOf ..) fun _ => trivial
  · refine .bind (failsOrdinarily_arg ..) fun _ => .bind (failsOrdinarily_arg ..) fun _ => ?_
    exact .bind (failsOrdinarily_page ..) fun _ => trivial
  · refine .bind (failsOrdinarily_arg ..) fun _ => .bind (failsOrdinarily_arg ..) fun _ => ?_
    exact .bind (failsOrdinarily_page ..) fun _ => trivial
  · exact .bind (failsOrdinarily_arg ..) fun _ => trivial
  · exact .bind (failsOrdinarily_arg ..) fun _ => trivial
  · exact .bind (store.failsOrdinarily_categoriesOf _) fun _ => trivial
  · refine .bind (failsOrdinarily_arg ..) fun _ => ?_
    exact .bind (store.failsOrdinarily_categoryOf ..) fun _ => trivial
  · exact .bind (failsOrdinarily_arg ..) fun _ => trivial
  · refine .bind (failsOrdinarily_arg ..) fun _ => ?_
    exact .bind (failsOrdinarily_page ..) fun _ => trivial
  · exact .bind (failsOrdinarily_arg ..) fun _ => trivial

/-- Who cannot be told who asks is answered ordinarily, and so is who reads. -/
theorem ordinary_signedReading (chain : ChainId) (authority : Authority)
    {read : Rpc.SignedCall → Store → Except Rpc.Error Json.Value}
    (h : ∀ call store, FailsOrdinarily (read call store)) (call : Rpc.Call) :
    Run.Ordinary (signedReading chain authority read call) := by
  intro store
  unfold signedReading
  cases claimed : Rpc.Claim.ofCall call with
  | error error =>
      rw [Rpc.signed_of_no_claim claimed]
      have hcode := Rpc.Claim.code_of_ofCall_eq_error claimed
      constructor <;> omega
  | ok claim =>
  cases resolved : authority.resolve claim.account with
  | error cause =>
      rw [Rpc.signed_of_unresolved claimed resolved]
      exact Rpc.Error.ordinary_invalidParameter _
  | ok keys =>
  by_cases own : claim.SignedBy chain keys
  · rw [Rpc.signed_of_signed claimed resolved own]
    exact ordinary_read (h _) store
  · rw [Rpc.signed_of_forged claimed resolved own]
    exact Rpc.Error.ordinary_invalidParameter _

theorem ordinary_signedReads (chain : ChainId) (authority : Authority) (policy : Policy) :
    ∀ route ∈ signedReads chain authority policy, ∀ call, Run.Ordinary (route.handler call) := by
  unfold signedReads
  simp only [List.forall_mem_cons, List.not_mem_nil, false_imp_iff, implies_true, and_true]
  refine ⟨?_, ?_, ?_, ?_⟩
  all_goals refine ordinary_signedReading chain authority fun call store => ?_
  · exact .bind (store.failsOrdinarily_profileSettings _) fun _ => trivial
  · refine .bind (failsOrdinarily_param ..) fun _ => ?_
    exact .bind (store.failsOrdinarily_draft ..) fun _ => trivial
  · trivial
  · trivial

/-! ### Requests -/

theorem ordinary_dispatch (gateway : Gateway) (moment : Moment) (call : Rpc.Call) :
    Run.Ordinary ((gateway.router moment).dispatch call) := by
  by_cases broadcast : IsBroadcast call
  · rw [dispatch_of_broadcast broadcast]
    exact Broadcast.ordinary_route (fun _ _ valid => ordinary_table gateway moment valid) call
  · rcases dispatch_of_other broadcast with ⟨route, hpublic, h⟩ | ⟨route, hsigned, -, -, h⟩ | h
    · rw [h]
      exact ordinary_publicReads route hpublic call
    · rw [h]
      exact ordinary_signedReads _ _ _ route hsigned call
    · rw [h]
      exact fun _ => (Rpc.Error.ordinary_of .routeNotRegistered _).mpr (by decide)

theorem ordinary_handle (gateway : Gateway) (moment : Moment) (body : Bytes) (store : Store)
    {error : Rpc.Error} (h : (gateway.handle moment body store).response.error = some error) :
    error.Ordinary := by
  unfold handle Rpc.Router.handle at h
  cases hread : Rpc.Router.readCall body with
  | error answer =>
      obtain ⟨id, refusal⟩ := answer
      rw [hread] at h
      obtain rfl := Option.some.inj h
      unfold Rpc.Router.readCall at hread
      split at hread
      · obtain ⟨-, rfl⟩ := Prod.mk.inj (Except.error.inj hread)
        exact (Rpc.Error.ordinary_of .invalidRequest _).mpr (by decide)
      · split at hread
        · cases hread
        · obtain ⟨-, rfl⟩ := Prod.mk.inj (Except.error.inj hread)
          exact (Rpc.Error.ordinary_of .invalidRequest _).mpr (by decide)
  | ok call =>
      rw [hread] at h
      have ends := ordinary_dispatch gateway moment call store
      dsimp only at h
      cases hresult : ((gateway.router moment).dispatch call store).result with
      | ok answer =>
          rw [hresult] at h
          cases h
      | error refusal =>
          rw [hresult] at h ends
          obtain rfl := Option.some.inj h
          exact ends

theorem ordinary_run (chain : ChainId) (policy : Policy) (turns : List Turn) (store : Store) :
    ∀ response ∈ (run chain policy turns store).1, ∀ error, response.error = some error →
      error.Ordinary := by
  induction turns generalizing store with
  | nil =>
      intro response hmem
      simp [run] at hmem
  | cons turn turns ih =>
      intro response hmem error herror
      rcases List.mem_cons.mp hmem with rfl | hmem
      · exact ordinary_handle _ _ _ _ herror
      · exact ih _ response hmem error herror

/--
**No request is answered with a mistake of the gateway, or with a picture that it could not
decode.**

Whatever requests arrive, and whatever is known about keys when they do, no response carries
one of the two codes.  The branches that would are closed by checks made elsewhere: a
transaction of the right shape has one operation, and a signed form if the operation is known;
there is a handler for every kind, and it takes a body of its kind to the store; and the
picture of an upload that keeps the rules is decoded.
-/
theorem run_faultless (chain : ChainId) (policy : Policy) (turns : List Turn) (store : Store) :
    (∀ response ∈ (run chain policy turns store).1, ∀ error, response.error = some error →
      error.code ≠ 1 ∧ error.code ≠ 8) ∧
    (∀ tx : Transaction, tx.checkShape = .ok () →
      ∃ operation, tx.operation? = some operation ∧ tx.operations.head? = some operation ∧
        (operation.kind?.isSome → ∃ digest, Digest.ofTransaction chain tx = .ok digest)) ∧
    (∀ authority moment, let gateway : Gateway := ⟨chain, authority, policy⟩
      Broadcast.Dispatcher.build chain authority (gateway.registry moment)
        = .ok (gateway.dispatcher moment) ∧
      ∀ kind, ∃ handler, (gateway.registry moment).handler? kind = some handler ∧
        ∀ body, handler (.known kind body) = InPlace.apply policy moment kind body) ∧
    (∀ op : UploadMedia, rules .uploadMedia op = .ok () →
      ∃ bytes, Base64.decode? (Bytes.ofText op.media) = some bytes) := by
  refine ⟨ordinary_run chain policy turns store, ?_, ?_, fun op => Store.decoded_of_rules⟩
  · intro tx shaped
    obtain ⟨operation, asked, first⟩ := Broadcast.operation_of_checkShape shaped
    refine ⟨operation, asked, first, fun known => ?_⟩
    refine Broadcast.digest_of_checkShape shaped (fun operation' asked' => ?_) chain
    obtain rfl := Option.some.inj (asked.symm.trans asked')
    exact known
  · intro authority moment gateway
    have serves : (gateway.registry moment).Serves (gateway.table moment) := registry_serves
    refine ⟨Broadcast.Dispatcher.build_of_serves serves chain authority, fun kind => ?_⟩
    exact ⟨_, serves kind, fun body => Broadcast.onKind_known kind _ body⟩

/-- A turn whose body is no request. -/
private def emptyTurn : Turn := ⟨followTurn.authority, default, []⟩

/-- A body that is no request, a transaction that its handler carries out, the same transaction
that the handler then refuses, and an upload that keeps the rules. -/
theorem requests_faultless :
    (run .mainnet .default [emptyTurn, followTurn, followTurn] aliceAndBob).1.map
        (fun response => response.error.map Rpc.Error.code) = [some 3, none, some 7] ∧
    (∀ response ∈ (run .mainnet .default [emptyTurn, followTurn, followTurn] aliceAndBob).1,
      ∀ error, response.error = some error → error.code ≠ 1 ∧ error.code ≠ 8) ∧
    (∃ digest, Digest.ofTransaction .mainnet
      ⟨0, 0, some ⟨100⟩, [.known .uploadMedia ⟨"alice", "cat", "AAEC", "image/png"⟩], ["00"]⟩
        = .ok digest) ∧
    ∃ bytes, Base64.decode? (Bytes.ofText "AAEC") = some bytes := by
  obtain ⟨answers, shaped, -, decoded⟩ :=
    run_faultless .mainnet .default [emptyTurn, followTurn, followTurn] aliceAndBob
  refine ⟨by decide +kernel, answers, ?_, ?_⟩
  · obtain ⟨operation, asked, -, signedForm⟩ := shaped
      ⟨0, 0, some ⟨100⟩, [.known .uploadMedia ⟨"alice", "cat", "AAEC", "image/png"⟩], ["00"]⟩ rfl
    obtain rfl := Option.some.inj asked
    exact signedForm rfl
  · exact decoded ⟨"alice", "cat", "AAEC", "image/png"⟩ (by decide)

end Gateway

end BlogGateway
