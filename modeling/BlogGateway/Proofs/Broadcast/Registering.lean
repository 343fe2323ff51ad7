/-
The table of handlers.

Handlers are registered one after the other, either for operations of a kind or for the bodies of
one, and each takes the place of an earlier one of its kind.  So the handler of a kind is what the
last registration for it brought: `handler?_ofCalls` says that of every sequence of registrations,
and everything else here follows from it.

With a handler for every kind the registry matches a table, and the dispatcher takes every
transaction through the stages of `Ends` to the handler in that table.  A table that is built of
registrations at once holds the same handlers, as `build_ofRegistrations` says.
-/
import Mathlib.Data.List.Sort
import BlogGateway.Proofs.Broadcast.Dispatcher
import BlogGateway.Proofs.Rpc.Router

namespace BlogGateway.Broadcast

open Operation

variable {σ : Type}

/-- A registration: of a handler of operations, or of one of bodies. -/
inductive Registering (σ : Type)
  | register (kind : Kind) (handler : OperationHandler σ)
  | on (kind : Kind) (handler : BodyHandler σ kind)

namespace Registering

/-- The kind that is registered for. -/
def kind : Registering σ → Kind
  | .register kind _ => kind
  | .on kind _ => kind

/-- The handler that operations of the kind are given to. -/
def handler : Registering σ → OperationHandler σ
  | .register _ handler => handler
  | .on kind handler => onKind kind handler

/-- The registry after a registration. -/
def apply (registration : Registering σ) (registry : Registry σ) : Registry σ :=
  match registration with
  | .register kind handler => registry.register kind handler
  | .on kind handler => registry.on kind handler

/-- What the registration makes of the bodies of the kind: a handler of operations is given them
as operations, and a handler of bodies as they are. -/
inductive Brings : Registering σ → (kind : Kind) → BodyHandler σ kind → Prop
  | register {kind : Kind} {handler : OperationHandler σ} :
      Brings (.register kind handler) kind fun body => handler (.known kind body)
  | on {kind : Kind} {handler : BodyHandler σ kind} : Brings (.on kind handler) kind handler

end Registering

/-- The registry after registrations, one after the other. -/
def Registry.ofCalls (calls : List (Registering σ)) : Registry σ :=
  calls.foldl (fun registry registration => registration.apply registry) Registry.empty

variable {calls : List (Registering σ)} {kind : Kind} {kinds : List Kind}

/-! ### The last registration for a kind -/

theorem Registering.handler?_apply (registration : Registering σ) (registry : Registry σ) :
    (registration.apply registry).handler? kind
      = if kind = registration.kind then some registration.handler else registry.handler? kind := by
  cases registration <;> rfl

/-- Operations of a kind are given to what was registered last for it. -/
theorem handler?_ofCalls :
    (Registry.ofCalls calls).handler? kind
      = (calls.reverse.find? fun registration => decide (registration.kind = kind)).map
          Registering.handler := by
  unfold Registry.ofCalls
  rw [← List.foldr_reverse]
  induction calls.reverse with
  | nil => rfl
  | cons registration earlier ih =>
      rw [List.foldr_cons, Registering.handler?_apply, List.find?_cons]
      by_cases own : registration.kind = kind
      · rw [if_pos own.symm, decide_eq_true own]
        rfl
      · rw [if_neg (Ne.symm own), decide_eq_false own]
        exact ih

theorem handler?_ofCalls_eq_none_iff :
    (Registry.ofCalls calls).handler? kind = none ↔
      ∀ registration ∈ calls, registration.kind ≠ kind := by
  rw [handler?_ofCalls, Option.map_eq_none_iff]
  exact find?_reverse_eq_none_iff

theorem Registering.exists_brings (registration : Registering σ) :
    ∃ handler, registration.Brings registration.kind handler ∧
      ∀ body, registration.handler (.known registration.kind body) = handler body := by
  cases registration with
  | register kind handler => exact ⟨_, .register, fun body => rfl⟩
  | on kind handler => exact ⟨_, .on, onKind_known kind handler⟩

/-! ### Kinds without a handler -/

theorem mem_missing_iff :
    kind ∈ (Registry.ofCalls calls).missing ↔ ∀ registration ∈ calls, registration.kind ≠ kind := by
  unfold Registry.missing
  rw [List.mem_filter, Option.isNone_iff_eq_none, handler?_ofCalls_eq_none_iff]
  exact and_iff_right (Kind.mem_all kind)

/-- The kinds are listed in the order of their codes. -/
theorem pairwise_missing (registry : Registry σ) :
    registry.missing.Pairwise fun earlier later => earlier.code < later.code :=
  List.Pairwise.filter _ (by decide)

theorem missing_eq_nil_iff :
    (Registry.ofCalls calls).missing = [] ↔
      ∀ kind, ∃ registration ∈ calls, registration.kind = kind := by
  simp only [List.eq_nil_iff_forall_not_mem, mem_missing_iff]
  push Not
  rfl

/-- A list of kinds in the order of their codes is known by what it contains. -/
theorem eq_missing_iff :
    kinds = (Registry.ofCalls calls).missing ↔
      (∀ kind, kind ∈ kinds ↔ ∀ registration ∈ calls, registration.kind ≠ kind) ∧
        kinds.Pairwise fun earlier later => earlier.code < later.code := by
  constructor
  · rintro rfl
    exact ⟨fun kind => mem_missing_iff, pairwise_missing _⟩
  · rintro ⟨same, sorted⟩
    have distinct {kinds : List Kind}
        (sorted : kinds.Pairwise fun earlier later => earlier.code < later.code) : kinds.Nodup :=
      sorted.imp fun less => fun own => absurd (congrArg Kind.code own) (Nat.ne_of_lt less)
    have perm : kinds.Perm (Registry.ofCalls calls).missing :=
      (List.perm_ext_iff_of_nodup (distinct sorted) (distinct (pairwise_missing _))).mpr
        fun kind => (same kind).trans mem_missing_iff.symm
    refine perm.eq_of_pairwise ?_ sorted (pairwise_missing _)
    intro earlier later _ _ less more
    exact absurd less (Nat.lt_asymm more)

/-! ### Building -/

section Build

variable {chain : ChainId} {authority : Authority}

theorem build_eq_ok_iff {registry : Registry σ} {dispatcher : Dispatcher σ} :
    Dispatcher.build chain authority registry = .ok dispatcher ↔
      registry.missing = [] ∧ dispatcher = ⟨chain, authority, registry⟩ := by
  unfold Dispatcher.build
  by_cases complete : registry.missing = []
  · simp [complete, eq_comm]
  · simp [complete]

theorem build_eq_error_iff {registry : Registry σ} :
    Dispatcher.build chain authority registry = .error kinds ↔
      kinds ≠ [] ∧ kinds = registry.missing := by
  unfold Dispatcher.build
  by_cases complete : registry.missing = []
  · simp [complete]
  · simp only [complete, if_false, Except.error.injEq]
    constructor
    · rintro rfl
      exact ⟨complete, rfl⟩
    · rintro ⟨-, rfl⟩
      rfl

end Build

/-! ### The table of the last registrations -/

/-- With a handler for every kind there is a table of what they do with bodies. -/
theorem exists_matches {registry : Registry σ} (complete : registry.missing = []) :
    ∃ table : Table σ, registry.Matches table := by
  have found (kind : Kind) : ∃ handler, registry.handler? kind = some handler := by
    have present := List.filter_eq_nil_iff.mp complete kind (Kind.mem_all kind)
    rw [Option.isNone_iff_eq_none] at present
    exact Option.ne_none_iff_exists'.mp present
  choose handler registered using found
  exact ⟨⟨fun kind body => handler kind (.known kind body)⟩,
    fun kind => ⟨handler kind, registered kind, fun body => rfl⟩⟩

/-- The table holds for each kind what the last registration for it brought. -/
def Table.IsLast (table : Table σ) (calls : List (Registering σ)) : Prop :=
  ∀ kind, ∃ registration, LastWith (fun registration => registration.kind = kind) calls
    registration ∧ registration.Brings kind (table.handler kind)

/-- What is done with bodies after some registrations was brought by the last for their kind. -/
theorem Registry.Matches.isLast {table : Table σ} (same : (Registry.ofCalls calls).Matches table) :
    table.IsLast calls := by
  intro kind
  obtain ⟨taker, registered, handles⟩ := same kind
  rw [handler?_ofCalls, Option.map_eq_some_iff] at registered
  obtain ⟨registration, found, rfl⟩ := registered
  obtain ⟨before, after, split, rfl, none⟩ := find?_reverse_eq_some_iff.mp found
  obtain ⟨handler, brings, handles'⟩ := registration.exists_brings
  have own : table.handler registration.kind = handler :=
    funext fun body => (handles body).symm.trans (handles' body)
  exact ⟨registration, ⟨before, after, split, rfl, none⟩, own ▸ brings⟩

/--
**A dispatcher takes every transaction through its stages.**

A call on a dispatcher that was built ends in one of the ways of `Ends` and in no other.  The
handlers that the ways name are those of its registry, given the operations as they were read;
where the registry comes from registrations, they are what was registered last.
-/
theorem route_eq_iff_ends {registry : Registry σ} {dispatcher : Dispatcher σ} {chain : ChainId}
    {authority : Authority} (built : Dispatcher.build chain authority registry = .ok dispatcher) :
    ∃ table : Table σ,
      (∀ kind, ∃ handler, registry.handler? kind = some handler ∧
        ∀ body, handler (.known kind body) = table.handler kind body) ∧
      (∀ calls, registry = Registry.ofCalls calls → table.IsLast calls) ∧
      ∀ call state outcome, dispatcher.route call state = outcome ↔
        Ends ⟨chain, authority, table⟩ call state outcome := by
  obtain ⟨complete, rfl⟩ := build_eq_ok_iff.mp built
  obtain ⟨table, same⟩ := exists_matches complete
  refine ⟨table, same, ?_, fun call state outcome => (ends_iff_dispatched same).symm⟩
  rintro calls rfl
  exact same.isLast

/-- The signature of the transaction below. -/
def aliceSignature : String :=
  "20b5ad87da4eabc66471b64e4c51b8540917d0ce2dac473a2d374f251247c19307" ++
  "4a1df6ce58e792dc32983e0bdbdd24473ac2f684c5804e2a411105eb39d17618"

/-- A transaction that registers alice, signed for the main chain. -/
def registersAlice : Transaction :=
  ⟨24837, 1701013868, some ⟨1667391756⟩, [.known .register ⟨"alice"⟩], [aliceSignature]⟩

/-- The transaction as the argument of a call. -/
def registerCall : Rpc.Call :=
  ⟨7, "", "", [⟨"[24837, 1701013868, \"2022-11-02T12:22:36\", [[\"register\", [\"alice\"]]], [\""
    ++ aliceSignature ++ "\"]]"⟩]⟩

/-- The key that the transaction is signed with. -/
private def aliceKey : PublicKey :=
  ⟨[2, 36, 214, 175, 3, 88, 108, 140, 241, 133, 77, 188, 194, 85, 149, 18, 228, 215, 98, 174,
    207, 110, 32, 79, 201, 2, 41, 162, 86, 157, 0, 129, 40], rfl⟩

/-- Handlers that count what they are given, one for every kind. -/
private def counting : List (Registering Nat) :=
  Kind.all.map fun kind => .on kind fun _ count => ⟨.ok (), count + 1, []⟩

private def aliceAuthority : Authority :=
  ⟨fun _ => .answered (.ok ⟨[], [], [aliceKey]⟩), ⟨5000⟩, false⟩

theorem carries_registersAlice : Carries registerCall registersAlice :=
  ⟨_, rfl, Except.eq_ok_of_toOption (by decide +kernel)⟩

private theorem signedBy_aliceKey : SignedBy .mainnet registersAlice ⟨[], [], [aliceKey]⟩ := by
  refine ⟨aliceSignature,
    [159, 191, 91, 216, 117, 43, 11, 220, 193, 143, 201, 232, 110, 39, 93, 217, 12, 39, 203, 33,
      220, 243, 246, 22, 18, 16, 168, 158, 56, 34, 81, 249], aliceKey, rfl, ?_, ?_, ?_⟩
  · exact Except.eq_ok_of_toOption (by decide +kernel)
  · exact Except.eq_ok_of_toOption (by decide +kernel)
  · exact .inr (.inr (List.mem_singleton.mpr rfl))

/-- A signed transaction is given to its handler, and the call is acknowledged. -/
theorem register_acknowledged :
    ∃ dispatcher, Dispatcher.build .mainnet aliceAuthority (Registry.ofCalls counting)
        = .ok dispatcher ∧
      dispatcher.route registerCall 0
        = ⟨.ok (some (.ofMembers [("id", .string "7"), ("block_num", .ofNat 0),
            ("trx_num", .ofNat 0), ("expired", .boolean false)])), 1,
          [.lookup "alice", .handled (.known .register ⟨"alice"⟩)]⟩ := by
  have complete : (Registry.ofCalls counting).missing = [] := by decide
  have built : Dispatcher.build .mainnet aliceAuthority (Registry.ofCalls counting)
      = .ok ⟨.mainnet, aliceAuthority, Registry.ofCalls counting⟩ :=
    build_eq_ok_iff.mpr ⟨complete, rfl⟩
  obtain ⟨table, handlers, -, ends⟩ := route_eq_iff_ends built
  refine ⟨_, built, (ends registerCall 0 _).mpr ?_⟩
  obtain ⟨handler, registered, handles⟩ := handlers .register
  have own : handler = onKind .register fun _ count => ⟨.ok (), count + 1, []⟩ :=
    Option.some.inj (registered.symm.trans rfl)
  have handled : table.handler .register ⟨"alice"⟩ 0 = ⟨.ok (), 1, []⟩ := calc
    table.handler .register ⟨"alice"⟩ 0 = handler (.known .register ⟨"alice"⟩) 0 :=
      (congrFun (handles ⟨"alice"⟩) 0).symm
    _ = ⟨.ok (), 1, []⟩ := by
      rw [own]
      rfl
  exact .acknowledged carries_registersAlice ⟨rfl, rfl, by decide, by decide⟩ rfl
    signedBy_aliceKey rfl handled

/-- **A table that is made has the handlers that were registered last.**

Handlers of operations: the dispatcher is built just when every kind was registered for, and
otherwise the kinds without a handler are reported, each of them once and in the order of their
codes.  A dispatcher that was built takes a transaction through the stages, and an operation that
passes them to what was registered last for its kind.

Handlers of calls: every body is answered as `Answers` says, which names the one handler that is
run, if any is; and no answer has both a result and an error. -/
theorem tables_hold_the_last (σ : Type) :
    (∀ (calls : List (Registering σ)) (chain : ChainId) (authority : Authority),
      ((∃ dispatcher, Dispatcher.build chain authority (Registry.ofCalls calls) = .ok dispatcher) ↔
        ∀ kind, ∃ registration ∈ calls, registration.kind = kind) ∧
      (∀ kinds, Dispatcher.build chain authority (Registry.ofCalls calls) = .error kinds ↔
        kinds ≠ [] ∧
          (∀ kind, kind ∈ kinds ↔ ∀ registration ∈ calls, registration.kind ≠ kind) ∧
            kinds.Pairwise fun earlier later => earlier.code < later.code) ∧
      ∀ dispatcher, Dispatcher.build chain authority (Registry.ofCalls calls) = .ok dispatcher →
        ∃ table : Table σ, table.IsLast calls ∧
          ∀ call state outcome, dispatcher.route call state = outcome ↔
            Ends ⟨chain, authority, table⟩ call state outcome) ∧
    ∀ (routes : List (Rpc.Route σ)) (body : Bytes) (state : σ),
      (∀ handled, (Rpc.Router.mk routes).handle body state = handled ↔
        Rpc.Answers routes body state handled) ∧
      (((Rpc.Router.mk routes).handle body state).response.result = none ∨
        ((Rpc.Router.mk routes).handle body state).response.error = none) := by
  refine ⟨fun calls chain authority => ⟨?_, fun kinds => ?_, fun dispatcher built => ?_⟩,
    fun routes body state => ⟨fun handled => Rpc.handle_eq_iff_answers,
      (Rpc.answers_handle routes body state).exclusive⟩⟩
  · simp only [build_eq_ok_iff, exists_and_left, exists_eq, and_true]
    exact missing_eq_nil_iff
  · rw [build_eq_error_iff, eq_missing_iff]
  · obtain ⟨complete, rfl⟩ := build_eq_ok_iff.mp built
    obtain ⟨table, same⟩ := exists_matches complete
    exact ⟨table, same.isLast, fun call state outcome => (ends_iff_dispatched same).symm⟩

/-! ### Tables that are built -/

/-- The registration of a handler of bodies, as a registry takes it. -/
def Registration.registering (registration : Registration σ) : Registering σ :=
  .on registration.kind registration.handler

/-- The registry of handlers of bodies. -/
def Registry.ofRegistrations (registrations : List (Registration σ)) : Registry σ :=
  Registry.ofCalls (registrations.map Registration.registering)

section Tables

variable {registrations : List (Registration σ)} {table : Table σ}

/-- Registry and table look for the last registration from either end. -/
theorem handler?_ofRegistrations :
    (Registry.ofRegistrations registrations).handler? kind
      = (lastFor? kind registrations).map (onKind kind) := by
  unfold Registry.ofRegistrations
  rw [handler?_ofCalls]
  induction registrations with
  | nil => rfl
  | cons first rest ih =>
      obtain ⟨kind', handler⟩ := first
      rw [List.map_cons, List.reverse_cons, List.find?_append, lastFor?]
      cases last : lastFor? kind rest with
      | some found =>
          rw [last, Option.map_some, Option.map_eq_some_iff] at ih
          obtain ⟨registration, later, own⟩ := ih
          rw [later, Option.some_or, Option.map_some, own]
          rfl
      | none =>
          rw [last, Option.map_none, Option.map_eq_none_iff] at ih
          rw [ih, Option.none_or, List.find?_singleton]
          by_cases own : kind' = kind
          · subst own
            simp [Registration.registering, Registering.kind, Registering.handler]
          · simp [Registration.registering, Registering.kind, own]

theorem missing_ofRegistrations :
    (Registry.ofRegistrations registrations).missing = missing registrations := by
  unfold Registry.missing missing
  simp only [handler?_ofRegistrations, Option.isNone_map]

theorem serves_of_build (built : Table.build registrations = .ok table) :
    (Registry.ofRegistrations registrations).Serves table := by
  unfold Table.build at built
  split at built
  · rename_i complete
    obtain rfl := Except.ok.inj built
    intro kind
    obtain ⟨handler, found⟩ := Option.isSome_iff_exists.mp (isSome_lastFor? complete kind)
    rw [handler?_ofRegistrations, found, Option.map_some]
    simp only [found, Option.get_some]
  · cases built

/-- **A table is built of registrations just when a dispatcher is, and they do the same.** -/
theorem build_ofRegistrations (chain : ChainId) (authority : Authority) :
    (∀ kinds, Table.build registrations = .error kinds ↔
      Dispatcher.build chain authority (Registry.ofRegistrations registrations)
        = .error kinds) ∧
    ∀ table, Table.build registrations = .ok table →
      ∃ dispatcher, Dispatcher.build chain authority (Registry.ofRegistrations registrations)
          = .ok dispatcher ∧
        ∀ call, dispatcher.route call = Router.route ⟨chain, authority, table⟩ call := by
  constructor
  · intro kinds
    rw [build_eq_error_iff, missing_ofRegistrations]
    unfold Table.build
    split
    · rename_i complete
      simp [complete]
    · rename_i incomplete
      rw [Except.error.injEq]
      constructor
      · rintro rfl
        exact ⟨incomplete, rfl⟩
      · rintro ⟨-, rfl⟩
        rfl
  · intro table built
    have serves := serves_of_build built
    exact ⟨_, Dispatcher.build_of_serves serves chain authority,
      fun call => route_eq_route serves.matches call⟩

end Tables

end BlogGateway.Broadcast
