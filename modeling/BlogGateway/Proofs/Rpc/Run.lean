/-
How a run goes on.

Handlers are written as sequences of runs, and a proof about a handler follows them one
after the other.  The lemmas here say what a sequence does behind each kind of first step: a
step that fails ends the sequence with the state and the events so far, and every other
hands its value on.  No proof about a handler opens `Run.bind` itself.

A run that leaves the state alone, whatever state that is, is `Silent`.  Sequences of silent
runs are silent, so a handler that only reads is silent because its steps are.

A run that cannot tell related states apart is `Alike` for them: it ends with the same result,
and the states are still related.  This is kept by sequences as well, and there it is enough
to look at what follows a value that the first step can give.
-/
import BlogGateway.Rpc.Run

namespace BlogGateway

/-- The events of a lookup: a gateway that has been told to stop asks for nothing. -/
def Authority.lookups (authority : Authority) (account : String) : List Event :=
  if authority.stopping then [] else [.lookup account]

/-- The outcome with these events before its own. -/
def Outcome.behind {σ α : Type} (events : List Event) (outcome : Outcome σ α) : Outcome σ α :=
  { outcome with events := events ++ outcome.events }

namespace Run

variable {σ α β : Type}

/-! ### What a sequence does behind its first step -/

@[simp] theorem fail_apply (error : Rpc.Error) (state : σ) :
    (Run.fail error : Run σ α) state = ⟨.error error, state, []⟩ := rfl

@[simp] theorem pure_apply (value : α) (state : σ) :
    (pure value : Run σ α) state = ⟨.ok value, state, []⟩ := rfl

@[simp] theorem fail_bind (error : Rpc.Error) (next : α → Run σ β) :
    (Run.fail error >>= next) = Run.fail error := rfl

@[simp] theorem ofExcept_ok_bind (value : α) (next : α → Run σ β) :
    (Run.ofExcept (.ok value) >>= next) = next value := rfl

@[simp] theorem ofExcept_error_bind (error : Rpc.Error) (next : α → Run σ β) :
    (Run.ofExcept (.error error) >>= next) = Run.fail error := rfl

@[simp] theorem get_bind (next : σ → Run σ β) (state : σ) :
    (Run.get >>= next) state = next state state := rfl

@[simp] theorem require_some_bind (value : α) (error : Rpc.Error) (next : α → Run σ β) :
    (Run.require (some value) error >>= next) = next value := rfl

@[simp] theorem require_none_bind (error : Rpc.Error) (next : α → Run σ β) :
    (Run.require none error >>= next) = Run.fail error := rfl

theorem ensure_of_pos {condition : Prop} [Decidable condition] (holds : condition)
    (error : Rpc.Error) : (Run.ensure condition error : Run σ Unit) = pure () := by
  funext state
  show (⟨if condition then _ else _, _, _⟩ : Outcome σ Unit) = _
  rw [if_pos holds]
  rfl

theorem ensure_of_neg {condition : Prop} [Decidable condition] (fails : ¬ condition)
    (error : Rpc.Error) : (Run.ensure condition error : Run σ Unit) = Run.fail error := by
  funext state
  show (⟨if condition then _ else _, _, _⟩ : Outcome σ Unit) = _
  rw [if_neg fails]
  rfl

@[simp] theorem emit_bind (event : Event) (next : Unit → Run σ β) (state : σ) :
    (Run.emit event >>= next) state = (next () state).behind [event] := rfl

theorem keysOf_bind_ok {authority : Authority} {account : String} {keys : KeySet}
    (resolved : authority.resolve account = .ok keys) (next : KeySet → Run σ β) (state : σ) :
    (Run.keysOf authority account >>= next) state
      = (next keys state).behind (authority.lookups account) := by
  show Run.bind (Run.keysOf authority account) next state = _
  simp only [Run.bind, Run.keysOf, resolved]
  rfl

theorem keysOf_bind_error {authority : Authority} {account : String} {cause : AuthorityError}
    (refused : authority.resolve account = .error cause) (next : KeySet → Run σ β) (state : σ) :
    (Run.keysOf authority account >>= next) state
      = ⟨.error (.invalidParameter cause.message), state, authority.lookups account⟩ := by
  show Run.bind (Run.keysOf authority account) next state = _
  simp only [Run.bind, Run.keysOf, refused]
  rfl

/-- A sequence behind a first step that ends with a value. -/
theorem bind_of_ok {first : Run σ α} {state : σ} {value : α}
    (ended : (first state).result = .ok value) (next : α → Run σ β) :
    (first >>= next) state
      = (next value (first state).state).behind (first state).events := by
  show Run.bind first next state = _
  simp only [Run.bind, ended]
  rfl

/-- A sequence behind a first step that fails. -/
theorem bind_of_error {first : Run σ α} {state : σ} {error : Rpc.Error}
    (ended : (first state).result = .error error) (next : α → Run σ β) :
    (first >>= next) state = ⟨.error error, (first state).state, (first state).events⟩ := by
  show Run.bind first next state = _
  simp only [Run.bind, ended]

/-- A change as a whole that fails has left the state. -/
theorem state_update_of_error {change : σ → Except Rpc.Error σ} {state : σ} {error : Rpc.Error}
    (failed : (Run.update change state).result = .error error) :
    (Run.update change state).state = state := by
  unfold Run.update at failed ⊢
  cases hchange : change state with
  | error error' => rfl
  | ok after =>
      rw [hchange] at failed
      cases failed

@[simp] theorem pure_bind (value : α) (next : α → Run σ β) : (pure value >>= next) = next value :=
  rfl

theorem bind_assoc {γ : Type} (first : Run σ α) (next : α → Run σ β) (last : β → Run σ γ) :
    (first >>= next) >>= last = first >>= fun value => next value >>= last := by
  funext state
  show Run.bind (Run.bind first next) last state
    = Run.bind first (fun value => Run.bind (next value) last) state
  cases ended : (first state).result with
  | error error => simp only [Run.bind, ended]
  | ok value =>
      cases ended' : (next value (first state).state).result with
      | error error => simp only [Run.bind, ended, ended']
      | ok value' => simp only [Run.bind, ended, ended', List.append_assoc]

/-! ### Runs that leave the state alone -/

/-- The run ends in the state it started from. -/
def Silent (run : Run σ α) : Prop := ∀ state, (run state).state = state

theorem silent_pure (value : α) : Silent (pure value : Run σ α) := fun _ => rfl

theorem silent_fail (error : Rpc.Error) : Silent (Run.fail error : Run σ α) := fun _ => rfl

theorem silent_ofExcept (result : Except Rpc.Error α) :
    Silent (Run.ofExcept result : Run σ α) := fun _ => rfl

theorem silent_keysOf (authority : Authority) (account : String) :
    Silent (Run.keysOf authority account : Run σ KeySet) := fun _ => rfl

theorem Silent.bind {first : Run σ α} {next : α → Run σ β} (hfirst : Silent first)
    (hnext : ∀ value, Silent (next value)) : Silent (first >>= next) := by
  intro state
  cases ended : (first state).result with
  | error error =>
      rw [bind_of_error ended]
      exact hfirst state
  | ok value =>
      rw [bind_of_ok ended]
      show (next value (first state).state).state = state
      rw [hnext value, hfirst state]

/-! ### Runs from two states -/

/-- Started from related states, the run ends with the same result and in related states. -/
def Alike (related : σ → σ → Prop) (run : Run σ α) : Prop :=
  ∀ s t, related s t → (run s).result = (run t).result ∧ related (run s).state (run t).state

variable {related : σ → σ → Prop}

theorem alike_pure (value : α) : Alike related (pure value : Run σ α) :=
  fun _ _ h => ⟨rfl, h⟩

theorem alike_fail (error : Rpc.Error) : Alike related (Run.fail error : Run σ α) :=
  fun _ _ h => ⟨rfl, h⟩

theorem alike_ofExcept (result : Except Rpc.Error α) :
    Alike related (Run.ofExcept result : Run σ α) := fun _ _ h => ⟨rfl, h⟩

theorem alike_emit (event : Event) : Alike related (Run.emit event : Run σ Unit) :=
  fun _ _ h => ⟨rfl, h⟩

theorem alike_keysOf (authority : Authority) (account : String) :
    Alike related (Run.keysOf authority account : Run σ KeySet) := fun _ _ h => ⟨rfl, h⟩

theorem Alike.bind {first : Run σ α} {next : α → Run σ β} (hfirst : Alike related first)
    (hnext : ∀ value, (∃ state, (first state).result = .ok value) → Alike related (next value)) :
    Alike related (first >>= next) := by
  intro s t h
  obtain ⟨result, state⟩ := hfirst s t h
  cases ended : (first s).result with
  | error error =>
      rw [bind_of_error ended, bind_of_error (result.symm.trans ended)]
      exact ⟨rfl, state⟩
  | ok value =>
      rw [bind_of_ok ended, bind_of_ok (result.symm.trans ended)]
      exact hnext value ⟨s, ended⟩ _ _ state

end Run

end BlogGateway
