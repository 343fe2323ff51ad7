/-
What the handling of a call does.

A handler works on a state, may ask for the keys of accounts, and ends with a value or with
an error.  A run keeps all three apart: the result, the state afterwards, and the events on
the way, so that it can be said not only what is answered but also what was asked and done.
-/
import BlogGateway.Authority.Lookup
import BlogGateway.Operation.Basic
import BlogGateway.Rpc.Response

namespace BlogGateway

/-- Something that happens while a call is handled. -/
inductive Event
  /-- The keys of an account are asked for. -/
  | lookup (account : String)
  /-- An operation is given to the handler of its kind. -/
  | handled (operation : Operation)
  deriving DecidableEq

/-- How a run ends. -/
structure Outcome (σ α : Type) where
  result : Except Rpc.Error α
  state : σ
  events : List Event

/-- A run that ends with a value of type `α`, on a state of type `σ`. -/
def Run (σ α : Type) : Type := σ → Outcome σ α

namespace Run

variable {σ α β : Type}

/-- Ends with a value. -/
protected def pure (value : α) : Run σ α := fun state => ⟨.ok value, state, []⟩

/-- Goes on with what the first run ended with, unless it failed. -/
protected def bind (first : Run σ α) (next : α → Run σ β) : Run σ β := fun state =>
  let before := first state
  match before.result with
  | .error error => ⟨.error error, before.state, before.events⟩
  | .ok value =>
    let after := next value before.state
    ⟨after.result, after.state, before.events ++ after.events⟩

instance : Monad (Run σ) where
  pure := Run.pure
  bind := Run.bind

/-- Ends with an error. -/
def fail (error : Rpc.Error) : Run σ α := fun state => ⟨.error error, state, []⟩

/-- Ends with an outcome that is already known. -/
def ofExcept (result : Except Rpc.Error α) : Run σ α := fun state => ⟨result, state, []⟩

/-- Records an event. -/
def emit (event : Event) : Run σ Unit := fun state => ⟨.ok (), state, [event]⟩

/-- Looks at the state. -/
def get : Run σ σ := fun state => ⟨.ok state, state, []⟩

/-- Changes the state. -/
def modify (change : σ → σ) : Run σ Unit := fun state => ⟨.ok (), change state, []⟩

/-- Fails when the condition does not hold. -/
def ensure (condition : Prop) [Decidable condition] (error : Rpc.Error) : Run σ Unit :=
  fun state => ⟨if condition then .ok () else .error error, state, []⟩

/-- Ends with the value that is there, or fails. -/
def require (value? : Option α) (error : Rpc.Error) : Run σ α := fun state =>
  ⟨match value? with
    | some value => .ok value
    | none => .error error, state, []⟩

/-- Changes the state, or fails and leaves it. -/
def update (change : σ → Except Rpc.Error σ) : Run σ Unit := fun state =>
  match change state with
  | .ok state => ⟨.ok (), state, []⟩
  | .error error => ⟨.error error, state, []⟩

/-- Asks for the keys of an account. -/
def keysOf (authority : Authority) (account : String) : Run σ KeySet := fun state =>
  { result := (authority.resolve account).mapError fun cause => .invalidParameter cause.message
    state := state
    events := if authority.stopping then [] else [.lookup account] }

end Run

end BlogGateway
