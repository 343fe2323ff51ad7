/-
The stores that a blog can come to.

A blog starts out empty and is changed by nothing but operations, which may say anything and
come at any moment, and of which those that fail change nothing.  So what holds of the empty
store, and is kept by every operation that succeeds, holds of every store that a blog comes
to.

The gateway lets only operations through that keep the field rules.  `Leads` says which stores
such operations make of a given one, so that it can also be said what becomes of something
that is already there.
-/
import BlogGateway.Operation.Rules
import BlogGateway.Proofs.Blog.Changes
import BlogGateway.Proofs.Blog.InPlace

namespace BlogGateway.Blog.Store

open Operation

/-- The store after an operation, whether it has succeeded or failed. -/
def perform (store : Store) (policy : Policy) (moment : Moment) (kind : Kind) (op : Body kind) :
    Store :=
  (InPlace.apply policy moment kind op store).state

/-- The stores that operations make of the empty one. -/
inductive Reachable (policy : Policy) : Store → Prop
  | empty : Reachable policy .empty
  | perform {store : Store} (reached : Reachable policy store) (moment : Moment) (kind : Kind)
      (op : Body kind) : Reachable policy (store.perform policy moment kind op)

variable {policy : Policy} {moment : Moment} {store after : Store} {kind : Kind}
  {op : Body kind}

theorem perform_of_ok (succeeded : apply policy moment kind op store = .ok after) :
    store.perform policy moment kind op = after := by
  unfold perform
  rw [InPlace.apply_eq_update]
  simp only [Run.update, succeeded]

theorem result_of_ok (succeeded : apply policy moment kind op store = .ok after) :
    (InPlace.apply policy moment kind op store).result = .ok () := by
  rw [InPlace.apply_eq_update]
  simp only [Run.update, succeeded]

theorem perform_of_error {error : Rpc.Error}
    (failed : apply policy moment kind op store = .error error) :
    store.perform policy moment kind op = store := by
  unfold perform
  rw [InPlace.apply_eq_update]
  simp only [Run.update, failed]

theorem result_of_does (does : Does policy moment store kind op after) :
    (InPlace.apply policy moment kind op store).result = .ok () :=
  result_of_ok (apply_of_does does)

/-- An operation that succeeds has done something. -/
theorem exists_does_of_result
    (succeeded : (InPlace.apply policy moment kind op store).result = .ok ()) :
    ∃ after, Does policy moment store kind op after := by
  rw [InPlace.apply_eq_update] at succeeded
  cases applied : apply policy moment kind op store with
  | error error => simp [Run.update, applied] at succeeded
  | ok after => exact ⟨after, does_of_apply applied⟩

/-- A single operation keeps what the operations that succeed keep. -/
theorem perform_invariant {holds : Store → Prop} (before : holds store)
    (kept : ∀ {after : Store}, Does policy moment store kind op after → holds after) :
    holds (store.perform policy moment kind op) := by
  cases applied : apply policy moment kind op store with
  | error error =>
      rw [perform_of_error applied]
      exact before
  | ok after =>
      rw [perform_of_ok applied]
      exact kept (does_of_apply applied)

/-- What holds at first, and is kept by every operation that succeeds, holds all the time. -/
theorem Reachable.invariant {holds : Store → Prop} (reached : Reachable policy store)
    (empty : holds .empty)
    (kept : ∀ {store after : Store} {moment : Moment} {kind : Kind} {op : Body kind},
      holds store → Does policy moment store kind op after → holds after) : holds store := by
  induction reached with
  | empty => exact empty
  | perform reached moment kind op ih => exact perform_invariant ih fun does => kept ih does

/-- The stores that operations which keep the field rules make of a store. -/
inductive Leads (policy : Policy) (store : Store) : Store → Prop
  | refl : Leads policy store store
  | perform {later : Store} (leads : Leads policy store later) (moment : Moment) (kind : Kind)
      (op : Body kind) (valid : rules kind op = .ok ()) :
      Leads policy store (later.perform policy moment kind op)

/-- Operations that keep the rules are operations. -/
theorem Leads.reachable {later : Store} (leads : Leads policy store later)
    (reached : Reachable policy store) : Reachable policy later := by
  induction leads with
  | refl => exact reached
  | perform leads moment kind op valid ih => exact ih.perform moment kind op

/-- What holds of a store, and is kept by every operation that keeps the rules and succeeds,
holds of all that the store leads to. -/
theorem Leads.invariant {holds : Store → Prop} {later : Store}
    (leads : Leads policy store later) (first : holds store)
    (kept : ∀ {store after : Store} {moment : Moment} {kind : Kind} {op : Body kind},
      holds store → rules kind op = .ok () → Does policy moment store kind op after →
        holds after) : holds later := by
  induction leads with
  | refl => exact first
  | perform leads moment kind op valid ih =>
      exact perform_invariant ih fun does => kept ih valid does

end BlogGateway.Blog.Store
