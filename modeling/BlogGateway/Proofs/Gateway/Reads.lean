/-
Routes that only read.

All public reads are made in one way, and so are all reads of accounts, so what holds of every
read is proved of the way and not of the routes.  Reads leave the store alone, and a public
read neither asks for keys nor gives an operation to a handler.
-/
import BlogGateway.Gateway.Reads
import BlogGateway.Proofs.Rpc.SignedRead

namespace BlogGateway.Gateway

open Blog

/-- What is read for a public route is decided by a look at the store. -/
theorem publicReads_reading : ∀ route ∈ publicReads, ∃ read, route.handler = reading read := by
  unfold publicReads
  simp only [List.forall_mem_cons, List.not_mem_nil, false_imp_iff, implies_true, and_true]
  and_intros <;> exact ⟨_, rfl⟩

/-- What an account reads of its own is behind the check. -/
theorem signedReads_reading (chain : ChainId) (authority : Authority) (policy : Policy) :
    ∀ route ∈ signedReads chain authority policy, ∃ read,
      route.handler = signedReading chain authority read := by
  unfold signedReads
  simp only [List.forall_mem_cons, List.not_mem_nil, false_imp_iff, implies_true, and_true]
  and_intros <;> exact ⟨_, rfl⟩

/-- A look at the store ends with what is seen there. -/
theorem look_apply (read : Store → Except Rpc.Error Json.Value) (store : Store) :
    (do
      let store ← Run.get
      let value ← Run.ofExcept (read store)
      pure (some value) : Run Store (Option Json.Value)) store
      = ⟨(read store).map some, store, []⟩ := by
  show ((Run.ofExcept (read store) >>= fun value => pure (some value) :
    Run Store (Option Json.Value)) store) = _
  cases read store <;> rfl

theorem reading_apply (read : Rpc.Call → Store → Except Rpc.Error Json.Value) (call : Rpc.Call)
    (store : Store) : reading read call store = ⟨(read call store).map some, store, []⟩ :=
  look_apply (read call) store

theorem silent_publicReads : ∀ route ∈ publicReads, ∀ call, Run.Silent (route.handler call) := by
  intro route hmem call store
  obtain ⟨read, hread⟩ := publicReads_reading route hmem
  rw [hread, reading_apply]

theorem silent_signedReads (chain : ChainId) (authority : Authority) (policy : Policy) :
    ∀ route ∈ signedReads chain authority policy, ∀ call, Run.Silent (route.handler call) := by
  intro route hmem call
  obtain ⟨read, hread⟩ := signedReads_reading chain authority policy route hmem
  rw [hread]
  refine Rpc.silent_signed (fun signed store => ?_) call
  rw [look_apply]

end BlogGateway.Gateway
