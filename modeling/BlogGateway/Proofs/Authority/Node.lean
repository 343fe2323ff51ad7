/-
Nodes that fail.

A node can fail in five ways, and each is told apart in the detail of its error, for the
operator.  A lookup over such a node asks for the keys and ends with one error, whose text
says only that the node is unavailable, so from inside the gateway nodes that fail are one and
the same.
-/
import BlogGateway.Authority.Node
import BlogGateway.Rpc.Run

namespace BlogGateway

open Json

/-- The exchange gives no result. -/
inductive Exchange.Fails {α : Type} (read : Reader α) : Exchange → Prop
  /-- The node was not reached. -/
  | unreachable : Fails read .unreachable
  /-- The node did not answer with success, whatever the body says. -/
  | refused {status : Nat} {body : Bytes} (refused : ¬ (200 ≤ status ∧ status < 300)) :
      Fails read (.replied status body)
  /-- The body is not the JSON of an answer. -/
  | unread {status : Nat} {body : Bytes} {cause : Json.Error}
      (success : 200 ≤ status ∧ status < 300)
      (unread : readWholeText (Node.readReply read) body = .error cause) :
      Fails read (.replied status body)
  /-- The node reports an error, whatever its code and its message. -/
  | reported {status : Nat} {body : Bytes} {result : Option α} {failure : Node.Failure}
      (success : 200 ≤ status ∧ status < 300)
      (reads : readWholeText (Node.readReply read) body = .ok ⟨result, some failure⟩) :
      Fails read (.replied status body)
  /-- The result is missing or null, and there is no error. -/
  | nothing {status : Nat} {body : Bytes} (success : 200 ≤ status ∧ status < 300)
      (reads : readWholeText (Node.readReply read) body = .ok ⟨none, none⟩) :
      Fails read (.replied status body)

/-- An account that is looked up over a node that fails. -/
def Run.unavailable {σ : Type} (account : String) : Run σ KeySet := fun state =>
  ⟨.error ⟨4, "blockchain node unavailable"⟩, state, [.lookup account]⟩

namespace Node

theorem isSuccess_iff {status : Nat} :
    Http.isSuccess status = true ↔ 200 ≤ status ∧ status < 300 := by
  simp [Http.isSuccess]

/-- Whatever goes wrong, the error is the one that keeps its detail to itself. -/
theorem resultOf_of_fails {α : Type} {read : Reader α} {exchange : Exchange}
    (fails : exchange.Fails read) (method : String) :
    ∃ detail, resultOf method read exchange = .error (.unavailable detail) := by
  cases fails with
  | unreachable => exact ⟨_, rfl⟩
  | refused refused => simp [resultOf, mt isSuccess_iff.mp refused]
  | unread success unread => simp [resultOf, isSuccess_iff.mpr success, unread]
  | reported success reads => simp [resultOf, isSuccess_iff.mpr success, reads]
  | nothing success reads => simp [resultOf, isSuccess_iff.mpr success, reads]

/-- Whichever account it is asked for, the node fails. -/
def Down (node : Node) : Prop :=
  ∀ account, (node (accountRequest account)).Fails (readList readAccount)

variable {node : Node}

theorem resolve_of_down (down : node.Down) (timeout : Milliseconds) (account : String) :
    ∃ detail, (node.authority timeout).resolve account = .error (.unavailable detail) := by
  obtain ⟨detail, failed⟩ := resultOf_of_fails (down account) accountsMethod
  refine ⟨detail, ?_⟩
  simp [Authority.resolve, authority, resolve, failed]

/-- What a lookup does over a node that fails does not depend on how it fails. -/
theorem keysOf_of_down {σ : Type} (down : node.Down) (timeout : Milliseconds)
    (account : String) :
    Run.keysOf (node.authority timeout) account = (Run.unavailable account : Run σ KeySet) := by
  obtain ⟨detail, failed⟩ := resolve_of_down down timeout account
  funext state
  unfold Run.keysOf
  rw [failed]
  rfl

end Node

end BlogGateway
