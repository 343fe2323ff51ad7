/-
The arguments of a call.

An argument is there or it is not, and it is read by a reader of its own.  Whatever a handler
does with an argument starts from one of these two facts.
-/
import BlogGateway.Proofs.Except
import BlogGateway.Rpc.Request

namespace BlogGateway.Rpc.Call

open Json

variable {call : Call} {index : Nat}

theorem rawArg_eq_ok_iff {raw : Raw} :
    call.rawArg index = .ok raw ↔ call.args[index]? = some raw := by
  unfold rawArg
  cases call.args[index]? with
  | none => simp
  | some found => simp

theorem arg_eq_ok_iff {α : Type} {read : Reader α} {value : α} :
    call.arg index read = .ok value ↔
      ∃ raw, call.args[index]? = some raw ∧ raw.read read = .ok value := by
  constructor
  · intro h
    obtain ⟨raw, hraw, hread⟩ := Except.bind_eq_ok_iff.mp h
    exact ⟨raw, rawArg_eq_ok_iff.mp hraw, Except.mapError_eq_ok_iff.mp hread⟩
  · intro h
    obtain ⟨raw, hraw, hread⟩ := h
    exact Except.bind_eq_ok_iff.mpr
      ⟨raw, rawArg_eq_ok_iff.mpr hraw, Except.mapError_eq_ok_iff.mpr hread⟩

/-- An argument that is not there, or that cannot be read, is a mistake of the caller. -/
theorem code_of_arg_eq_error {α : Type} {read : Reader α} {error : Error}
    (h : call.arg index read = .error error) : error.code = 4 := by
  rcases Except.bind_eq_error_iff.mp h with absent | ⟨raw, -, unread⟩
  · unfold rawArg at absent
    split at absent
    · cases absent
    · obtain rfl := Except.error.inj absent
      rfl
  · obtain ⟨cause, -, rfl⟩ := Except.mapError_eq_error_iff.mp unread
    rfl

end BlogGateway.Rpc.Call
