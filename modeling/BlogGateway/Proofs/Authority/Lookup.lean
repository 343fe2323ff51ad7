/-
Keys that are known.

A source of keys may be told to stop, may be late, and may know an account without any key.
`Knows` says that none of that is so, and a lookup succeeds just then.  A signature is checked
against the keys of all levels together, which is to find its key at one of them.
-/
import BlogGateway.Authority.Lookup
import BlogGateway.Proofs.Signature

namespace BlogGateway

/-- Asked for the account, the source of keys answers in time, and there is a key. -/
structure Authority.Knows (authority : Authority) (account : String) (keys : KeySet) : Prop where
  running : authority.stopping = false
  answered : authority.ask account = .answered (.ok keys)
  some : keys.all ≠ []

theorem KeySet.isEmpty_iff {keys : KeySet} : keys.isEmpty = true ↔ keys.all = [] := by
  simp [isEmpty, all, and_assoc]

/-- A signature is that of an account when its key is at one of the levels. -/
theorem KeySet.verifyAny_all_iff {keys : KeySet} {signature : String} {digest : Digest} :
    Signature.verifyAny keys.all signature digest = true ↔
      ∃ key, Signature.recover digest signature = .ok key ∧
        (key ∈ keys.owner ∨ key ∈ keys.active ∨ key ∈ keys.posting) := by
  rw [Signature.verifyAny_iff]
  simp [all, and_comm, or_and_right]

theorem Authority.resolve_eq_ok_iff {authority : Authority} {account : String} {keys : KeySet} :
    authority.resolve account = .ok keys ↔ authority.Knows account keys := by
  unfold resolve
  constructor
  · intro h
    split at h
    · cases h
    · rename_i hrunning
      split at h
      · cases h
      · cases h
      · rename_i found hanswer
        split at h
        · cases h
        · rename_i hkeys
          obtain rfl := Except.ok.inj h
          exact ⟨by simpa using hrunning, hanswer, mt KeySet.isEmpty_iff.mpr hkeys⟩
  · intro h
    obtain ⟨hrunning, hanswer, hkeys⟩ := h
    rw [if_neg (by simp [hrunning]), hanswer]
    exact if_neg (mt KeySet.isEmpty_iff.mp hkeys)

end BlogGateway
