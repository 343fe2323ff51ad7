/-
What is made of a node's answer.

A lookup ends in one of four ways, and the answer alone says in which.  An answer with accounts and
without an error gives the keys of the first account, if all of its key texts are keys; it gives an
error of its own if there is no account, and one that names the first text that is no key.  Whatever
else a node does, it is not available.
-/
import BlogGateway.Proofs.Authority.Exchange
import BlogGateway.Proofs.Authority.Keys
import BlogGateway.Proofs.Authority.Node

namespace BlogGateway

open Json

/-! ### Key texts of three levels -/

namespace KeySet

variable {owner active posting : List String} {keys : KeySet}

theorem parse_eq_ok_iff :
    parse owner active posting = .ok keys ↔
      PublicKey.parseAll owner = .ok keys.owner ∧ PublicKey.parseAll active = .ok keys.active ∧
        PublicKey.parseAll posting = .ok keys.posting := by
  unfold parse
  simp only [Except.bind_eq_ok_iff]
  constructor
  · rintro ⟨owner, first, active, second, posting, third, made⟩
    obtain rfl := Except.ok.inj made
    exact ⟨first, second, third⟩
  · rintro ⟨first, second, third⟩
    exact ⟨_, first, _, second, _, third, rfl⟩

/-- The texts of the three levels are read one after the other. -/
theorem map_all_parse :
    (parse owner active posting).map all = (owner ++ active ++ posting).mapM PublicKey.parse := by
  unfold parse PublicKey.parseAll
  rw [List.mapM_append, List.mapM_append]
  cases owner.mapM PublicKey.parse with
  | error cause => rfl
  | ok owner =>
      cases active.mapM PublicKey.parse with
      | error cause => rfl
      | ok active =>
          cases posting.mapM PublicKey.parse <;> rfl

/-- Key texts are refused as the first of them that is no key. -/
theorem parse_eq_error_iff {cause : AuthorityError} :
    parse owner active posting = .error cause ↔
      ∃ front text back, owner ++ active ++ posting = front ++ text :: back ∧
        (∀ earlier ∈ front, ∃ key, PublicKey.parse earlier = .ok key) ∧
          PublicKey.parse text = .error cause := by
  rw [← Except.mapM_eq_error_iff, ← map_all_parse]
  cases parse owner active posting with
  | error cause' =>
      constructor
      · intro h
        exact congrArg Except.error (Except.error.inj h)
      · intro h
        exact congrArg Except.error (Except.error.inj h)
  | ok keys =>
      constructor
      · intro h
        cases h
      · intro h
        cases h

end KeySet

namespace Node

variable {node : Node} {account : String}

/-- The node answers the request for the account, with success and in JSON. -/
inductive Answers (node : Node) (account : String) (reply : Reply (List KeyTexts)) : Prop
  | replied {status : Nat} {body : Bytes}
      (asked : node (accountRequest account) = .replied status body)
      (success : 200 ≤ status ∧ status < 300) (isReply : IsReply reply body)

/-- An exchange fails unless the node answers with a result and without an error. -/
theorem answers_or_fails (node : Node) (account : String) :
    (∃ accounts, Answers node account ⟨some accounts, none⟩) ∨
      (node (accountRequest account)).Fails (readList readAccount) := by
  cases asked : node (accountRequest account) with
  | unreachable => exact .inr .unreachable
  | replied status body =>
  by_cases success : 200 ≤ status ∧ status < 300
  · cases reads : readWholeText (readReply (readList readAccount)) body with
    | error cause => exact .inr (.unread success reads)
    | ok reply =>
    obtain ⟨result, error⟩ := reply
    cases error with
    | some failure => exact .inr (.reported success reads)
    | none =>
      cases result with
      | none => exact .inr (.nothing success reads)
      | some accounts =>
          exact .inl ⟨accounts, .replied asked success (read_reply_eq_ok_iff.mp reads)⟩
  · exact .inr (.refused success)

theorem resolve_of_answers {accounts : List KeyTexts}
    (answers : Answers node account ⟨some accounts, none⟩) :
    node.resolve account = keysOf accounts := by
  obtain ⟨asked, success, isReply⟩ := answers
  simp [resolve, resultOf, asked, isSuccess_iff.mpr success, read_reply_eq_ok_iff.mpr isReply]

theorem resolve_of_fails (fails : (node (accountRequest account)).Fails (readList readAccount)) :
    ∃ detail, node.resolve account = .error (.unavailable detail) := by
  obtain ⟨detail, failed⟩ := resultOf_of_fails fails accountsMethod
  refine ⟨detail, ?_⟩
  unfold resolve
  rw [failed]

/-! ### How a lookup ends -/

section KeysOf

variable {accounts : List KeyTexts}

theorem keysOf_eq_ok_iff {keys : KeySet} :
    keysOf accounts = .ok keys ↔ ∃ first others, accounts = first :: others ∧
      List.Forall₂ (fun text key => PublicKey.Spells text key.bytes) first.owner keys.owner ∧
      List.Forall₂ (fun text key => PublicKey.Spells text key.bytes) first.active keys.active ∧
      List.Forall₂ (fun text key => PublicKey.Spells text key.bytes) first.posting
        keys.posting := by
  cases accounts with
  | nil => simp [keysOf]
  | cons first others =>
      rw [keysOf, KeySet.parse_eq_ok_iff]
      simp only [PublicKey.parseAll, Except.mapM_eq_ok_iff, PublicKey.parse_eq_ok_iff]
      constructor
      · intro spells
        exact ⟨first, others, rfl, spells⟩
      · rintro ⟨first', others', same, spells⟩
        obtain ⟨rfl, rfl⟩ := List.cons.inj same
        exact spells

/-- What is refused of the first account is a text that spells no key. -/
theorem keysOf_cons_eq_error_iff {first : KeyTexts} {others : List KeyTexts}
    {cause : AuthorityError} :
    keysOf (first :: others) = .error cause ↔
      ∃ front text back, first.owner ++ first.active ++ first.posting = front ++ text :: back ∧
        (∀ earlier ∈ front, ∃ key : PublicKey, PublicKey.Spells earlier key.bytes) ∧
          (∀ key : PublicKey, ¬ PublicKey.Spells text key.bytes) ∧ cause = .invalidKey text := by
  have refused (text : String) : PublicKey.parse text = .error cause ↔
      (∀ key : PublicKey, ¬ PublicKey.Spells text key.bytes) ∧ cause = .invalidKey text := by
    simp only [← PublicKey.parse_eq_ok_iff]
    rcases PublicKey.parse_cases text with ⟨key, read⟩ | invalid
    · simp [read]
    · simp [invalid, eq_comm]
  rw [keysOf, KeySet.parse_eq_error_iff]
  simp only [refused, PublicKey.parse_eq_ok_iff]

theorem keysOf_eq_accountNotFound_iff :
    keysOf accounts = .error .accountNotFound ↔ accounts = [] := by
  cases accounts with
  | nil => exact ⟨fun _ => rfl, fun _ => rfl⟩
  | cons first others => simp [keysOf_cons_eq_error_iff]

theorem keysOf_eq_invalidKey_iff {text : String} :
    keysOf accounts = .error (.invalidKey text) ↔
      ∃ first others front back, accounts = first :: others ∧
        first.owner ++ first.active ++ first.posting = front ++ text :: back ∧
        (∀ earlier ∈ front, ∃ key : PublicKey, PublicKey.Spells earlier key.bytes) ∧
        ∀ key : PublicKey, ¬ PublicKey.Spells text key.bytes := by
  cases accounts with
  | nil => simp [keysOf]
  | cons first others =>
      rw [keysOf_cons_eq_error_iff]
      constructor
      · rintro ⟨front, text', back, split, valid, invalid, same⟩
        obtain rfl := AuthorityError.invalidKey.inj same
        exact ⟨first, others, front, back, rfl, split, valid, invalid⟩
      · rintro ⟨first', others', front, back, same, split, valid, invalid⟩
        obtain ⟨rfl, rfl⟩ := List.cons.inj same
        exact ⟨front, text, back, split, valid, invalid, rfl⟩

/-- The keys of accounts never make a node unavailable. -/
theorem keysOf_ne_unavailable (accounts : List KeyTexts) (detail : String) :
    keysOf accounts ≠ .error (.unavailable detail) := by
  cases accounts with
  | nil => exact nofun
  | cons first others => simp [keysOf_cons_eq_error_iff]

end KeysOf

theorem resolve_unavailable_iff :
    (∃ detail, node.resolve account = .error (.unavailable detail)) ↔
      ∀ accounts, ¬ Answers node account ⟨some accounts, none⟩ := by
  constructor
  · rintro ⟨detail, h⟩ accounts answers
    rw [resolve_of_answers answers] at h
    exact keysOf_ne_unavailable accounts detail h
  · intro none
    obtain ⟨accounts, answers⟩ | fails := answers_or_fails node account
    · exact absurd answers (none accounts)
    · exact resolve_of_fails fails

/-- Any other end is what is made of the accounts in the answer. -/
theorem resolve_eq_iff {outcome : Except AuthorityError KeySet}
    (other : ∀ detail, outcome ≠ .error (.unavailable detail)) :
    node.resolve account = outcome ↔
      ∃ accounts, Answers node account ⟨some accounts, none⟩ ∧ keysOf accounts = outcome := by
  constructor
  · rintro rfl
    obtain ⟨accounts, answers⟩ | fails := answers_or_fails node account
    · exact ⟨accounts, answers, (resolve_of_answers answers).symm⟩
    · obtain ⟨detail, failed⟩ := resolve_of_fails fails
      exact absurd failed (other detail)
  · rintro ⟨accounts, answers, rfl⟩
    exact resolve_of_answers answers

/-- **A lookup over a node is exact.**

The request for an account says just that, whatever the account is called.  And the answer alone
decides how the lookup ends: with the keys of the first account, level by level and in order, if
every text of it spells a key; with the first text that spells none; without an account; or, for
everything else that a node can do, unavailable. -/
theorem lookup_exact :
    (∀ account, readWholeText (readValue depthLimit) (accountRequest account)
      = .ok (.object [("id", .ofNat 1), ("method", .string "call"),
          ("params", .list [.string "database_api", .string "get_accounts",
            .list [.list [.string account]]])])) ∧
    ∀ (node : Node) (account : String),
      (∀ keys, node.resolve account = .ok keys ↔
        ∃ first others, Answers node account ⟨some (first :: others), none⟩ ∧
          List.Forall₂ (fun text key => PublicKey.Spells text key.bytes) first.owner keys.owner ∧
          List.Forall₂ (fun text key => PublicKey.Spells text key.bytes) first.active keys.active ∧
          List.Forall₂ (fun text key => PublicKey.Spells text key.bytes) first.posting
            keys.posting) ∧
      (node.resolve account = .error .accountNotFound ↔
        Answers node account ⟨some [], none⟩) ∧
      (∀ text, node.resolve account = .error (.invalidKey text) ↔
        ∃ first others front back, Answers node account ⟨some (first :: others), none⟩ ∧
          first.owner ++ first.active ++ first.posting = front ++ text :: back ∧
          (∀ earlier ∈ front, ∃ key : PublicKey, PublicKey.Spells earlier key.bytes) ∧
          ∀ key : PublicKey, ¬ PublicKey.Spells text key.bytes) ∧
      ((∃ detail, node.resolve account = .error (.unavailable detail)) ↔
        ∀ accounts, ¬ Answers node account ⟨some accounts, none⟩) := by
  refine ⟨read_accountRequest, fun node account =>
    ⟨fun keys => ?_, ?_, fun text => ?_, resolve_unavailable_iff⟩⟩
  · refine (resolve_eq_iff (by simp)).trans ?_
    simp only [keysOf_eq_ok_iff]
    constructor
    · rintro ⟨_, answers, first, others, rfl, spells⟩
      exact ⟨first, others, answers, spells⟩
    · rintro ⟨first, others, answers, spells⟩
      exact ⟨_, answers, first, others, rfl, spells⟩
  · refine (resolve_eq_iff (by simp)).trans ?_
    simp only [keysOf_eq_accountNotFound_iff, exists_eq_right]
  · refine (resolve_eq_iff (by simp)).trans ?_
    simp only [keysOf_eq_invalidKey_iff]
    constructor
    · rintro ⟨_, answers, first, others, front, back, rfl, refused⟩
      exact ⟨first, others, front, back, answers, refused⟩
    · rintro ⟨first, others, front, back, answers, refused⟩
      exact ⟨_, answers, first, others, front, back, rfl, refused⟩

example : resolve
    (fun _ => .replied 200 (Bytes.ofText "\x7b\"jsonrpc\":\"2.0\",\"result\":[]\x7d")) "alice"
      = .error .accountNotFound := by
  cbv

end Node

end BlogGateway
