/-
What a node is sent, and what it answers.

The request for an account is a written tree, and so it is read back as that tree.  The tree is
always the same but for the name of the account, which may be any text at all: nothing that stands
in a name gets out of its string.

A node may spell its answer in many ways.  `SpellsReply` says which: every record is an object, with
its members in any order and among others, or an array with its values in their order; a result and
an error may be missing from an object or be null, and what is missing from an account is empty.
Whichever way is taken, what is read is what was said, and nothing else is read at all.
-/
import BlogGateway.Authority.Node
import BlogGateway.Proofs.Json.Positions
import BlogGateway.Proofs.Json.Trees

namespace BlogGateway.Node

open Json Ascii

/-! ### Requests -/

/-- What a request for an account says. -/
def requestTree (account : String) : Value :=
  .object [("id", .ofNat 1), ("method", .string "call"),
    ("params", .list [.string "database_api", .string "get_accounts",
      .list [.list [.string account]]])]

/-- The request is the tree, written with its members in the order of their names. -/
theorem accountRequest_eq_write (account : String) :
    accountRequest account = (requestTree account).write := by
  have one : Int.repr 1 = "1" := rfl
  rw [requestTree, write_object]
  simp [accountRequest, requestBody, accountsMethod, api, braced, writeMember, Value.write,
    Value.ofNat, writeNumber, one]

theorem fits_requestTree (account : String) (depth : Nat) :
    Fits (depth + 6) (requestTree account) := by
  have name : Fits (depth + 3) (.list [.string account]) := by
    refine .list fun element hmem => ?_
    obtain rfl := List.mem_singleton.mp hmem
    exact .string account
  have names : Fits (depth + 4) (.list [.list [.string account]]) := by
    refine .list fun element hmem => ?_
    obtain rfl := List.mem_singleton.mp hmem
    exact name
  have params : Fits (depth + 5) (.list [.string "database_api", .string "get_accounts",
      .list [.list [.string account]]]) := by
    refine .list fun element hmem => ?_
    simp only [List.mem_cons, List.not_mem_nil, or_false] at hmem
    rcases hmem with rfl | rfl | rfl
    · exact .string _
    · exact .string _
    · exact names
  refine .object ?_ fun member hmem => ?_
  · rfl
  · simp only [List.mem_cons, List.not_mem_nil, or_false] at hmem
    rcases hmem with rfl | rfl | rfl
    · exact .whole (by decide) (by decide)
    · exact .string _
    · exact params

/-- A request is read as what it says, whatever the account is called. -/
theorem read_accountRequest (account : String) :
    readWholeText (readValue depthLimit) (accountRequest account) = .ok (requestTree account) := by
  rw [accountRequest_eq_write]
  exact (fits_requestTree account 122).reads_write.alone

/-! ### How an answer may be spelled -/

/-- The tokens are spellings of the first values, in their order, and the others are empty. -/
inductive SpellsFirst {α : Type} (Spelled : List α → Bytes → Prop) :
    List (List α) → List Bytes → Prop
  | empty {others : List (List α)} (empty : ∀ values ∈ others, values = []) :
      SpellsFirst Spelled others []
  | cons {values : List α} {token : Bytes} {others : List (List α)} {tokens : List Bytes}
      (spells : Spelled values token) (rest : SpellsFirst Spelled others tokens) :
      SpellsFirst Spelled (values :: others) (token :: tokens)

/-- The bytes are the pair of the text of a key and its weight, which is any tree. -/
inductive SpellsKey (text : String) : Bytes → Prop
  | pair {key weight s : Bytes} {tree : Value} (spells : SpellsString text key)
      (weighs : Reads (readValue weightDepth) weight tree) (listed : Listed [key, weight] s) :
      SpellsKey text (bracketed s)

/-- The bytes are a level with the key texts. -/
inductive SpellsLevel (texts : List String) : Bytes → Prop
  | object {keys extras members : List Member} {s : Bytes}
      (given : Gives "key_auths" (SpellsEach SpellsKey texts) (texts = []) keys)
      (foreign : ∀ member ∈ extras, member.name ∉ ["key_auths"])
      (arranged : members.Perm (keys ++ extras))
      (listed : Listed (members.map Member.bytes) s) : SpellsLevel texts (braced s)
  | array {tokens : List Bytes} {s : Bytes}
      (given : SpellsFirst (SpellsEach SpellsKey) [texts] tokens) (listed : Listed tokens s) :
      SpellsLevel texts (bracketed s)

/-- The bytes are an account with the key texts of its three levels. -/
inductive SpellsAccount (account : KeyTexts) : Bytes → Prop
  | object {owner active posting extras members : List Member} {s : Bytes}
      (owners : Gives "owner" (SpellsLevel account.owner) (account.owner = []) owner)
      (actives : Gives "active" (SpellsLevel account.active) (account.active = []) active)
      (postings : Gives "posting" (SpellsLevel account.posting) (account.posting = []) posting)
      (foreign : ∀ member ∈ extras, member.name ∉ ["owner", "active", "posting"])
      (arranged : members.Perm (owner ++ active ++ posting ++ extras))
      (listed : Listed (members.map Member.bytes) s) : SpellsAccount account (braced s)
  | array {tokens : List Bytes} {s : Bytes}
      (given : SpellsFirst SpellsLevel [account.owner, account.active, account.posting] tokens)
      (listed : Listed tokens s) : SpellsAccount account (bracketed s)

/-- The bytes are an error; a code of zero and an empty message may be left out. -/
inductive SpellsFailure (failure : Failure) : Bytes → Prop
  | object {code message extras members : List Member} {s : Bytes}
      (codes : Gives "code" (SpellsInt64 failure.code) (failure.code = 0) code)
      (messages : Gives "message" (SpellsString failure.message) (failure.message = "") message)
      (foreign : ∀ member ∈ extras, member.name ∉ ["code", "message"])
      (arranged : members.Perm (code ++ message ++ extras))
      (listed : Listed (members.map Member.bytes) s) : SpellsFailure failure (braced s)
  | array {code message s : Bytes} (counts : SpellsInt64 failure.code code)
      (spells : SpellsString failure.message message) (listed : Listed [code, message] s) :
      SpellsFailure failure (bracketed s)
  | code {code s : Bytes} (counts : SpellsInt64 failure.code code) (silent : failure.message = "")
      (listed : Listed [code] s) : SpellsFailure failure (bracketed s)
  | empty {s : Bytes} (zero : failure.code = 0) (silent : failure.message = "")
      (blank : Blank s) : SpellsFailure failure (bracketed s)

/-- The bytes are the answer of a node: a result and an error, both of which an array has and an
object may have. -/
inductive SpellsReply (reply : Reply (List KeyTexts)) : Bytes → Prop
  | object {result error extras members : List Member} {s : Bytes}
      (results : Gives "result" (SpellsMaybe (SpellsEach SpellsAccount) reply.result)
        (reply.result = none) result)
      (errors : Gives "error" (SpellsMaybe SpellsFailure reply.error) (reply.error = none) error)
      (foreign : ∀ member ∈ extras, member.name ∉ ["result", "error"])
      (arranged : members.Perm (result ++ error ++ extras))
      (listed : Listed (members.map Member.bytes) s) : SpellsReply reply (braced s)
  | array {result error s : Bytes}
      (results : SpellsMaybe (SpellsEach SpellsAccount) reply.result result)
      (errors : SpellsMaybe SpellsFailure reply.error error) (listed : Listed [result, error] s) :
      SpellsReply reply (bracketed s)

/-- The text is an answer with any white space around it. -/
inductive IsReply (reply : Reply (List KeyTexts)) : Bytes → Prop
  | text {before token after : Bytes} (spells : SpellsReply reply token) (blank : Blank before)
      (blank' : Blank after) : IsReply reply (before ++ token ++ after)

/-! ### Values by their place -/

section First

variable {α : Type} {Spelled : List α → Bytes → Prop} {read : Reader (List α)} {values : List α}
  {others : List (List α)} {tokens : List Bytes} {fields : List Field} {rest : Values fields}
  {name : String}

/-- Values that stand in an array are read from it as far as it goes. -/
theorem SpellsFirst.enumerates (first : SpellsFirst Spelled (values :: others) tokens)
    (reads : ∀ {token}, Spelled values token → Reads read token values)
    (behind : ∀ {tokens}, SpellsFirst Spelled others tokens → Enumerates fields tokens rest) :
    Enumerates (.optional name read [] :: fields) tokens (values, rest) := by
  cases first with
  | empty empty =>
      obtain ⟨rfl, others⟩ := List.forall_mem_cons.mp empty
      exact .short rfl (behind (.empty others))
  | cons spells rest => exact .element (reads spells) (behind rest)

/-- What is read from an array are the first values, and the others are empty. -/
theorem spellsFirst_of_enumerates {β : Type} {read : Reader (List β)} {wholes : List β}
    (enumerates : Enumerates (.optional name read [] :: fields) tokens (wholes, rest))
    (spelled : ∀ {token}, Reads read token wholes → Spelled values token)
    (none : wholes = [] → values = [])
    (behind : ∀ {tokens}, Enumerates fields tokens rest → SpellsFirst Spelled others tokens) :
    SpellsFirst Spelled (values :: others) tokens := by
  cases enumerates with
  | element reads rest => exact .cons (spelled reads) (behind rest)
  | short default rest =>
      have own := none (Option.some.inj default).symm
      cases behind rest with
      | empty empty => exact .empty (List.forall_mem_cons.mpr ⟨own, empty⟩)

theorem SpellsFirst.eq_nil (first : SpellsFirst Spelled [] tokens) : tokens = [] := by
  cases first with
  | empty => rfl

theorem spellsFirst_nil {values : Values []} (enumerates : Enumerates [] tokens values) :
    SpellsFirst Spelled [] tokens := by
  cases enumerates with
  | nil => exact .empty (by simp)

end First

/-! ### Levels -/

/-- Reads the pair of a key text and its weight. -/
def readKey : Reader (String × Value) := readPair (readString "a string") (readValue weightDepth)

/-- A key is read with its weight, which is not looked at. -/
theorem SpellsKey.exists_reads {text : String} {token : Bytes} (spells : SpellsKey text token) :
    ∃ key, key.1 = text ∧ Reads readKey token key := by
  cases spells with
  | pair spells weighs listed => exact ⟨_, rfl, reads_pair (spells.reads _) weighs listed⟩

theorem takes_key :
    Takes readKey fun key token => Reads readKey token key ∧ SpellsKey key.1 token := by
  refine (takes_pair (takes_string _) (exactTrees weightDepth)).mono fun spells => ?_
  cases spells with
  | bracketed left right listed =>
      exact ⟨reads_pair (left.reads _) right listed, .pair left right listed⟩

/-- The fields of a level. -/
def levelFields : List Field := [.optional "key_auths" (readList readKey) []]

theorem exact_levelFields : ∀ field ∈ levelFields, field.Exact := by
  intro field hmem
  obtain rfl := List.mem_singleton.mp hmem
  exact (takes_list takes_key).mono fun spells => spells.reads And.left

/-- Key texts are read with weights. -/
theorem exists_reads_keys {texts : List String} {token : Bytes}
    (spells : SpellsEach SpellsKey texts token) :
    ∃ keys, keys.map Prod.fst = texts ∧ Reads (readList readKey) token keys := by
  obtain ⟨keys, same, spelled⟩ := spells.exists_map SpellsKey.exists_reads
  exact ⟨keys, same, spelled.reads id⟩

/-- A level is read as its key texts. -/
theorem SpellsLevel.reads {texts : List String} {token : Bytes} (spells : SpellsLevel texts token) :
    Reads readLevel token texts := by
  have record : ∃ keys, keys.map Prod.fst = texts ∧
      Reads (readRecord "Authority" levelFields) token (keys, ()) := by
    cases spells with
    | object given foreign arranged listed =>
        have distinct : (levelFields.map Field.name).Nodup := by decide
        cases given with
        | given named spelled =>
            obtain ⟨keys, same, reads⟩ := exists_reads_keys spelled
            have holds : Holds levelFields [_] (keys, ()) := .member named reads .nil
            exact ⟨keys, same, reads_record _ distinct holds foreign arranged listed⟩
        | omitted none =>
            have holds : Holds levelFields [] ([], ()) := .absent rfl .nil
            exact ⟨[], none.symm, reads_record _ distinct holds foreign arranged listed⟩
    | array given listed =>
        cases given with
        | empty empty =>
            have enumerates : Enumerates levelFields [] ([], ()) := .short rfl .nil
            exact ⟨[], (empty texts (List.mem_singleton.mpr rfl)).symm,
              reads_positions _ enumerates listed⟩
        | cons spelled rest =>
            obtain rfl := rest.eq_nil
            obtain ⟨keys, same, reads⟩ := exists_reads_keys spelled
            have enumerates : Enumerates levelFields [_] (keys, ()) := .element reads .nil
            exact ⟨keys, same, reads_positions _ enumerates listed⟩
  obtain ⟨keys, rfl, reads⟩ := record
  exact reads.andThen fun rest => rfl

theorem takes_level : Takes readLevel SpellsLevel := by
  refine (takes_record "Authority" exact_levelFields).andThen fun values rest texts rest' h => ?_
  obtain ⟨keys, ⟨⟩⟩ := values
  obtain ⟨rfl, rfl⟩ := Prod.mk.inj (Except.ok.inj h)
  refine ⟨rfl, fun token spells => ?_⟩
  have spelled {token : Bytes} (reads : Reads (readList readKey) token keys) :
      SpellsEach SpellsKey (keys.map Prod.fst) token :=
    ((takes_list takes_key).spelled reads).map And.right
  cases spells with
  | object holds foreign arranged listed =>
      obtain ⟨own, others, rfl, given, holds⟩ := holds.gives spelled
        fun default => (congrArg (List.map Prod.fst) (Option.some.inj default)).symm
      obtain rfl := holds.eq_nil
      rw [List.append_nil] at arranged
      exact .object given foreign arranged listed
  | array enumerates listed =>
      refine .array ?_ listed
      exact spellsFirst_of_enumerates enumerates spelled (congrArg (List.map Prod.fst))
        spellsFirst_nil

/-! ### Accounts -/

/-- The fields of an account. -/
def accountFields : List Field :=
  [.optional "owner" readLevel [], .optional "active" readLevel [],
    .optional "posting" readLevel []]

/-- An account is read as the key texts of its levels. -/
theorem SpellsAccount.reads {account : KeyTexts} {token : Bytes}
    (spells : SpellsAccount account token) : Reads readAccount token account := by
  have record : Reads (readRecord "Account" accountFields) token
      (account.owner, account.active, account.posting, ()) := by
    cases spells with
    | @object owner active posting extras members s owners actives postings foreign arranged
        listed =>
        have holds : Holds accountFields (owner ++ (active ++ (posting ++ [])))
            (account.owner, account.active, account.posting, ()) := by
          refine owners.holds (fun token level => level.reads) (fun h => congrArg some h.symm) ?_
          refine actives.holds (fun token level => level.reads) (fun h => congrArg some h.symm) ?_
          exact postings.holds (fun token level => level.reads) (fun h => congrArg some h.symm) .nil
        have arranged' : members.Perm (owner ++ (active ++ (posting ++ [])) ++ extras) := by
          simpa using arranged
        exact reads_record _ (by decide) holds foreign arranged' listed
    | array given listed =>
        refine reads_positions _ ?_ listed
        refine given.enumerates SpellsLevel.reads fun given => ?_
        refine given.enumerates SpellsLevel.reads fun given => ?_
        refine given.enumerates SpellsLevel.reads fun given => ?_
        obtain rfl := given.eq_nil
        exact .nil
  exact record.andThen fun rest => rfl

theorem takes_account : Takes readAccount SpellsAccount := by
  have exact_fields : ∀ field ∈ accountFields, field.Exact := by
    intro field hmem
    simp only [accountFields, List.mem_cons, List.not_mem_nil, or_false] at hmem
    rcases hmem with rfl | rfl | rfl <;> exact takes_level.mono SpellsLevel.reads
  refine (takes_record "Account" exact_fields).andThen fun values rest account rest' h => ?_
  obtain ⟨owner, active, posting, ⟨⟩⟩ := values
  obtain ⟨rfl, rfl⟩ := Prod.mk.inj (Except.ok.inj h)
  refine ⟨rfl, fun token spells => ?_⟩
  cases spells with
  | object holds foreign arranged listed =>
      obtain ⟨_, _, rfl, owners, holds⟩ := holds.gives takes_level.spelled
        fun default => (Option.some.inj default).symm
      obtain ⟨_, _, rfl, actives, holds⟩ := holds.gives takes_level.spelled
        fun default => (Option.some.inj default).symm
      obtain ⟨_, _, rfl, postings, holds⟩ := holds.gives takes_level.spelled
        fun default => (Option.some.inj default).symm
      obtain rfl := holds.eq_nil
      exact .object owners actives postings foreign (by simpa using arranged) listed
  | array enumerates listed =>
      refine .array ?_ listed
      refine spellsFirst_of_enumerates enumerates takes_level.spelled id fun enumerates => ?_
      refine spellsFirst_of_enumerates enumerates takes_level.spelled id fun enumerates => ?_
      exact spellsFirst_of_enumerates enumerates takes_level.spelled id spellsFirst_nil

/-! ### Errors -/

/-- The fields of an error. -/
def failureFields : List Field :=
  [.optional "code" readInt64 0, .optional "message" (readString "a string") ""]

/-- An error is read as its code and its message. -/
theorem SpellsFailure.reads {failure : Failure} {token : Bytes}
    (spells : SpellsFailure failure token) : Reads readFailure token failure := by
  have record : Reads (readRecord "NodeError" failureFields) token
      (failure.code, failure.message, ()) := by
    cases spells with
    | @object code message extras members s codes messages foreign arranged listed =>
        have holds : Holds failureFields (code ++ (message ++ []))
            (failure.code, failure.message, ()) := by
          refine codes.holds (fun token h => h.reads) (fun h => congrArg some h.symm) ?_
          exact messages.holds (fun token h => h.reads _) (fun h => congrArg some h.symm) .nil
        have arranged' : members.Perm (code ++ (message ++ []) ++ extras) := by
          simpa using arranged
        exact reads_record _ (by decide) holds foreign arranged' listed
    | array counts spells listed =>
        exact reads_positions _ (.element counts.reads (.element (spells.reads _) .nil)) listed
    | code counts silent listed =>
        refine reads_positions _ (.element counts.reads (.short ?_ .nil)) listed
        exact congrArg some silent.symm
    | empty zero silent blank =>
        refine reads_positions _ (.short ?_ (.short ?_ .nil)) (.nil blank)
        · exact congrArg some zero.symm
        · exact congrArg some silent.symm
  exact record.andThen fun rest => rfl

theorem SpellsFailure.head? {failure : Failure} {token : Bytes}
    (spells : SpellsFailure failure token) : token.head? ≠ some lowerN := by
  cases spells with
  | object | array | code | empty => exact fun same => absurd (Option.some.inj same) (by decide)

theorem takes_failure : Takes readFailure SpellsFailure := by
  have exact_fields : ∀ field ∈ failureFields, field.Exact := by
    intro field hmem
    simp only [failureFields, List.mem_cons, List.not_mem_nil, or_false] at hmem
    rcases hmem with rfl | rfl
    · exact takes_int64.mono SpellsInt64.reads
    · exact (takes_string _).mono fun spells => spells.reads _
  refine (takes_record "NodeError" exact_fields).andThen fun values rest failure rest' h => ?_
  obtain ⟨code, message, ⟨⟩⟩ := values
  obtain ⟨rfl, rfl⟩ := Prod.mk.inj (Except.ok.inj h)
  refine ⟨rfl, fun token spells => ?_⟩
  cases spells with
  | object holds foreign arranged listed =>
      obtain ⟨_, _, rfl, codes, holds⟩ := holds.gives takes_int64.spelled
        fun default => (Option.some.inj default).symm
      obtain ⟨_, _, rfl, messages, holds⟩ := holds.gives (takes_string _).spelled
        fun default => (Option.some.inj default).symm
      obtain rfl := holds.eq_nil
      exact .object codes messages foreign (by simpa using arranged) listed
  | array enumerates listed =>
      cases enumerates with
      | element counts rest =>
          cases rest with
          | element spells rest =>
              cases rest with
              | nil =>
                  exact .array (takes_int64.spelled counts) ((takes_string _).spelled spells) listed
          | short default rest =>
              cases rest with
              | nil =>
                  exact .code (takes_int64.spelled counts) (Option.some.inj default).symm listed
      | short default rest =>
          cases rest with
          | short default' rest =>
              cases listed with
              | nil blank =>
                  exact .empty (Option.some.inj default).symm (Option.some.inj default').symm blank

/-! ### Answers -/

/-- The fields of an answer. -/
def replyFields : List Field := [maybe "result" (readList readAccount), maybe "error" readFailure]

theorem reads_result {result? : Option (List KeyTexts)} {token : Bytes}
    (spells : SpellsMaybe (SpellsEach SpellsAccount) result? token) :
    Reads (readOption (readList readAccount)) token result? :=
  spells.reads fun spells => ⟨spells.reads SpellsAccount.reads, spells.head?⟩

theorem reads_error {error? : Option Failure} {token : Bytes}
    (spells : SpellsMaybe SpellsFailure error? token) :
    Reads (readOption readFailure) token error? :=
  spells.reads fun spells => ⟨spells.reads, spells.head?⟩

theorem takes_result : Takes (readOption (readList readAccount))
    (SpellsMaybe (SpellsEach SpellsAccount)) :=
  takes_option (takes_list takes_account)

theorem takes_error : Takes (readOption readFailure) (SpellsMaybe SpellsFailure) :=
  takes_option takes_failure

/-- An answer is read as what it says. -/
theorem SpellsReply.reads {reply : Reply (List KeyTexts)} {token : Bytes}
    (spells : SpellsReply reply token) :
    Reads (readReply (readList readAccount)) token reply := by
  have record : Reads (readRecord "NodeResponse" replyFields) token
      (reply.result, reply.error, ()) := by
    cases spells with
    | @object result error extras members s results errors foreign arranged listed =>
        have holds : Holds replyFields (result ++ (error ++ []))
            (reply.result, reply.error, ()) := by
          refine results.holds (fun token h => reads_result h) (fun h => congrArg some h.symm) ?_
          exact errors.holds (fun token h => reads_error h) (fun h => congrArg some h.symm) .nil
        have arranged' : members.Perm (result ++ (error ++ []) ++ extras) := by
          simpa using arranged
        exact reads_record _ (by decide) holds foreign arranged' listed
    | array results errors listed =>
        exact reads_positions _
          (.element (reads_result results) (.element (reads_error errors) .nil)) listed
  exact record.andThen fun rest => rfl

theorem takes_reply : Takes (readReply (readList readAccount)) SpellsReply := by
  have exact_fields : ∀ field ∈ replyFields, field.Exact := by
    intro field hmem
    simp only [replyFields, List.mem_cons, List.not_mem_nil, or_false] at hmem
    rcases hmem with rfl | rfl
    · exact takes_result.mono reads_result
    · exact takes_error.mono reads_error
  refine (takes_record "NodeResponse" exact_fields).andThen fun values rest reply rest' h => ?_
  obtain ⟨result, error, ⟨⟩⟩ := values
  obtain ⟨rfl, rfl⟩ := Prod.mk.inj (Except.ok.inj h)
  refine ⟨rfl, fun token spells => ?_⟩
  cases spells with
  | object holds foreign arranged listed =>
      obtain ⟨_, _, rfl, results, holds⟩ := holds.gives takes_result.spelled
        fun default => (Option.some.inj default).symm
      obtain ⟨_, _, rfl, errors, holds⟩ := holds.gives takes_error.spelled
        fun default => (Option.some.inj default).symm
      obtain rfl := holds.eq_nil
      exact .object results errors foreign (by simpa using arranged) listed
  | array enumerates listed =>
      cases enumerates with
      | element results rest =>
          cases rest with
          | element errors rest =>
              cases rest with
              | nil =>
                  exact .array (takes_result.spelled results) (takes_error.spelled errors) listed
          | short default => cases default
      | short default => cases default

/-- **An answer is read as what it says, however it is spelled, and nothing else is read.** -/
theorem read_reply_eq_ok_iff {reply : Reply (List KeyTexts)} {body : Bytes} :
    readWholeText (readReply (readList readAccount)) body = .ok reply ↔ IsReply reply body := by
  constructor
  · intro h
    obtain ⟨before, token, after, blank, blank', spells, rfl⟩ := takes_reply.whole h
    exact .text spells blank blank'
  · rintro ⟨spells, blank, blank'⟩
    exact spells.reads.whole blank blank'

end BlogGateway.Node
