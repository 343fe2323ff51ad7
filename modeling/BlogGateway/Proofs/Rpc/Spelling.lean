/-
Arguments of a call arrive byte for byte.

A request may be spelled in many ways: its members stand in any order and among others, strings
may be escaped, and white space may stand around every value.  `Spelled` gives the grammar, and
says nothing about reading.  However it is spelled, a request is read as itself; its arguments
are raw values, so what is left of the spelling is their bytes and nothing else.

A signed read is spelled in its arguments, where the parameters are a list within the list.
What is signed, and what the handler sees behind the check, are the parameters of the claim as
they stand between the white space.
-/
import BlogGateway.Proofs.Digest.Query
import BlogGateway.Proofs.Json.Numbers
import BlogGateway.Proofs.Json.Written
import BlogGateway.Proofs.Rpc.Identity

namespace BlogGateway.Rpc

open Json Ascii

/-! ### Requests -/

/-- The bytes are the list of interface, method and arguments. -/
inductive Request.SpellsTarget (target : Target) : Bytes → Prop
  | bracketed {api method args s : Bytes} (named : SpellsString target.api api)
      (called : SpellsString target.method method) (given : SpellsList target.args args)
      (listed : Listed [api, method, args] s) : SpellsTarget target (bracketed s)

/-- The target of a call. -/
def Call.target (call : Call) : Request.Target := ⟨call.api, call.method, call.args⟩

/-- The bytes are an object with the members of the request and with others, in any order. -/
inductive Request.Spelled (request : Request) : Bytes → Prop
  | braced {verb target id extras members : List Member} {before s after : Bytes}
      (verbs : Gives "method" (SpellsString request.verb) (request.verb = "") verb)
      (targets : Gives "params" (SpellsTarget request.call.target) False target)
      (ids : Gives "id" (· = Bytes.ofText (toString request.call.id.toNat)) (request.call.id = 0)
        id)
      (foreign : ∀ member ∈ extras, member.name ∉ ["method", "params", "id"])
      (arranged : members.Perm (verb ++ target ++ id ++ extras))
      (listed : Listed (members.map Member.bytes) s) (blank : Blank before)
      (blank' : Blank after) : Spelled request (before ++ braced s ++ after)

namespace Request

variable {request : Request} {target : Target} {token : Bytes}

theorem SpellsTarget.reads (h : SpellsTarget target token) : Reads readTarget token target := by
  cases h with
  | bracketed named called given listed =>
      obtain ⟨api, rfl⟩ := exists_raw named.isText
      obtain ⟨method, rfl⟩ := exists_raw called.isText
      obtain ⟨args, rfl⟩ := exists_raw given.isText
      have list := given.reads
      have values : ∀ raw ∈ [api, method, args], IsValue raw.bytes := by
        intro raw hmem
        simp only [List.mem_cons, List.not_mem_nil, or_false] at hmem
        rcases hmem with rfl | rfl | rfl
        · exact (named.reads "a string").isValue
        · exact (called.reads "a string").isValue
        · exact list.isValue
      have listed' : Listed ([api, method, args].map Raw.bytes) _ := listed
      refine (SpellsList.bracketed listed' values).reads.andThen fun rest => ?_
      have other : args.bytes.head? ≠ some lowerN := by
        rw [given.head?]
        decide
      simp only [(list.option other).raw, (named.reads "a string").raw,
        (called.reads "a string").raw, Except.mapError_ok, bind, Except.bind]
      rfl

theorem distinct_fields : (fields.map Field.name).Nodup := by decide

/-- A request is read as itself, however it is spelled. -/
theorem parse_of_spelled {body : Bytes} (spelled : request.Spelled body) :
    parse body = .ok request := by
  cases spelled with
  | @braced verb target id extras members before s after verbs targets ids foreign arranged listed
      blank blank' =>
      have holds : Holds fields (verb ++ (target ++ (id ++ [])))
          (request.verb, request.call.target, request.call.id, ()) := by
        refine verbs.holds (fun token h => h.reads "a string") (fun h => ?_) ?_
        · exact congrArg some h.symm
        refine targets.holds (fun token h => h.reads) (fun h => h.elim) ?_
        refine ids.holds (fun token h => ?_) (fun h => ?_) .nil
        · exact h ▸ reads_uint64 request.call.id
        · exact congrArg some h.symm
      have arranged' : members.Perm (verb ++ (target ++ (id ++ [])) ++ extras) := by
        simpa using arranged
      have record := reads_record "RpcRequest" distinct_fields holds foreign arranged' listed
      have reads : Reads read (braced s) request := record.andThen fun rest => rfl
      exact reads.whole blank blank'

end Request

/-! ### Signed reads -/

/-- The arguments spell the claim: three strings, the list of the parameters, and then whatever
else. -/
inductive Claim.Spelled (claim : Claim) : List Raw → Prop
  | args {account salt signature params : Raw} {more : List Raw}
      (named : SpellsString claim.account account.bytes)
      (salted : SpellsString claim.salt salt.bytes)
      (signs : SpellsString claim.signature signature.bytes)
      (given : SpellsList claim.params params.bytes) :
      Spelled claim (account :: salt :: signature :: params :: more)

/-- A claim is taken from the arguments as it is spelled there. -/
theorem Claim.ofCall_of_spelled {claim : Claim} {call : Call} (spelled : claim.Spelled call.args) :
    Claim.ofCall call = .ok claim := by
  rw [Claim.ofCall_eq_ok_iff]
  simp only [Call.arg_eq_ok_iff]
  generalize call.args = args at spelled ⊢
  cases spelled with
  | args named salted signs given =>
      exact ⟨⟨_, rfl, (named.reads "a string").raw⟩, ⟨_, rfl, (salted.reads "a string").raw⟩,
        ⟨_, rfl, (signs.reads "a string").raw⟩, ⟨_, rfl, given.reads.raw⟩⟩

/--
**The arguments of a call arrive byte for byte.**

However a request is spelled, it is read as itself.  The signature of a read is then checked over
the hash of the account, the salt and the parameters as they stand there, the handler is given
these parameters, and no other account, salt or parameters have the bytes that are hashed.
-/
theorem arguments_arrive {request : Request} {body : Bytes} (spelled : request.Spelled body) :
    Request.parse body = .ok request ∧
      ∀ claim : Claim, claim.Spelled request.call.args →
        ∀ (σ : Type) (chain : ChainId) (authority : Authority)
          (handler : SignedCall → Run σ (Option Value)),
          signed chain authority handler request.call = (do
            let keys ← Run.keysOf authority claim.account
            if Signature.verifyAny keys.all claim.signature
                (Sha256.digest
                  (Digest.queryBytes chain claim.account claim.salt claim.params)) then
              handler ⟨request.call.id, claim.account, claim.params⟩
            else Run.fail (.invalidParameter "signature is not valid")) ∧
          ∀ account salt params,
            Digest.queryBytes chain account salt params
                = Digest.queryBytes chain claim.account claim.salt claim.params →
              account = claim.account ∧ salt = claim.salt ∧ params = claim.params := by
  refine ⟨Request.parse_of_spelled spelled, ?_⟩
  intro claim claimed σ chain authority handler
  refine ⟨?_, fun account salt params same => (Digest.eq_of_queryBytes same).2⟩
  rw [signed_of_claim (Claim.ofCall_of_spelled claimed) chain authority handler,
    Digest.ofQuery_eq]

/-- The read of a draft, as a request. -/
private def asking : Request := ⟨"", aliceRead⟩

private def askingClaim : Claim := ⟨"alice", readSalt, readSignature, [⟨"\"first\""⟩]⟩

/-- The request with its id first, another member, and white space around some values. -/
private def askingText : Bytes :=
  Bytes.ofText ("\x7b\"id\":7,\"x\":null,\"params\": [\"draft_api\",\"get_draft\","
    ++ "[\"alice\",\"" ++ readSalt ++ "\",\"" ++ readSignature ++ "\",[ \"first\" ]]]\x7d ")

private theorem spells_of_written {text : String} {raw : Raw} (h : raw.bytes = writeText text) :
    SpellsString text raw.bytes := by
  rw [h]
  exact spellsString_write text

private theorem spells_param : SpellsList askingClaim.params (Raw.bytes ⟨"[ \"first\" ]"⟩) := by
  have listed : Listed (askingClaim.params.map Raw.bytes)
      ([0x20] ++ Raw.bytes ⟨"\"first\""⟩ ++ [0x20]) :=
    .one (by decide) (by decide)
  have values : ∀ raw ∈ askingClaim.params, IsValue raw.bytes := by
    intro raw hmem
    obtain rfl := List.mem_singleton.mp hmem
    have spells : SpellsString "first" (Raw.bytes ⟨"\"first\""⟩) := spells_of_written (by decide)
    exact (spells.reads "a string").isValue
  have same : Raw.bytes ⟨"[ \"first\" ]"⟩
      = bracketed ([0x20] ++ Raw.bytes ⟨"\"first\""⟩ ++ [0x20]) := by decide
  rw [same]
  exact .bracketed listed values

private theorem spells_alice : SpellsString "alice" (Raw.bytes ⟨"\"alice\""⟩) :=
  spells_of_written (by decide +kernel)

private theorem spells_salt : SpellsString readSalt (Raw.bytes ⟨"\"" ++ readSalt ++ "\""⟩) :=
  spells_of_written (by decide +kernel)

private theorem spells_signature :
    SpellsString readSignature (Raw.bytes ⟨"\"" ++ readSignature ++ "\""⟩) :=
  spells_of_written (by decide +kernel)

private theorem spelled_askingClaim : askingClaim.Spelled asking.call.args :=
  .args spells_alice spells_salt spells_signature spells_param

private theorem isValue_args : ∀ raw ∈ asking.call.args, IsValue raw.bytes := by
  intro raw hmem
  simp only [asking, aliceRead, List.mem_cons, List.not_mem_nil, or_false] at hmem
  rcases hmem with rfl | rfl | rfl | rfl
  · exact (spells_alice.reads "a string").isValue
  · exact (spells_salt.reads "a string").isValue
  · exact (spells_signature.reads "a string").isValue
  · exact spells_param.reads.isValue

private theorem spells_target : Request.SpellsTarget asking.call.target
    (bracketed ([writeText "draft_api", writeText "get_draft", bracketed
      ((asking.call.args.map Raw.bytes).intersperse [comma]).flatten].intersperse
        [comma]).flatten) :=
  .bracketed (spellsString_write "draft_api") (spellsString_write "get_draft")
    (.bracketed (listed_intersperse _) isValue_args) (listed_intersperse _)

/-- The member that names the target, with white space behind the colon. -/
private def targetMember : Member :=
  let written := Member.written "params" _ spells_target.reads.isValue
  { written with
    text := { written.text with after := [0x20] }
    after := (by decide : Blank [0x20]) }

private def idMember : Member := .written "id" _ (reads_uint64 7).isValue

private def otherMember : Member := .written "x" _ .null

private theorem spelled_asking : asking.Spelled askingText := by
  have targets : Gives "params" (Request.SpellsTarget asking.call.target) False [targetMember] :=
    .given rfl spells_target
  have ids : Gives "id" (· = Bytes.ofText (toString asking.call.id.toNat)) (asking.call.id = 0)
      [idMember] := .given rfl rfl
  have foreign : ∀ member ∈ [otherMember], member.name ∉ ["method", "params", "id"] := by
    intro member hmem
    obtain rfl := List.mem_singleton.mp hmem
    show "x" ∉ ["method", "params", "id"]
    decide
  have arranged : [idMember, otherMember, targetMember].Perm
      ([] ++ [targetMember] ++ [idMember] ++ [otherMember]) :=
    (List.perm_append_comm : ([idMember, otherMember] ++ [targetMember]).Perm _)
  have same : askingText = [] ++ braced (([idMember, otherMember, targetMember].map
      Member.bytes).intersperse [comma]).flatten ++ [0x20] := by
    decide +kernel
  rw [same]
  exact .braced (.omitted rfl) targets ids foreign arranged (listed_intersperse _) blank_nil
    (by decide)

/-- The request arrives as it is spelled, the signature fits what has arrived, and the handler is
given the parameter; without it other bytes would be hashed. -/
theorem asking_arrives :
    asking.Spelled askingText ∧ askingClaim.Spelled asking.call.args ∧
      Request.parse askingText = .ok asking ∧
      signed .mainnet readAuthority echoing asking.call ()
        = ⟨.ok (some (.ofTexts ["\"first\""])), (), [.lookup "alice"]⟩ ∧
      Digest.queryBytes .mainnet "alice" readSalt []
        ≠ Digest.queryBytes .mainnet "alice" readSalt [⟨"\"first\""⟩] := by
  obtain ⟨parsed, signs⟩ := arguments_arrive spelled_asking
  obtain ⟨checked, unlike⟩ :=
    signs askingClaim spelled_askingClaim Unit .mainnet readAuthority echoing
  have resolved : readAuthority.resolve askingClaim.account = .ok ⟨[], [], [readKey]⟩ := rfl
  have verified : Signature.verifyAny (KeySet.all ⟨[], [], [readKey]⟩) askingClaim.signature
      (Sha256.digest (Digest.queryBytes .mainnet askingClaim.account askingClaim.salt
        askingClaim.params)) = true := by decide +kernel
  refine ⟨spelled_asking, spelled_askingClaim, parsed, ?_, fun same => ?_⟩
  · rw [checked, Run.keysOf_bind_ok resolved, if_pos verified]
    rfl
  · exact absurd (unlike "alice" readSalt [] same).2.2 (by decide)

end BlogGateway.Rpc
