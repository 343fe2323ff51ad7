/-
Settings, each from its own variable.

A setting is what the text of its variable means, or the default when the variable is not set;
`Fits` says that of all settings at once, with a meaning for every kind of text.  Nothing in it
joins two variables but the paths for encrypted connections, which come together or not at all.

What can be wrong is said variable by variable as well: `Offends` has one case for each check, and
the checks are made in one order.  Loading goes through them step by step, and a step fails just
when its check finds something; so the error is that of the first check that does, and there is
none just when every variable that is set is acceptable by itself.
-/
import Mathlib.Data.List.TakeWhile
import BlogGateway.Config
import BlogGateway.Proofs.Bytes.HexSpelling

namespace BlogGateway.Config

open Text

variable {settings other : Variables} {config config' : Config} {name text : String}
  {error : Error}

/-! ### What texts mean -/

/-- The text spells the 32 bytes of the chain id. -/
def IsChain (text : String) (chain : ChainId) : Prop := Hex.Spells text.toList chain.bytes

/-- The text is the base and any number of slashes, and the base does not end with one. -/
def Stripped (text base : String) : Prop :=
  (∃ count, text.toList = base.toList ++ List.replicate count '/') ∧
    base.toList.getLast? ≠ some '/'

theorem readAddress_eq_ok_iff {address : Net.Address} :
    readAddress text = .ok address ↔ Net.Address.ofText? text = some address := by
  unfold readAddress
  cases Net.Address.ofText? text <;> simp

theorem readAddress_eq_error_iff {reason : String} :
    readAddress text = .error reason ↔
      Net.Address.ofText? text = none ∧ reason = "invalid IP address syntax" := by
  unfold readAddress
  cases Net.Address.ofText? text with
  | none => simp [eq_comm]
  | some address => simp

theorem readNumber_eq_ok_iff {limit n : Nat} :
    readNumber limit text = .ok n ↔ readWhole limit text = .ok n :=
  Except.mapError_eq_ok_iff

theorem readNumber_eq_error_iff {limit : Nat} {reason : String} :
    readNumber limit text = .error reason ↔
      ∃ cause, readWhole limit text = .error cause ∧ cause.message = reason :=
  Except.mapError_eq_error_iff

theorem logFormat_eq_ok_iff {format : LogFormat} :
    LogFormat.ofText text = .ok format ↔ text = format.text := by
  unfold LogFormat.ofText
  cases format <;> grind [LogFormat.text]

theorem logFormat_eq_error_iff {reason : String} :
    LogFormat.ofText text = .error reason ↔
      (text ≠ "json" ∧ text ≠ "pretty") ∧ reason = "expected json or pretty, got " ++ text := by
  unfold LogFormat.ofText
  by_cases json : text = "json"
  · simp [json]
  by_cases pretty : text = "pretty"
  · simp [pretty]
  rw [if_neg json, if_neg pretty, Except.error.injEq]
  exact ⟨fun same => ⟨⟨json, pretty⟩, same.symm⟩, fun h => h.2.symm⟩

/-- A number that was read is within its limit. -/
theorem le_of_readWholeDigits {limit acc n : Nat} {digits : List Char} (small : acc ≤ limit)
    (h : readWholeDigits limit acc digits = .ok n) : n ≤ limit := by
  fun_induction readWholeDigits limit acc digits with
  | case1 => exact Except.ok.inj h ▸ small
  | case2 => cases h
  | case3 => cases h
  | case4 acc c digits digit next fits ih => exact ih (Nat.not_lt.mp fits) h

theorem le_of_readWhole {limit n : Nat} (h : readWhole limit text = .ok n) : n ≤ limit := by
  unfold readWhole at h
  split at h
  · cases h
  · cases h
  · exact le_of_readWholeDigits (Nat.zero_le limit) h
  · exact le_of_readWholeDigits (Nat.zero_le limit) h

theorem stripped_iff {base : String} : Stripped text base ↔ base = withoutSlashes text := by
  unfold Stripped withoutSlashes
  constructor
  · rintro ⟨⟨count, split⟩, bare⟩
    have kept : base.toList.reverse.dropWhile (· = '/') = base.toList.reverse := by
      rw [List.dropWhile_eq_self_iff]
      intro some
      rw [List.getLast?_eq_head?_reverse, List.head?_eq_getElem?,
        List.getElem?_eq_getElem some, ne_eq, Option.some.injEq] at bare
      simpa using bare
    rw [split, List.reverse_append, List.reverse_replicate,
      List.dropWhile_append_of_pos (fun c hmem => by simp [List.eq_of_mem_replicate hmem]), kept,
      List.reverse_reverse, String.ofList_toList]
  · rintro rfl
    rw [String.toList_ofList]
    refine ⟨⟨(text.toList.reverse.takeWhile (· = '/')).length, ?_⟩, ?_⟩
    · have slashes : text.toList.reverse.takeWhile (· = '/')
          = List.replicate (text.toList.reverse.takeWhile (· = '/')).length '/' := by
        refine List.eq_replicate_iff.mpr ⟨rfl, fun c hmem => ?_⟩
        simpa using List.mem_takeWhile_imp hmem
      rw [← List.reverse_replicate, ← slashes, ← List.reverse_append,
        List.takeWhile_append_dropWhile, List.reverse_reverse]
    · rw [List.getLast?_reverse]
      intro last
      have := List.head?_dropWhile_not (· = '/') text.toList.reverse
      rw [last] at this
      simp at this

theorem whole_unique {limit n n' : Nat} (h : readWhole limit text = .ok n)
    (h' : readWhole limit text = .ok n') : n = n' :=
  Except.ok.inj (h.symm.trans h')

theorem chain_unique {chain chain' : ChainId} (h : IsChain text chain) (h' : IsChain text chain') :
    chain = chain' := by
  rw [IsChain, ← Hex.decode_eq_ok_iff] at h h'
  obtain ⟨bytes, length⟩ := chain
  obtain ⟨bytes', length'⟩ := chain'
  obtain rfl : bytes = bytes' := Except.ok.inj (h.symm.trans h')
  rfl

theorem stripped_unique {base base' : String} (h : Stripped text base) (h' : Stripped text base') :
    base = base' :=
  (stripped_iff.mp h).trans (stripped_iff.mp h').symm

theorem format_unique {format format' : LogFormat} (h : text = format.text)
    (h' : text = format'.text) : format = format' :=
  Except.ok.inj ((logFormat_eq_ok_iff.mpr h).symm.trans (logFormat_eq_ok_iff.mpr h'))

/-! ### What a variable gives -/

/-- The setting that a variable gives: what its text means, or the default if it is not set. -/
inductive Stands {α : Type} (Means : String → α → Prop) (default : α) : Option String → α → Prop
  | unset : Stands Means default none default
  | set {text : String} {value : α} (means : Means text value) :
      Stands Means default (some text) value

/-- The variable is set to a text with which something is wrong. -/
inductive Invalid (settings : Variables) (name : String) (Wrong : String → String → Prop) :
    Error → Prop
  | set {text reason : String} (set : settings name = some text) (wrong : Wrong text reason) :
      Invalid settings name Wrong (.invalid name text reason)

section Variable

variable {α : Type} {Means : String → α → Prop} {default value : α}

/-- What a text means settles what its variable gives. -/
theorem Stands.unique {text? other? : Option String} {value' : α}
    (h : Stands Means default text? value) (h' : Stands Means default other? value')
    (unique : ∀ {text value value'}, Means text value → Means text value' → value = value')
    (same : text? = other?) : value = value' := by
  subst same
  cases h with
  | unset =>
      cases h' with
      | unset => rfl
  | set means =>
      cases h' with
      | set means' => exact unique means means'

/-- A variable of which every text means something gives that, or else the default. -/
theorem stands_iff_getD {f : String → α} {text? : Option String}
    (means : ∀ {text value}, Means text value ↔ value = f text) :
    Stands Means default text? value ↔ value = (text?.map f).getD default := by
  constructor
  · rintro (_ | own)
    · rfl
    · exact means.mp own
  · rintro rfl
    cases text? with
    | none => exact .unset
    | some text => exact .set (means.mpr rfl)

/-- What holds of the default and of what texts mean holds of what a variable gives. -/
theorem Stands.holds {P : α → Prop} {text? : Option String} (h : Stands Means default text? value)
    (unset : P default) (means : ∀ {text value}, Means text value → P value) : P value := by
  cases h with
  | unset => exact unset
  | set own => exact means own

/-- A variable gives something if its text means something, or if it is not set. -/
theorem exists_stands_iff {text? : Option String} :
    (∃ value, Stands Means default text? value) ↔
      ∀ text, text? = some text → ∃ value, Means text value := by
  constructor
  · rintro ⟨value, unset | own⟩ text set
    · cases set
    · obtain rfl := Option.some.inj set
      exact ⟨value, own⟩
  · intro means
    cases text? with
    | none => exact ⟨default, .unset⟩
    | some text =>
        obtain ⟨value, own⟩ := means text rfl
        exact ⟨value, .set own⟩

theorem setting_eq_ok_iff {read : String → Except String α}
    (means : ∀ {text value}, read text = .ok value ↔ Means text value) :
    setting settings name read default = .ok value ↔
      Stands Means default (settings name) value := by
  unfold setting
  cases settings name with
  | none =>
      constructor
      · intro h
        obtain rfl := Except.ok.inj h
        exact .unset
      · rintro ⟨⟩
        rfl
  | some text =>
      rw [Except.mapError_eq_ok_iff, means]
      constructor
      · exact .set
      · rintro ⟨⟩
        assumption

theorem setting_eq_error_iff {read : String → Except String α} {Wrong : String → String → Prop}
    (wrong : ∀ {text reason}, read text = .error reason ↔ Wrong text reason) :
    setting settings name read default = .error error ↔ Invalid settings name Wrong error := by
  unfold setting
  constructor
  · intro h
    cases set : settings name with
    | none =>
        rw [set] at h
        cases h
    | some text =>
        rw [set] at h
        obtain ⟨reason, unread, rfl⟩ := Except.mapError_eq_error_iff.mp h
        exact .set set (wrong.mp unread)
  · rintro ⟨set, h⟩
    rw [set]
    exact Except.mapError_eq_error_iff.mpr ⟨_, wrong.mpr h, rfl⟩

end Variable

/-- A text that stands for itself. -/
theorem stands_eq_iff {text? : Option String} {default value : String} :
    Stands Eq default text? value ↔ value = text?.getD default := by
  have own : Stands Eq default text? value ↔ value = (text?.map id).getD default :=
    stands_iff_getD eq_comm
  rwa [Option.map_id, id] at own

/-- The two paths are set together, or neither is. -/
inductive TlsStands : Option String → Option String → Option TlsPaths → Prop
  | unset : TlsStands none none none
  | set {certificate key : String} :
      TlsStands (some certificate) (some key) (some ⟨certificate, key⟩)

theorem exists_tlsStands_iff {certificate key : Option String} :
    (∃ tls, TlsStands certificate key tls) ↔ certificate.isSome = key.isSome := by
  constructor
  · rintro ⟨tls, -, -⟩ <;> rfl
  · intro together
    cases certificate with
    | none =>
        cases key with
        | none => exact ⟨none, .unset⟩
        | some key => cases together
    | some certificate =>
        cases key with
        | none => cases together
        | some key => exact ⟨some ⟨certificate, key⟩, .set⟩

theorem TlsStands.unique {certificate key certificate' key' : Option String}
    {tls tls' : Option TlsPaths} (h : TlsStands certificate key tls)
    (h' : TlsStands certificate' key' tls') (certificates : certificate = certificate')
    (keys : key = key') : tls = tls' := by
  subst certificates keys
  cases h with
  | unset =>
      cases h' with
      | unset => rfl
  | set =>
      cases h' with
      | set => rfl

/-- Every setting is what its own variable gives. -/
structure Fits (settings : Variables) (config : Config) : Prop where
  host : Stands (fun text address => Net.Address.ofText? text = some address)
    (.v4 ⟨[0, 0, 0, 0]⟩) (settings "HOST") config.host
  port : Stands (fun text n => readWhole 0xFFFF text = .ok n) 8080 (settings "PORT")
    config.port.toNat
  chain : Stands IsChain .mainnet (settings "CHAIN_ID") config.chain
  nodeUrl : Stands Eq "https://prodnet.scorum.com" (settings "BLOCKCHAIN_RPC_URL") config.nodeUrl
  timeout : Stands (fun text n => readWhole limit64 text = .ok n) 5000
    (settings "AUTHORITY_TIMEOUT_MS") config.authorityTimeout.count
  waits : 0 < config.authorityTimeout.count
  maxRequestSize : Stands (fun text n => readWhole limit64 text = .ok n) 25000000
    (settings "MAX_REQUEST_SIZE") config.maxRequestSize
  maxFollows : Stands (fun text n => readWhole limit64 text = .ok n) 5000
    (settings "MAX_FOLLOWS") config.policy.maxFollows
  adminAccount : Stands Eq "admin" (settings "ADMIN_ACCOUNT") config.policy.adminAccount
  mediaBaseUrl : Stands Stripped "https://media.scorum.blog" (settings "MEDIA_BASE_URL")
    config.policy.mediaBaseUrl
  notificationsLimit : config.policy.notificationsLimit = 100
  tls : TlsStands (settings "TLS_CERT_PATH") (settings "TLS_KEY_PATH") config.tls
  logFormat : Stands (fun text format => text = LogFormat.text format) .pretty
    (settings "LOG_FORMAT") config.logFormat

/-- Every variable that is set is acceptable by itself, and the two paths are set together. -/
structure Acceptable (settings : Variables) : Prop where
  host : ∀ text, settings "HOST" = some text → ∃ address, Net.Address.ofText? text = some address
  port : ∀ text, settings "PORT" = some text → ∃ n, readWhole 0xFFFF text = .ok n
  chain : ∀ text, settings "CHAIN_ID" = some text →
    ∃ bytes, Hex.Spells text.toList bytes ∧ bytes.length = 32
  timeout : ∀ text, settings "AUTHORITY_TIMEOUT_MS" = some text →
    ∃ n, readWhole limit64 text = .ok n ∧ 0 < n
  maxFollows : ∀ text, settings "MAX_FOLLOWS" = some text → ∃ n, readWhole limit64 text = .ok n
  tls : (settings "TLS_CERT_PATH").isSome = (settings "TLS_KEY_PATH").isSome
  maxRequestSize : ∀ text, settings "MAX_REQUEST_SIZE" = some text →
    ∃ n, readWhole limit64 text = .ok n
  logFormat : ∀ text, settings "LOG_FORMAT" = some text → text = "json" ∨ text = "pretty"

/-- Settings are the same wherever their own variables are. -/
structure Follows (settings other : Variables) (config config' : Config) : Prop where
  host : settings "HOST" = other "HOST" → config.host = config'.host
  port : settings "PORT" = other "PORT" → config.port = config'.port
  chain : settings "CHAIN_ID" = other "CHAIN_ID" → config.chain = config'.chain
  nodeUrl : settings "BLOCKCHAIN_RPC_URL" = other "BLOCKCHAIN_RPC_URL" →
    config.nodeUrl = config'.nodeUrl
  timeout : settings "AUTHORITY_TIMEOUT_MS" = other "AUTHORITY_TIMEOUT_MS" →
    config.authorityTimeout = config'.authorityTimeout
  maxRequestSize : settings "MAX_REQUEST_SIZE" = other "MAX_REQUEST_SIZE" →
    config.maxRequestSize = config'.maxRequestSize
  maxFollows : settings "MAX_FOLLOWS" = other "MAX_FOLLOWS" →
    config.policy.maxFollows = config'.policy.maxFollows
  adminAccount : settings "ADMIN_ACCOUNT" = other "ADMIN_ACCOUNT" →
    config.policy.adminAccount = config'.policy.adminAccount
  mediaBaseUrl : settings "MEDIA_BASE_URL" = other "MEDIA_BASE_URL" →
    config.policy.mediaBaseUrl = config'.policy.mediaBaseUrl
  notificationsLimit : config.policy.notificationsLimit = config'.policy.notificationsLimit
  tls : settings "TLS_CERT_PATH" = other "TLS_CERT_PATH" →
    settings "TLS_KEY_PATH" = other "TLS_KEY_PATH" → config.tls = config'.tls
  logFormat : settings "LOG_FORMAT" = other "LOG_FORMAT" → config.logFormat = config'.logFormat

/-! ### What can be wrong -/

/-- What is checked when settings are loaded. -/
inductive Check
  | host
  | port
  | chain
  | timeout
  | maxFollows
  | tls
  | maxRequestSize
  | logFormat
  deriving DecidableEq, Repr

/-- The checks in the order in which they are made. -/
def Check.all : List Check :=
  [.host, .port, .chain, .timeout, .maxFollows, .tls, .maxRequestSize, .logFormat]

/-- Why a text is no number within the limit. -/
def NotWhole (limit : Nat) (text reason : String) : Prop :=
  ∃ cause, readWhole limit text = .error cause ∧ cause.message = reason

/-- What is wrong with the id of the chain. -/
inductive ChainOffends (settings : Variables) : Error → Prop
  | notHex {text : String} {cause : Hex.Error} (set : settings "CHAIN_ID" = some text)
      (unread : Hex.decode (Bytes.ofText text) = .error cause) :
      ChainOffends settings (.chain (.notHex cause))
  | length {text : String} {bytes : Bytes} (set : settings "CHAIN_ID" = some text)
      (spells : Hex.Spells text.toList bytes) (other : bytes.length ≠ 32) :
      ChainOffends settings (.chain (.length bytes.length))

/-- What is wrong with the time that keys are waited for. -/
inductive TimeoutOffends (settings : Variables) : Error → Prop
  | notWhole {error : Error}
      (invalid : Invalid settings "AUTHORITY_TIMEOUT_MS" (NotWhole limit64) error) :
      TimeoutOffends settings error
  | zero {text : String} (set : settings "AUTHORITY_TIMEOUT_MS" = some text)
      (zero : readWhole limit64 text = .ok 0) :
      TimeoutOffends settings (.invalid "AUTHORITY_TIMEOUT_MS" "0" "must be positive")

/-- What a check finds wrong. -/
def Offends (settings : Variables) (error : Error) : Check → Prop
  | .host => Invalid settings "HOST"
      (fun text reason =>
        Net.Address.ofText? text = none ∧ reason = "invalid IP address syntax") error
  | .port => Invalid settings "PORT" (NotWhole 0xFFFF) error
  | .chain => ChainOffends settings error
  | .timeout => TimeoutOffends settings error
  | .maxFollows => Invalid settings "MAX_FOLLOWS" (NotWhole limit64) error
  | .tls => (settings "TLS_CERT_PATH").isSome ≠ (settings "TLS_KEY_PATH").isSome ∧
      error = .partialTls
  | .maxRequestSize => Invalid settings "MAX_REQUEST_SIZE" (NotWhole limit64) error
  | .logFormat => Invalid settings "LOG_FORMAT"
      (fun text reason => (text ≠ "json" ∧ text ≠ "pretty") ∧
        reason = "expected json or pretty, got " ++ text) error

/-- The first of the checks that finds anything finds the error. -/
def FirstOffence (settings : Variables) (checks : List Check) (error : Error) : Prop :=
  ∃ front check back, checks = front ++ check :: back ∧
    (∀ earlier ∈ front, ∀ cause, ¬ Offends settings cause earlier) ∧
    Offends settings error check

theorem not_firstOffence_nil : ¬ FirstOffence settings [] error := by
  rintro ⟨front, check, back, split, -⟩
  exact absurd split.symm (List.append_ne_nil_of_right_ne_nil _ (List.cons_ne_nil _ _))

theorem firstOffence_cons {check : Check} {checks : List Check} :
    FirstOffence settings (check :: checks) error ↔ Offends settings error check ∨
      (∀ cause, ¬ Offends settings cause check) ∧ FirstOffence settings checks error := by
  constructor
  · rintro ⟨front, found, back, split, passed, offends⟩
    cases front with
    | nil =>
        obtain ⟨rfl, -⟩ := List.cons.inj split
        exact .inl offends
    | cons first front =>
        obtain ⟨rfl, rfl⟩ := List.cons.inj split
        obtain ⟨own, passed⟩ := List.forall_mem_cons.mp passed
        exact .inr ⟨own, front, found, back, rfl, passed, offends⟩
  · rintro (offends | ⟨own, front, found, back, rfl, passed, offends⟩)
    · exact ⟨[], check, checks, rfl, by simp, offends⟩
    · exact ⟨check :: front, found, back, rfl, List.forall_mem_cons.mpr ⟨own, passed⟩, offends⟩

/-- A step that fails as its check says, and then the others. -/
theorem bind_eq_error_iff_firstOffence {α β : Type} {check : Check} {checks : List Check}
    {step : Except Error α} {next : α → Except Error β}
    (own : ∀ {error}, step = .error error ↔ Offends settings error check)
    (others : ∀ {value}, step = .ok value →
      (next value = .error error ↔ FirstOffence settings checks error)) :
    (step >>= next) = .error error ↔ FirstOffence settings (check :: checks) error := by
  rw [Except.bind_eq_error_iff, firstOffence_cons, own]
  refine or_congr_right ?_
  cases h : step with
  | error cause =>
      constructor
      · rintro ⟨value, h', -⟩
        cases h'
      · rintro ⟨passed, -⟩
        exact absurd (own.mp h) (passed cause)
  | ok value =>
      have passed (cause : Error) : ¬ Offends settings cause check := by
        intro offends
        cases h.symm.trans (own.mpr offends)
      constructor
      · rintro ⟨value', h', failed⟩
        obtain rfl := Except.ok.inj h'
        exact ⟨passed, (others h).mp failed⟩
      · rintro ⟨-, first⟩
        exact ⟨value, rfl, (others h).mpr first⟩

/-! ### The steps of loading -/

theorem ofHex_eq_ok_iff {chain : ChainId} :
    ChainId.ofHex text = .ok chain ↔ IsChain text chain := by
  rw [IsChain, ← Hex.decode_eq_ok_iff]
  unfold ChainId.ofHex
  cases Hex.decode (Bytes.ofText text) with
  | error cause => simp
  | ok bytes =>
      by_cases length : bytes.length = 32
      · obtain ⟨own, thirtyTwo⟩ := chain
        simp [length]
      · simp only [length, dite_false, reduceCtorEq, Except.ok.injEq, false_iff]
        rintro rfl
        exact length chain.length_eq

theorem ofHex_eq_error_iff {cause : ChainId.Error} :
    ChainId.ofHex text = .error cause ↔
      (∃ reason, Hex.decode (Bytes.ofText text) = .error reason ∧ cause = .notHex reason) ∨
        ∃ bytes, Hex.Spells text.toList bytes ∧ bytes.length ≠ 32 ∧
          cause = .length bytes.length := by
  simp only [← Hex.decode_eq_ok_iff]
  unfold ChainId.ofHex
  cases Hex.decode (Bytes.ofText text) with
  | error reason => simp [eq_comm]
  | ok bytes =>
      by_cases length : bytes.length = 32
      · simp [length]
      · simp [length, eq_comm]

theorem chainId_eq_ok_iff {chain : ChainId} :
    chainId settings = .ok chain ↔ Stands IsChain .mainnet (settings "CHAIN_ID") chain := by
  unfold chainId
  cases settings "CHAIN_ID" with
  | none =>
      constructor
      · intro h
        obtain rfl := Except.ok.inj h
        exact .unset
      · rintro ⟨⟩
        rfl
  | some text =>
      rw [Except.mapError_eq_ok_iff, ofHex_eq_ok_iff]
      constructor
      · exact .set
      · rintro ⟨⟩
        assumption

theorem chainId_eq_error_iff : chainId settings = .error error ↔ ChainOffends settings error := by
  unfold chainId
  constructor
  · intro h
    split at h
    · cases h
    next text set =>
      obtain ⟨cause, unread, rfl⟩ := Except.mapError_eq_error_iff.mp h
      obtain ⟨reason, notHex, rfl⟩ | ⟨bytes, spells, length, rfl⟩ := ofHex_eq_error_iff.mp unread
      · exact .notHex set notHex
      · exact .length set spells length
  · intro h
    cases h with
    | notHex set unread =>
        rw [set]
        exact Except.mapError_eq_error_iff.mpr
          ⟨_, ofHex_eq_error_iff.mpr (.inl ⟨_, unread, rfl⟩), rfl⟩
    | length set spells other =>
        rw [set]
        exact Except.mapError_eq_error_iff.mpr
          ⟨_, ofHex_eq_error_iff.mpr (.inr ⟨_, spells, other, rfl⟩), rfl⟩

/-- The number that a variable gives, within a limit. -/
theorem number_eq_ok_iff {limit default n : Nat} :
    setting settings name (readNumber limit) default = .ok n ↔
      Stands (fun text n => readWhole limit text = .ok n) default (settings name) n :=
  setting_eq_ok_iff readNumber_eq_ok_iff

theorem number_eq_error_iff {limit default : Nat} :
    setting settings name (readNumber limit) default = .error error ↔
      Invalid settings name (NotWhole limit) error :=
  setting_eq_error_iff readNumber_eq_error_iff

theorem timeout_eq_ok_iff {time : Milliseconds} :
    timeout settings = .ok time ↔
      Stands (fun text n => readWhole limit64 text = .ok n) 5000 (settings "AUTHORITY_TIMEOUT_MS")
        time.count ∧ 0 < time.count := by
  rw [← number_eq_ok_iff]
  unfold timeout defaultTimeout
  split
  next cause unread => simp [unread]
  next zero =>
    simp only [zero, Except.ok.injEq, reduceCtorEq, false_iff]
    omega
  next count positive read =>
    rw [read]
    constructor
    · intro h
      obtain rfl := Except.ok.inj h
      exact ⟨rfl, Nat.pos_of_ne_zero positive⟩
    · rintro ⟨same, -⟩
      rw [Except.ok.inj same]

theorem timeout_eq_error_iff : timeout settings = .error error ↔ TimeoutOffends settings error := by
  constructor
  · intro h
    unfold timeout at h
    split at h
    next cause unread =>
      obtain rfl := Except.error.inj h
      exact .notWhole (number_eq_error_iff.mp unread)
    next zero =>
      obtain rfl := Except.error.inj h
      rw [number_eq_ok_iff] at zero
      cases set : settings "AUTHORITY_TIMEOUT_MS" with
      | none =>
          rw [set] at zero
          cases zero
      | some text =>
          rw [set] at zero
          cases zero with
          | set means => exact .zero set means
    next => cases h
  · rintro (⟨invalid⟩ | ⟨set, zero⟩)
    · unfold timeout
      rw [number_eq_error_iff.mpr invalid]
    · have read : setting settings "AUTHORITY_TIMEOUT_MS" (readNumber limit64) defaultTimeout
          = .ok 0 := by
        rw [number_eq_ok_iff, set]
        exact .set zero
      unfold timeout
      rw [read]
      rfl

theorem policyOf_eq_ok_iff {policy : Blog.Policy} :
    policyOf settings = .ok policy ↔
      Stands (fun text n => readWhole limit64 text = .ok n) 5000 (settings "MAX_FOLLOWS")
        policy.maxFollows ∧
      Stands Eq "admin" (settings "ADMIN_ACCOUNT") policy.adminAccount ∧
      Stands Stripped "https://media.scorum.blog" (settings "MEDIA_BASE_URL") policy.mediaBaseUrl ∧
      policy.notificationsLimit = 100 := by
  have media : Stands Stripped "https://media.scorum.blog" (settings "MEDIA_BASE_URL")
      policy.mediaBaseUrl ↔ policy.mediaBaseUrl
        = ((settings "MEDIA_BASE_URL").map withoutSlashes).getD "https://media.scorum.blog" :=
    stands_iff_getD stripped_iff
  rw [media, stands_eq_iff, ← number_eq_ok_iff]
  unfold policyOf
  simp only [Except.bind_eq_ok_iff]
  constructor
  · rintro ⟨maxFollows, read, built⟩
    obtain rfl := Except.ok.inj built
    exact ⟨read, rfl, rfl, rfl⟩
  · rintro ⟨read, admin, media, limit⟩
    refine ⟨policy.maxFollows, read, congrArg Except.ok ?_⟩
    obtain ⟨maxFollows, adminAccount, mediaBaseUrl, notificationsLimit⟩ := policy
    simp_all [Blog.Policy.default]

theorem policyOf_eq_error_iff :
    policyOf settings = .error error ↔ Invalid settings "MAX_FOLLOWS" (NotWhole limit64) error := by
  unfold policyOf
  rw [Except.bind_eq_error_iff, ← number_eq_error_iff]
  refine or_iff_left ?_
  rintro ⟨maxFollows, -, h⟩
  cases h

theorem tlsPaths_eq_ok_iff {tls : Option TlsPaths} :
    tlsPaths settings = .ok tls ↔
      TlsStands (settings "TLS_CERT_PATH") (settings "TLS_KEY_PATH") tls := by
  unfold tlsPaths
  generalize settings "TLS_CERT_PATH" = certificate, settings "TLS_KEY_PATH" = key
  constructor
  · intro h
    split at h
    · obtain rfl := Except.ok.inj h
      exact .set
    · obtain rfl := Except.ok.inj h
      exact .unset
    · cases h
  · rintro ⟨⟩ <;> rfl

theorem tlsPaths_eq_error_iff :
    tlsPaths settings = .error error ↔
      (settings "TLS_CERT_PATH").isSome ≠ (settings "TLS_KEY_PATH").isSome ∧
        error = .partialTls := by
  unfold tlsPaths
  cases settings "TLS_CERT_PATH" <;> cases settings "TLS_KEY_PATH" <;> simp [eq_comm]

/-! ### Loading -/

/-- The number of a port fits into 16 bits. -/
theorem port_eq_ok_iff {port : UInt16} :
    (∃ n, setting settings "PORT" (readNumber 0xFFFF) 8080 = .ok n ∧ n.toUInt16 = port) ↔
      Stands (fun text n => readWhole 0xFFFF text = .ok n) 8080 (settings "PORT") port.toNat := by
  rw [← number_eq_ok_iff]
  constructor
  · rintro ⟨n, read, rfl⟩
    have small : n < UInt16.size :=
      (number_eq_ok_iff.mp read).holds (by decide) fun own =>
        Nat.lt_succ_of_le (le_of_readWhole own)
    rw [read, Nat.toUInt16, UInt16.toNat_ofNat_of_lt' small]
  · intro read
    exact ⟨port.toNat, read, UInt16.ofNat_toNat⟩

/-- Settings are loaded when each is what its own variable gives. -/
theorem load_eq_ok_iff : load settings = .ok config ↔ Fits settings config := by
  unfold load
  simp only [Except.bind_eq_ok_iff]
  constructor
  · rintro ⟨host, readHost, port, readPort, chain, readChain, time, readTime, policy, readPolicy,
      tls, readTls, size, readSize, format, readFormat, built⟩
    obtain rfl := Except.ok.inj built
    obtain ⟨timeout, waits⟩ := timeout_eq_ok_iff.mp readTime
    obtain ⟨maxFollows, admin, media, notifications⟩ := policyOf_eq_ok_iff.mp readPolicy
    exact
      { host := (setting_eq_ok_iff readAddress_eq_ok_iff).mp readHost
        port := port_eq_ok_iff.mp ⟨port, readPort, rfl⟩
        chain := chainId_eq_ok_iff.mp readChain
        nodeUrl := stands_eq_iff.mpr rfl
        timeout := timeout
        waits := waits
        maxRequestSize := number_eq_ok_iff.mp readSize
        maxFollows := maxFollows
        adminAccount := admin
        mediaBaseUrl := media
        notificationsLimit := notifications
        tls := tlsPaths_eq_ok_iff.mp readTls
        logFormat := (setting_eq_ok_iff logFormat_eq_ok_iff).mp readFormat }
  · intro fits
    obtain ⟨port, readPort, samePort⟩ := port_eq_ok_iff.mpr fits.port
    refine ⟨config.host, (setting_eq_ok_iff readAddress_eq_ok_iff).mpr fits.host,
      port, readPort,
      config.chain, chainId_eq_ok_iff.mpr fits.chain,
      config.authorityTimeout, timeout_eq_ok_iff.mpr ⟨fits.timeout, fits.waits⟩,
      config.policy, policyOf_eq_ok_iff.mpr
        ⟨fits.maxFollows, fits.adminAccount, fits.mediaBaseUrl, fits.notificationsLimit⟩,
      config.tls, tlsPaths_eq_ok_iff.mpr fits.tls,
      config.maxRequestSize, number_eq_ok_iff.mpr fits.maxRequestSize,
      config.logFormat, (setting_eq_ok_iff logFormat_eq_ok_iff).mpr fits.logFormat, ?_⟩
    rw [samePort, ← stands_eq_iff.mp fits.nodeUrl]
    rfl

/-- Loading fails with what the first check that finds something wrong says of it. -/
theorem load_eq_error_iff :
    load settings = .error error ↔ FirstOffence settings Check.all error := by
  unfold load Check.all
  refine bind_eq_error_iff_firstOffence (setting_eq_error_iff readAddress_eq_error_iff) fun _ => ?_
  refine bind_eq_error_iff_firstOffence number_eq_error_iff fun _ => ?_
  refine bind_eq_error_iff_firstOffence chainId_eq_error_iff fun _ => ?_
  refine bind_eq_error_iff_firstOffence timeout_eq_error_iff fun _ => ?_
  refine bind_eq_error_iff_firstOffence policyOf_eq_error_iff fun _ => ?_
  refine bind_eq_error_iff_firstOffence tlsPaths_eq_error_iff fun _ => ?_
  refine bind_eq_error_iff_firstOffence number_eq_error_iff fun _ => ?_
  refine bind_eq_error_iff_firstOffence (setting_eq_error_iff logFormat_eq_error_iff) fun _ => ?_
  constructor
  · intro h
    cases h
  · intro h
    exact absurd h not_firstOffence_nil

/-- A number that is read as one is not reported. -/
theorem not_invalid_of_read {limit : Nat}
    (read : ∀ text, settings name = some text → ∃ n, readWhole limit text = .ok n) :
    ¬ Invalid settings name (NotWhole limit) error := by
  rintro ⟨set, cause, unread, -⟩
  obtain ⟨n, own⟩ := read _ set
  cases unread.symm.trans own

/-- No check finds anything wrong with acceptable variables. -/
theorem Acceptable.not_offends {check : Check} (acceptable : Acceptable settings) :
    ¬ Offends settings error check := by
  cases check with
  | host =>
      rintro ⟨set, unread, -⟩
      obtain ⟨address, read⟩ := acceptable.host _ set
      cases unread.symm.trans read
  | port => exact not_invalid_of_read acceptable.port
  | chain =>
      rintro (⟨set, unread⟩ | ⟨set, spells, other⟩)
      · obtain ⟨bytes, own, -⟩ := acceptable.chain _ set
        cases unread.symm.trans (Hex.decode_eq_ok_iff.mpr own)
      · obtain ⟨bytes, own, length⟩ := acceptable.chain _ set
        have same := (Hex.decode_eq_ok_iff.mpr spells).symm.trans (Hex.decode_eq_ok_iff.mpr own)
        exact other (Except.ok.inj same ▸ length)
  | timeout =>
      rintro (⟨invalid⟩ | ⟨set, zero⟩)
      · refine not_invalid_of_read (fun text set => ?_) invalid
        obtain ⟨n, read, -⟩ := acceptable.timeout text set
        exact ⟨n, read⟩
      · obtain ⟨n, read, positive⟩ := acceptable.timeout _ set
        exact positive.ne (Except.ok.inj (zero.symm.trans read))
  | maxFollows => exact not_invalid_of_read acceptable.maxFollows
  | tls => exact fun offends => offends.1 acceptable.tls
  | maxRequestSize => exact not_invalid_of_read acceptable.maxRequestSize
  | logFormat =>
      rintro ⟨set, ⟨json, pretty⟩, -⟩
      exact (acceptable.logFormat _ set).elim json pretty

/-- There are settings to load when every variable is acceptable. -/
theorem exists_fits_iff : (∃ config, Fits settings config) ↔ Acceptable settings := by
  constructor
  · rintro ⟨config, fits⟩
    exact
      { host := exists_stands_iff.mp ⟨_, fits.host⟩
        port := exists_stands_iff.mp ⟨_, fits.port⟩
        chain := by
          intro text set
          obtain ⟨chain, spells⟩ := exists_stands_iff.mp ⟨_, fits.chain⟩ text set
          exact ⟨chain.bytes, spells, chain.length_eq⟩
        timeout := by
          intro text set
          have own := fits.timeout
          rw [set] at own
          cases own with
          | set read => exact ⟨_, read, fits.waits⟩
        maxFollows := exists_stands_iff.mp ⟨_, fits.maxFollows⟩
        tls := exists_tlsStands_iff.mp ⟨_, fits.tls⟩
        maxRequestSize := exists_stands_iff.mp ⟨_, fits.maxRequestSize⟩
        logFormat := by
          intro text set
          obtain ⟨format, rfl⟩ := exists_stands_iff.mp ⟨_, fits.logFormat⟩ text set
          cases format with
          | json => exact .inl rfl
          | pretty => exact .inr rfl }
  · intro acceptable
    cases loaded : load settings with
    | ok config => exact ⟨config, load_eq_ok_iff.mp loaded⟩
    | error cause =>
        obtain ⟨front, check, back, -, -, offends⟩ := load_eq_error_iff.mp loaded
        exact absurd offends acceptable.not_offends

/-- Two loadings agree on a setting whenever its variable is the same in both. -/
theorem Fits.follows (fits : Fits settings config) (fits' : Fits other config') :
    Follows settings other config config' where
  host := fits.host.unique fits'.host fun own own' => Option.some.inj (own.symm.trans own')
  port same := UInt16.toNat_inj.mp (fits.port.unique fits'.port whole_unique same)
  chain := fits.chain.unique fits'.chain chain_unique
  nodeUrl := fits.nodeUrl.unique fits'.nodeUrl fun own own' => own.symm.trans own'
  timeout same := congrArg Milliseconds.mk (fits.timeout.unique fits'.timeout whole_unique same)
  maxRequestSize := fits.maxRequestSize.unique fits'.maxRequestSize whole_unique
  maxFollows := fits.maxFollows.unique fits'.maxFollows whole_unique
  adminAccount := fits.adminAccount.unique fits'.adminAccount fun own own' => own.symm.trans own'
  mediaBaseUrl := fits.mediaBaseUrl.unique fits'.mediaBaseUrl stripped_unique
  notificationsLimit := fits.notificationsLimit.trans fits'.notificationsLimit.symm
  tls := fits.tls.unique fits'.tls
  logFormat := fits.logFormat.unique fits'.logFormat format_unique

/-- **Settings are loaded variable by variable.**

Loading succeeds just when every variable that is set is acceptable by itself.  The settings are
then what their own variables give, whatever the others are, and otherwise the error is that of
the first check, in the order of the checks, that finds something wrong. -/
theorem load_fieldwise (settings : Variables) :
    ((∃ config, load settings = .ok config) ↔ Acceptable settings) ∧
      (∀ config, load settings = .ok config ↔ Fits settings config) ∧
      (∀ other config config', load settings = .ok config → load other = .ok config' →
        Follows settings other config config') ∧
      ∀ error, load settings = .error error ↔ FirstOffence settings Check.all error := by
  refine ⟨?_, fun config => load_eq_ok_iff, ?_, fun error => load_eq_error_iff⟩
  · rw [← exists_fits_iff]
    exact exists_congr fun config => load_eq_ok_iff
  · intro other config config' loaded loaded'
    exact (load_eq_ok_iff.mp loaded).follows (load_eq_ok_iff.mp loaded')

example : load (fun name => if name = "PORT" then some "http" else if name = "LOG_FORMAT" then
    some "xml" else none) = .error (.invalid "PORT" "http" "invalid digit found in string") := by
  cbv

end BlogGateway.Config
