/-
Settings of the gateway.

Settings come from named variables.  One that is not set has a default; one that is set has
to be right, and the first that is not, in a fixed order, is reported.
-/
import BlogGateway.Authority.Keys
import BlogGateway.Blog.Store
import BlogGateway.Chain
import BlogGateway.Net.Address
import BlogGateway.Text.Quoted
import BlogGateway.Text.Whole

namespace BlogGateway

open Text

/-- How reports are written. -/
inductive LogFormat
  | json
  | pretty
  deriving DecidableEq, Repr

namespace LogFormat

/-- The name of a format. -/
def text : LogFormat → String
  | .json => "json"
  | .pretty => "pretty"

/-- The format of a name, or what is wrong with the name. -/
def ofText (text : String) : Except String LogFormat :=
  if text = "json" then .ok .json
  else if text = "pretty" then .ok .pretty
  else .error s!"expected json or pretty, got {text}"

end LogFormat

/-- Where certificate and key for encrypted connections are. -/
structure TlsPaths where
  certificate : String
  key : String
  deriving DecidableEq, Repr

/-- The settings of the gateway. -/
structure Config where
  host : Net.Address
  port : UInt16
  chain : ChainId
  /-- Where the chain's node is asked. -/
  nodeUrl : String
  authorityTimeout : Milliseconds
  /-- How many bytes a request may have. -/
  maxRequestSize : Nat
  policy : Blog.Policy
  tls : Option TlsPaths
  logFormat : LogFormat
  deriving DecidableEq, Repr

namespace Config

/-- What is wrong with the settings. -/
inductive Error
  /-- A variable has a value that cannot be used. -/
  | invalid (name value reason : String)
  | chain (cause : ChainId.Error)
  /-- One of the two paths for encrypted connections is missing. -/
  | partialTls
  deriving DecidableEq, Repr

/-- The text of an error. -/
def Error.message : Error → String
  | .invalid name value reason => s!"{name} has an invalid value {quoted value}: {reason}"
  | .chain cause => s!"invalid CHAIN_ID: {cause.message}"
  | .partialTls => "TLS_CERT_PATH and TLS_KEY_PATH must be set together"

/-- The variables that are set. -/
abbrev Variables := String → Option String

/-- The largest number of 64 bits. -/
def limit64 : Nat := 0xFFFFFFFFFFFFFFFF

/-- Reads an address. -/
def readAddress (text : String) : Except String Net.Address :=
  match Net.Address.ofText? text with
  | some address => .ok address
  | none => .error "invalid IP address syntax"

/-- Reads a number up to a limit. -/
def readNumber (limit : Nat) (text : String) : Except String Nat :=
  (readWhole limit text).mapError WholeError.message

/-- The value of a variable, or the default of one that is not set. -/
def setting {α : Type} (settings : Variables) (name : String)
    (read : String → Except String α) (default : α) : Except Error α :=
  match settings name with
  | none => .ok default
  | some value => (read value).mapError (.invalid name value)

/-- How long keys are waited for when nothing is said about it. -/
def defaultTimeout : Nat := 5000

/-- Reads how long keys are waited for, which has to be some time. -/
def timeout (settings : Variables) : Except Error Milliseconds :=
  match setting settings "AUTHORITY_TIMEOUT_MS" (readNumber limit64) defaultTimeout with
  | .error cause => .error cause
  | .ok 0 => .error (.invalid "AUTHORITY_TIMEOUT_MS" "0" "must be positive")
  | .ok count => .ok ⟨count⟩

/-- Reads the id of the chain. -/
def chainId (settings : Variables) : Except Error ChainId :=
  match settings "CHAIN_ID" with
  | none => .ok .mainnet
  | some text => (ChainId.ofHex text).mapError .chain

/-- A text without the slashes at its end. -/
def withoutSlashes (text : String) : String :=
  String.ofList (text.toList.reverse.dropWhile (· = '/')).reverse

/-- Reads the policy of the blog. -/
def policyOf (settings : Variables) : Except Error Blog.Policy := do
  let default := Blog.Policy.default
  let maxFollows ← setting settings "MAX_FOLLOWS" (readNumber limit64) default.maxFollows
  pure { default with
    maxFollows := maxFollows
    adminAccount := (settings "ADMIN_ACCOUNT").getD default.adminAccount
    mediaBaseUrl := ((settings "MEDIA_BASE_URL").map withoutSlashes).getD default.mediaBaseUrl }

/-- Reads the paths for encrypted connections. -/
def tlsPaths (settings : Variables) : Except Error (Option TlsPaths) :=
  match settings "TLS_CERT_PATH", settings "TLS_KEY_PATH" with
  | some certificate, some key => .ok (some ⟨certificate, key⟩)
  | none, none => .ok none
  | _, _ => .error .partialTls

/-- Reads all settings. -/
def load (settings : Variables) : Except Error Config := do
  let host ← setting settings "HOST" readAddress (.v4 ⟨[0, 0, 0, 0]⟩)
  let port ← setting settings "PORT" (readNumber 0xFFFF) 8080
  let chain ← chainId settings
  let authorityTimeout ← timeout settings
  let policy ← policyOf settings
  let tls ← tlsPaths settings
  let maxRequestSize ← setting settings "MAX_REQUEST_SIZE" (readNumber limit64) 25000000
  let logFormat ← setting settings "LOG_FORMAT" LogFormat.ofText .pretty
  pure {
    host := host
    port := port.toUInt16
    chain := chain
    nodeUrl := (settings "BLOCKCHAIN_RPC_URL").getD "https://prodnet.scorum.com"
    authorityTimeout := authorityTimeout
    maxRequestSize := maxRequestSize
    policy := policy
    tls := tls
    logFormat := logFormat }

/-- The address that the gateway listens at. -/
def bindAddress (config : Config) : String := config.host.withPort config.port

end Config

end BlogGateway
