/-
The keys of an account.

The chain keeps keys at three levels, and a signature with a key of any level is accepted.
In the chain's answers a key is a text: a prefix, and in base 58 the bytes of the key with
four bytes of checksum, which is not looked at.
-/
import BlogGateway.Bytes.Base58
import BlogGateway.Signature

namespace BlogGateway

/-- A span of time in thousandths of a second. -/
structure Milliseconds where
  count : Nat
  deriving DecidableEq, Repr, Inhabited

/-- A span of time as text, in the largest unit that it fills. -/
def Milliseconds.text (span : Milliseconds) : String :=
  let seconds := span.count / 1000
  let rest := span.count % 1000
  if seconds ≠ 0 then
    let digits := (Nat.toDigits 10 (1000 + rest)).drop 1
    let fraction := (digits.reverse.dropWhile (· = '0')).reverse
    toString seconds ++ (if rest = 0 then "" else "." ++ String.ofList fraction) ++ "s"
  else if rest ≠ 0 then toString rest ++ "ms"
  else "0ns"

/-- Why the keys of an account are not known. -/
inductive AuthorityError
  | accountNotFound
  | invalidKey (text : String)
  | noSigningKeys
  | timeout (limit : Milliseconds)
  | cancelled
  /-- The chain could not be asked; the detail is for the operator only. -/
  | unavailable (detail : String)
  deriving DecidableEq, Repr

/-- The text of an error, without anything that came from the chain's node. -/
def AuthorityError.message : AuthorityError → String
  | .accountNotFound => "account not found"
  | .invalidKey text => s!"{text} is not a valid key"
  | .noSigningKeys => "no signing keys"
  | .timeout limit => s!"authority lookup timed out after {limit.text}"
  | .cancelled => "authority lookup cancelled"
  | .unavailable _ => "blockchain node unavailable"

/-- The keys of an account at its three levels. -/
structure KeySet where
  owner : List PublicKey
  active : List PublicKey
  posting : List PublicKey
  deriving DecidableEq, Repr

namespace KeySet

/-- Whether there is no key at any level. -/
def isEmpty (keys : KeySet) : Bool :=
  keys.owner.isEmpty && keys.active.isEmpty && keys.posting.isEmpty

/-- The keys of all levels. -/
def all (keys : KeySet) : List PublicKey := keys.owner ++ keys.active ++ keys.posting

end KeySet

namespace PublicKey

/-- What every key text begins with. -/
def textMark : Bytes := Bytes.ofText "SCR"

/-- How many bytes of checksum a key text ends with. -/
def checksumLength : Nat := 4

/-- The bytes of a key text without its checksum. -/
def textBytes? (text : String) : Option Bytes := do
  let marked := Bytes.ofText text
  if !textMark.isPrefixOf marked then none
  let decoded ← Base58.decode? (marked.drop textMark.length)
  if decoded.length < checksumLength then none
  else some (decoded.take (decoded.length - checksumLength))

/-- Reads a key text. -/
def parse (text : String) : Except AuthorityError PublicKey :=
  match textBytes? text with
  | none => .error (.invalidKey text)
  | some bytes => (ofBytes bytes).mapError fun _ => .invalidKey text

/-- Reads the key texts of one level. -/
def parseAll (texts : List String) : Except AuthorityError (List PublicKey) :=
  texts.mapM parse

end PublicKey

/-- The keys whose texts are given level by level. -/
def KeySet.parse (owner active posting : List String) : Except AuthorityError KeySet := do
  let owner ← PublicKey.parseAll owner
  let active ← PublicKey.parseAll active
  let posting ← PublicKey.parseAll posting
  pure ⟨owner, active, posting⟩

end BlogGateway
