/-
Asking for the keys of an account.

A source of keys answers, or does not answer in time.  A lookup is bounded: it is given up
when the gateway stops or when the deadline has passed, and an account without keys is an
error, since nobody could sign for it.
-/
import BlogGateway.Authority.Keys

namespace BlogGateway

/-- What a source of keys does when it is asked. -/
inductive Lookup
  | answered (result : Except AuthorityError KeySet)
  /-- There is no answer before the deadline. -/
  | pending

/-- A source of keys with the bounds of a lookup. -/
structure Authority where
  ask : String → Lookup
  timeout : Milliseconds
  /-- The gateway has been told to stop. -/
  stopping : Bool

namespace Authority

/-- The keys of an account, of which there is at least one. -/
def resolve (authority : Authority) (account : String) : Except AuthorityError KeySet :=
  if authority.stopping then .error .cancelled
  else match authority.ask account with
    | .pending => .error (.timeout authority.timeout)
    | .answered (.error cause) => .error cause
    | .answered (.ok keys) => if keys.isEmpty then .error .noSigningKeys else .ok keys

end Authority

end BlogGateway
