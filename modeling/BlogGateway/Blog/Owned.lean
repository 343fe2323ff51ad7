/-
Names within an account.

Media, drafts and posts are each named by an account and by a name that only has to differ
from the account's other names.  They are ordered by account and then by name, which is the
order of every listing that goes by name.
-/
import Std.Data.ExtTreeMap

namespace BlogGateway.Blog

/-- A name within an account. -/
structure Owned where
  account : String
  name : String
  deriving DecidableEq, Repr, Inhabited

namespace Owned

instance : Ord Owned where
  compare := compareLex (compareOn account) (compareOn name)

instance : Std.TransOrd Owned :=
  inferInstanceAs (Std.TransCmp (compareLex (compareOn account) (compareOn name)))

instance : Std.LawfulEqOrd Owned where
  eq_of_compare {a b} h := by
    have parts : compareOn account a b = .eq ∧ compareOn name a b = .eq :=
      Ordering.then_eq_eq.mp h
    have sameAccount : a.account = b.account := Std.LawfulEqOrd.eq_of_compare parts.1
    have sameName : a.name = b.name := Std.LawfulEqOrd.eq_of_compare parts.2
    cases a
    cases b
    simp_all

end Owned

end BlogGateway.Blog
