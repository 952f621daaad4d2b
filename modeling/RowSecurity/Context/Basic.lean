/-
The context of one request.

* `Context`: resource, role, policy and identifiers of the caller.

Design notes: a context is made once and handed on. Its policy is as it was given, which
need not be a ready one; what it means is decided where it is used.
-/
import RowSecurity.Config
import RowSecurity.Policy.Basic

namespace RowSecurity

/-- The resource that a request reads, the caller's role, the policy for the two, and the
identifiers of the caller. -/
structure Context where
  resource : String
  role : String
  policy : PolicyValue
  identifiers : Fields
deriving DecidableEq, Repr

namespace Context

/-- The id of the user, null if there is none. -/
def userId (context : Context) : Value := context.identifiers.get userIdKey

/-- Whether what is read must have been filtered. -/
def requiresFiltering (context : Context) : Bool := context.policy != .ready .allRecords

def description (context : Context) : String := context.policy.description

end Context

end RowSecurity
