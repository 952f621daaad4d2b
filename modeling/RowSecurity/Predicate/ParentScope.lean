/-
The predicate of a resource whose parent decides for it.

* `scope`: follow links from a resource until some policy decides for itself;
* `parentScoped`: the same for a request's context.

Design notes: the number of links that may still be followed is an argument that each step
lowers, so a cycle of links ends in a denial. The stack is another, on which each step is one call
further in, so a path of links may be too long for it before it is too long for the
configuration. The caller's rows are those whose foreign key is among the keys of the parent rows
that the caller may see.
-/
import RowSecurity.Context.Basic
import RowSecurity.Policy.ParentLink
import RowSecurity.Policy.Table
import RowSecurity.Predicate.Interpret
import RowSecurity.Predicate.Stack

namespace RowSecurity

open Audit

/-- What following links depends on and leaves alone. -/
structure ScopeSetting where
  config : Config
  links : LinkRegistry
  lookup : Lookup
  role : String
  identifiers : Fields
  offset : Int

/-- The condition that the child's rows belong to parent rows meeting the parent's condition. -/
def ParentLink.membership (link : ParentLink) (childTable parentClause : String) : String :=
  childTable ++ "." ++ link.foreignKey ++ " IN (SELECT " ++ link.parentTable ++ "." ++
    link.parentKey ++ " FROM " ++ link.parentTable ++ " WHERE " ++ parentClause ++ ")"

def missingLinkDetail : String := "$parent policy without a registered parent link; denying"

def longChainDetail (config : Config) : String :=
  "$parent chain deeper than " ++ toString config.maxParentDepth ++ "; denying"

/-- The denial of a link that cannot be followed. -/
def denyLink (stack : Stack) (entity detail : String) (offset : Int) : Traced Predicate :=
  stack.within (.report entity) do
    reportInvalid entity detail
    return .deny offset

/-- The predicate on a child's table that a link and the predicate on its parent's table give. -/
def scopeChild (stack : Stack) (link : ParentLink) (table : String) (offset : Int)
    (parent : Predicate) : Traced Predicate :=
  let childTable := if table = "" then link.childTable else table
  if parent.deniesAll then .ok (.deny offset)
  else if parent.showsAll then .ok (.unrestricted offset)
  else if Text.isTableName childTable = false then denyLink stack childTable badTableDetail offset
  else .ok (.restrict (link.membership childTable parent.clause) parent.values offset)

/-- The predicate of a resource's policy on a table; while the policy delegates, the link of the
resource leads on to its parent, at most `hops` times. -/
def scope (setting : ScopeSetting) :
    (hops : Nat) → (stack : Stack) → (resource : String) → (policy : PolicyValue) →
      (table : String) → Traced Predicate
  | hops, stack, resource, policy, table => do
    let read ← stack.within (.read policy) (.ok (policy.coerce setting.config.defaultValueKey))
    if read = some .parentDelegated then
      -- a missing link is reported even where no further step is allowed
      match setting.links.find? resource with
      | none => denyLink stack resource missingLinkDetail setting.offset
      | some link =>
        match hops with
        | 0 => denyLink stack resource (longChainDetail setting.config) setting.offset
        | hops + 1 => do
          let policy ← stack.within (.lookup link.parentResource)
            (.ofExcept (setting.lookup setting.role link.parentResource))
          let parent ← scope setting hops (stack.below 1) link.parentResource policy
            link.parentTable
          scopeChild stack link table setting.offset parent
    else
      stack.within (.interpret policy table)
        (interpret setting.config policy setting.identifiers table setting.offset)

/-- The predicate of a context whose policy may delegate to a parent. The first step along the links
is the second call on the stack. -/
def parentScoped (config : Config) (lookup : Lookup) (links : LinkRegistry) (context : Context)
    (table : String) (offset : Int) (stack : Stack) : Traced Predicate :=
  scope ⟨config, links, lookup, context.role, context.identifiers, offset⟩ config.maxParentDepth
    (stack.below 2) context.resource context.policy table

end RowSecurity
