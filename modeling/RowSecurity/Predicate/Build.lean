/-
The predicate of a request on the table that it reads.

* `buildPredicate`: the predicate of a request's context, or of a request without one;
* `buildPredicateForKey`: the same for a read by key.

Design notes: a policy that delegates is followed to the parent only if the context holds it
ready and links are given; otherwise it is interpreted like any other, which denies it. Only the
following of links nests calls without end, so only there is account taken of the stack.
-/
import RowSecurity.Predicate.ParentScope

namespace RowSecurity

open Audit

/-- Whether a context leaves the decision to a parent. -/
def Context.delegates (context : Context) : Bool := context.policy == .ready .parentDelegated

/-- The predicate of a request on a table, after `offset` values that are bound elsewhere. A
request without a context has nothing to do with row security. -/
def buildPredicate (config : Config) (lookup : Lookup) (links : Option LinkRegistry)
    (context : Option Context) (table : String) (offset : Int) (stack : Stack) :
    Traced Predicate :=
  match context with
  | none => do
    .note debug ("build_rls_filter: no RLS context for " ++ tableForLog table)
    return .unapplied
  | some context =>
    match links, context.delegates with
    | some links, true => parentScoped config lookup links context table offset (stack.below 1)
    | _, _ => interpret config context.policy context.identifiers table offset

/-- The predicate of a read by key, which is that of any read, one call further in. -/
def buildPredicateForKey (config : Config) (lookup : Lookup) (links : Option LinkRegistry)
    (context : Option Context) (table : String) (offset : Int) (stack : Stack) :
    Traced Predicate :=
  buildPredicate config lookup links context table offset (stack.below 1)

end RowSecurity
