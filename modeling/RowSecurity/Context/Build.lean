/-
Making the context of a request.

* `collectIdentifiers`: the identifiers of a caller;
* `contextPolicy`: the policy for a role on a resource;
* `buildContext`: the context, or why there is none;
* `contextForPrincipal`: the context of an authenticated caller.

Main statements: `mem_keys_collectIdentifiers` (the identifiers that the configuration
names are present, and no others).

Design notes: what is missing is looked at in a fixed order: the resource, the role, the
policy, the identifier that the policy needs. A lookup that returns null or a boolean has
found nothing, and its pair is denied.
-/
import RowSecurity.Audit.Traced
import RowSecurity.Context.Basic
import RowSecurity.Context.Principal
import RowSecurity.Policy.Table

namespace RowSecurity

open Audit

/-- The identifiers of a caller: the id of the user, and each one the configuration names. -/
def collectIdentifiers (config : Config) (userId : Value) (caller : Caller) : Fields :=
  config.profileIdentifiers.foldl
    (fun identifiers entry => identifiers.put entry.1 (caller.identifier entry.1 entry.2))
    [(userIdKey, userId)]

/-- The policy that a value found by a lookup stands for; null and booleans stand for none. -/
def usablePolicy (config : Config) : PolicyValue → Option Policy
  | .raw .null | .raw (.bool _) => none
  | value => value.parse config.defaultValueKey

/-- The policy for a role on a resource. Where a lookup finds none, the pair is denied and that
is reported. -/
def contextPolicy (config : Config) (lookup : Lookup) (role resource : String) :
    Traced Policy := do
  let found ← .ofExcept (lookup role resource)
  match usablePolicy config found with
  | some policy => return policy
  | none =>
    .emit "RLS_INVALID_FILTER_CONFIG" error [
      ("entity", .text resource), ("role", .text role),
      ("detail", .text "policy lookup returned no usable policy; denying")]
    return .denyAll

structure Request where
  role : Option String
  userId : Value
  resource : Option String
  caller : Caller
  route : Option String
deriving DecidableEq, Repr

/-- The key of the identifier that a policy needs and a caller lacks, if requests are to fail
for that. -/
def lackingKey (config : Config) (policy : Policy) (identifiers : Fields) : Option String :=
  match config.onMissingIdentifier, policy with
  | .fail, .fieldEquals _ valueKey =>
    if (identifiers.get valueKey).isNull then some valueKey else none
  | _, _ => none

/-- The context of a request whose resource and role are known. -/
def contextOf (config : Config) (lookup : Lookup) (request : Request) (role resource : String) :
    Traced Context := do
  let route := Value.ofText? request.route
  let policy ← contextPolicy config lookup role resource
  let identifiers := collectIdentifiers config request.userId request.caller
  match lackingKey config policy identifiers with
  | some valueKey =>
    .emit "RLS_MISSING_IDENTIFIER" warning [
      ("route", route), ("user_id", request.userId), ("role", .text role),
      ("resource", .text resource), ("value_key", .text valueKey)]
    .fail (.authorization (.missingIdentifier valueKey resource) (some resource) (some role))
  | none =>
    let context : Context := ⟨resource, role, .ready policy, identifiers⟩
    .emit "RLS_CONTEXT_BUILT" debug [
      ("route", route), ("user_id", request.userId), ("role", .text role),
      ("resource", .text resource), ("filter_config", .text context.description)]
    return context

/-- A name that is there and not empty. -/
def presentName (name : Option String) : Option String := name.filter (· != "")

/-- The context of a request, or why it cannot be served. -/
def buildContext (config : Config) (lookup : Lookup) (request : Request) : Traced Context :=
  let route := Value.ofText? request.route
  match presentName request.resource with
  | none => do
    .emit "RLS_NO_ENTITY_METADATA" error [("route", route), ("user_id", request.userId)]
    .fail (.configuration .noResource none request.route)
  | some resource =>
    match presentName request.role with
    | none => do
      .emit "RLS_NO_ROLE" warning [
        ("route", route), ("user_id", request.userId), ("resource", .text resource)]
      .fail (.authorization .noRole (some resource) none)
    | some role => contextOf config lookup request role resource

/-- The request that an authenticated caller makes. -/
def Request.ofPrincipal (caller : Caller) (resource route : Option String) : Request :=
  ⟨caller.role?, caller.userId, resource, caller, route⟩

def contextForPrincipal (config : Config) (lookup : Lookup) (caller : Caller)
    (resource route : Option String) : Traced Context :=
  buildContext config lookup (.ofPrincipal caller resource route)

/-- Every identifier that the configuration names is present, and no other. -/
theorem mem_keys_collectIdentifiers {config : Config} {userId : Value} {caller : Caller}
    {key : String} :
    key ∈ (collectIdentifiers config userId caller).keys ↔ key ∈ config.identifierKeys := by
  -- by induction on the entries, for every record to start from
  have step : ∀ (entries : List (String × String)) (start : Fields),
      key ∈ (entries.foldl (fun identifiers entry =>
        identifiers.put entry.1 (caller.identifier entry.1 entry.2)) start).keys ↔
          key ∈ start.keys ∨ key ∈ entries.map (·.1) := by
    intro entries
    induction entries with
    | nil => simp
    | cons entry rest ih =>
      intro start
      -- a key that is there already keeps its place, any other goes to the end
      rw [List.foldl_cons, ih, Fields.keys_put]
      split
      · rename_i h
        simp only [List.map_cons, List.mem_cons]
        constructor
        · rintro (h' | h')
          · exact .inl h'
          · exact .inr (.inr h')
        · rintro (h' | rfl | h')
          · exact .inl h'
          · exact .inl h
          · exact .inr h'
      · simp [or_assoc]
  rw [collectIdentifiers, step]
  simp [Fields.keys, Config.identifierKeys]

end RowSecurity
