/-
Tables of policies.

* `Lookup`: how a policy is found for a role on a resource;
* `PolicyTable`: the policies of pairs of role and resource;
* `PolicyTable.register`, `PolicyTable.load`: entering policies;
* `PolicyTable.find`: finding one, where a pair without a policy is denied or refused.

Main statements: `get?_insert_self` and `get?_insert_of_ne` say what a table holds after an
entry, and `register_eq_error_iff` when an entry is refused.

Design notes: a table holds parsed policies only. A table may have a configuration of its
own; one without uses the configuration in force at each call.
-/
import RowSecurity.Failure

namespace RowSecurity

/-- How the policy of a role on a resource is found; looking up may fail. -/
abbrev Lookup := String → String → Except Failure PolicyValue

/-- The policies of pairs of role and resource, in the order in which they were entered
first. -/
structure PolicyTable where
  entries : List ((String × String) × Policy)
  config : Option Config
deriving DecidableEq, Repr

namespace PolicyTable

def empty (config : Option Config) : PolicyTable := ⟨[], config⟩

def effective (table : PolicyTable) (inForce : Config) : Config := table.config.getD inForce

/-- Set the policy of a pair: in its place if it has one, else at the end. -/
def setEntry (key : String × String) (policy : Policy) :
    List ((String × String) × Policy) → List ((String × String) × Policy)
  | [] => [(key, policy)]
  | entry :: rest =>
    if entry.1 = key then (key, policy) :: rest else entry :: setEntry key policy rest

def get? (table : PolicyTable) (role resource : String) : Option Policy :=
  (table.entries.find? fun entry => entry.1 = (role, resource)).map (·.2)

def contains (table : PolicyTable) (role resource : String) : Bool :=
  (table.get? role resource).isSome

def insert (table : PolicyTable) (role resource : String) (policy : Policy) : PolicyTable :=
  { table with entries := setEntry (role, resource) policy table.entries }

/-- Enter what a value stands for as the policy of a pair. -/
def register (table : PolicyTable) (inForce : Config) (resource role : String)
    (value : PolicyValue) : Except Failure (PolicyTable × Policy) :=
  match value.parse (table.effective inForce).defaultValueKey with
  | some policy => .ok (table.insert role resource policy, policy)
  | none => .error (.invalidPolicy value (some resource))

/-- The policy of a pair. Without one, the pair is denied, or refused if the configuration
asks for that. -/
def find (table : PolicyTable) (inForce : Config) (role resource : String) :
    Except Failure Policy :=
  match table.get? role resource with
  | some policy => .ok policy
  | none =>
    match (table.effective inForce).onMissingPolicy with
    | .deny => .ok .denyAll
    | .fail => .error (.noPolicy role resource)

def toLookup (table : PolicyTable) (inForce : Config) : Lookup := fun role resource =>
  (table.find inForce role resource).map .ready

def rolesFor (table : PolicyTable) (resource : String) : List String :=
  ((table.entries.filter fun entry => entry.1.2 = resource).map (·.1.1)).eraseDups.mergeSort
    Text.inOrder

/-- The resources on which some role has a policy, ascending. -/
def resources (table : PolicyTable) : List String :=
  (table.entries.map (·.1.2)).eraseDups.mergeSort Text.inOrder

def clear (table : PolicyTable) : PolicyTable := { table with entries := [] }

/-- Enter policies that a table held, one after another. -/
def refill (table : PolicyTable) (entries : List ((String × String) × Policy)) : PolicyTable :=
  entries.foldl (fun table entry => table.insert entry.1.1 entry.1.2 entry.2) table

/-- Enter the policies of one resource by role. What was entered before a failure stays. -/
def loadRoles (inForce : Config) (resource : String) :
    PolicyTable → Fields → PolicyTable × Except Failure Unit
  | table, [] => (table, .ok ())
  | table, (role, value) :: rest =>
    match table.register inForce resource role (.raw value) with
    | .ok (table, _) => loadRoles inForce resource table rest
    | .error failure => (table, .error failure)

/-- Enter the policies of several resources. What was entered before a failure stays. -/
def load (inForce : Config) : PolicyTable → Fields → PolicyTable × Except Failure Unit
  | table, [] => (table, .ok ())
  | table, (resource, .record roles) :: rest =>
    match loadRoles inForce resource table roles with
    | (table, .ok ()) => load inForce table rest
    | (table, .error failure) => (table, .error failure)
  -- what a resource maps to must be a record of roles
  | table, (resource, value) :: _ =>
    (table, .error (.invalidPolicy (.raw value) (some resource)))

/-- A table of the policies of a mapping from resources to roles to values. -/
def ofMapping (inForce : Config) (config : Option Config) (policies : Fields) :
    Except Failure PolicyTable :=
  match load inForce (empty config) policies with
  | (table, .ok ()) => .ok table
  | (_, .error failure) => .error failure

theorem find?_setEntry_self (key : String × String) (policy : Policy)
    (entries : List ((String × String) × Policy)) :
    (setEntry key policy entries).find? (fun entry => entry.1 = key) = some (key, policy) := by
  induction entries with
  | nil => simp [setEntry]
  | cons entry rest ih =>
    by_cases h : entry.1 = key
    · simp [setEntry, h]
    · simp [setEntry, h, ih]

theorem find?_setEntry_of_ne {key other : String × String} (hne : other ≠ key) (policy : Policy)
    (entries : List ((String × String) × Policy)) :
    (setEntry key policy entries).find? (fun entry => entry.1 = other) =
      entries.find? (fun entry => entry.1 = other) := by
  induction entries with
  | nil => simp [setEntry, hne.symm]
  | cons entry rest ih =>
    by_cases h : entry.1 = key
    · simp [setEntry, h, hne.symm]
    · by_cases ho : entry.1 = other
      · simp [setEntry, ho, hne]
      · simp [setEntry, h, ho, ih]

theorem get?_insert_self (table : PolicyTable) (role resource : String) (policy : Policy) :
    (table.insert role resource policy).get? role resource = some policy := by
  simp [get?, insert, find?_setEntry_self]

theorem get?_insert_of_ne {role resource role' resource' : String}
    (hne : (role', resource') ≠ (role, resource)) (table : PolicyTable) (policy : Policy) :
    (table.insert role resource policy).get? role' resource' = table.get? role' resource' := by
  simp [get?, insert, find?_setEntry_of_ne hne]

/-- A refused entry names the value and the resource it was for. -/
theorem register_eq_error_iff {table : PolicyTable} {inForce : Config} {resource role : String}
    {value : PolicyValue} {failure : Failure} :
    table.register inForce resource role value = .error failure ↔
      value.parse (table.effective inForce).defaultValueKey = none ∧
        failure = .invalidPolicy value (some resource) := by
  unfold register
  split <;> rename_i h <;> simp [h, eq_comm]

end PolicyTable

end RowSecurity
