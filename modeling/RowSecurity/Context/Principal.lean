/-
Callers, and where their identifiers are read from.

* `Caller`: nothing, a mapping, or an object with attributes;
* `Caller.identifier`: the identifier of a key;
* `Principal`: a caller for trying policies out, with the usual roles.

Design notes: a mapping is asked for the key first and then for the attribute, an object
the other way round, so that each is asked for its own spelling first. Only an object has a
role and an id of its own.
-/
import RowSecurity.Value.Basic

namespace RowSecurity

/-- Where the identifiers of a caller are read from. -/
inductive Caller where
  | nobody
  | mapping (entries : Fields)
  | object (fields : Fields)
deriving DecidableEq, Repr

namespace Caller

def firstPresent (a b : Value) : Value := if a.isNull then b else a

/-- The identifier of a key, which an object holds under an attribute's name. -/
def identifier (caller : Caller) (key name : String) : Value :=
  match caller with
  | nobody => .null
  | mapping entries => firstPresent (entries.get key) (entries.get name)
  | object fields => firstPresent (fields.get name) (fields.get key)

/-- The value of an attribute; a mapping has none. -/
def attributeValue (caller : Caller) (name : String) : Option Value :=
  match caller with
  | object fields => fields.get? name
  | _ => none

def role? (caller : Caller) : Option String :=
  match caller.attributeValue "role" with
  | some (.text role) => some role
  | _ => none

/-- The id of an authenticated caller, null without one. -/
def userId (caller : Caller) : Value := (caller.attributeValue "id").getD .null

/-- Whether a caller has what an authenticated one must have: an id and a role. -/
def isPrincipal (caller : Caller) : Bool :=
  (caller.attributeValue "id").isSome && (caller.attributeValue "role").isSome

/-- Whether a caller has the marker of a filtered read. -/
def hasMarker (caller : Caller) : Bool := (caller.attributeValue "applied").isSome

end Caller

/-- A caller for trying policies out. -/
structure Principal where
  id : Value
  role : Option String
  customerProfileId : Value
  technicianProfileId : Value
deriving DecidableEq, Repr

namespace Principal

def toCaller (principal : Principal) : Caller :=
  .object [("id", principal.id), ("role", .ofText? principal.role),
    ("customer_profile_id", principal.customerProfileId),
    ("technician_profile_id", principal.technicianProfileId)]

def ofFields (fields : Fields) : Principal where
  id := fields.get "id"
  role :=
    match fields.get? "role" with
    | none => some "customer"
    | some (.text role) => some role
    | some _ => none
  customerProfileId := fields.get "customer_profile_id"
  technicianProfileId := fields.get "technician_profile_id"

end Principal

/-- The personas that policies are tried out with. -/
inductive Persona where
  | admin
  | customer
  | technician
  | unassigned
deriving DecidableEq, Repr

/-- What a usual caller has unless told otherwise; one who is unassigned has no role. -/
def Persona.standard : Persona → Fields
  | .admin => [("id", .int 1), ("role", .text "admin")]
  | .customer => [("id", .int 2), ("role", .text "customer"), ("customer_profile_id", .int 45)]
  | .technician =>
    [("id", .int 3), ("role", .text "technician"), ("technician_profile_id", .int 10)]
  | .unassigned => [("id", .int 4), ("role", .null)]

def Persona.principal (persona : Persona) (fields : Fields) : Principal :=
  .ofFields (fields.foldl (fun known field => known.put field.1 field.2) persona.standard)

end RowSecurity
