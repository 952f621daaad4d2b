/-
Permission documents.

* `policiesOf`: the mapping from resources to roles to values that a document holds;
* `PolicyTable.ofDocument`: the table of a document's policies.

Design notes: a document is the mapping itself, or a record whose field `resources` maps
each resource to a record with the field `rlsPolicy`. Whether `resources` holds a record
decides between the two. In the second layout entries that are no records are passed over,
and one without policies has none.
-/
import RowSecurity.Policy.Table

namespace RowSecurity

/-- The policies of one resource in the layout with `resources`. -/
def resourceEntry : String × Value → Option (String × Value)
  | (name, .record fields) => some (name, (Fields.get? fields "rlsPolicy").getD (.record []))
  | _ => none

/-- The mapping from resources to roles to values that a document holds. -/
def policiesOf (document : Fields) : Fields :=
  match document.get "resources" with
  | .record resources => resources.filterMap resourceEntry
  | _ => document

namespace PolicyTable

def ofValue (inForce : Config) (config : Option Config) : Value → Except Failure PolicyTable
  | .record document => ofMapping inForce config (policiesOf document)
  | value => .error (.invalidPolicy (.raw value) none)

/-- A table of the policies of a document, in which so many lists and records may be open at one
place. -/
def ofDocument (inForce : Config) (config : Option Config) (document : String)
    (nesting : Nat := usualNesting) : Except Failure PolicyTable :=
  match Json.read document nesting with
  | .ok value => ofValue inForce config value
  | .error fault => .error (.document fault)

end PolicyTable

end RowSecurity
