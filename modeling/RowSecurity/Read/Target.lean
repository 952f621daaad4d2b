/-
What a selection reads: tables, classes mapped to tables, and whatever else is passed.

* `Target`: a table or alias, a mapped class, or an object that is neither;
* `Target.tableName`: the name under which events refer to it;
* `Target.equation`: the condition that what a field names has a given value.

Design notes: on a mapped class a field names an attribute, which may be called differently
from its column, and attributes that stand for no column do not count. An attribute called
`c` is taken for the collection of columns: a mapped one cannot be searched, and one that
holds a plain value must hold a record, whose fields are values and no columns.
-/
import RowSecurity.Failure
import RowSecurity.Sql.Expression

namespace RowSecurity

/-- What a selection reads. -/
inductive Target where
  /-- a table or alias, by its own name, with its columns -/
  | table (name : String) (columns : List String)
  /-- a class mapped to a table, with the column of each mapped attribute, and its other
  attributes -/
  | mapped (table : String) (columns : List (String × String)) (others : Fields)
  /-- an object that is neither -/
  | other (fields : Fields)
deriving DecidableEq, Repr

namespace Target

/-- A value that is a text, or another text in its place. -/
def textOr (default : String) : Value → String
  | .text s => s
  | _ => default

/-- The name under which events refer to a target, empty if it has none. -/
def tableName : Target → String
  | table name _ => name
  | mapped name _ others => textOr name (others.get "name")
  | other fields => textOr "" (fields.get "name")

/-- The condition on a field of a plain value that is taken for the columns of a target: it
compares two values, so it is met by every row or by none. -/
def heldEquation (held : Value) (field : String) (value : Value) :
    Except Failure (Option Sql.Expression) :=
  match held with
  | .record fields =>
    if (Fields.get fields field).isNull then .ok none
    else .ok (some (if (Fields.get fields field).alike value then .always else .never))
  | held => .error (.noColumns held.kindName)

/-- The condition that what a field names has a value, if the field names anything. -/
def equation (target : Target) (field : String) (value : Value) :
    Except Failure (Option Sql.Expression) :=
  match target with
  | table name columns => .ok (if field ∈ columns then some (.equals name field value) else none)
  | mapped name columns others =>
    if (List.lookup "c" columns).isSome then .error (.shadowedColumns name)
    else if (others.get "c").isNull then
      .ok ((List.lookup field columns).map fun column => .equals name column value)
    else heldEquation (others.get "c") field value
  | other fields =>
    if (fields.get "c").isNull then .ok none else heldEquation (fields.get "c") field value

/-- A condition on a column of a target, by its own name or by that of its attribute. -/
def conditionOn (target : Target) (name : String) (value : Value) : Sql.Expression :=
  match target with
  | table own _ => .equals own name value
  | mapped own columns _ => .equals own ((List.lookup name columns).getD name) value
  | other _ => .equals "" name value

end Target

end RowSecurity
