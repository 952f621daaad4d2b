/-
Selections that show a caller the rows a policy allows.

* `filterExpression`: the filter expression of a policy on a target;
* `authorize`: the conditions of a selection with the filter added.

Design notes: the expression renders the same decision as the text of a predicate. A
restriction on a column that the target lacks denies, and that is reported.
-/
import RowSecurity.Context.Basic
import RowSecurity.Decision
import RowSecurity.Read.Target

namespace RowSecurity

open Audit

/-- The filter expression of a policy on a target. -/
def filterExpression (config : Config) (policy : PolicyValue) (identifiers : Fields)
    (target : Target) : Traced Sql.Expression := do
  let entity := target.tableName
  match ← resolve config policy identifiers entity with
  | .all => return .always
  | .deny _ => return .never
  | .restrict field _ value =>
    match ← .ofExcept (target.equation field value) with
    | some expression => return expression
    | none =>
      .emit "RLS_INVALID_FILTER_CONFIG" error [
        ("entity", .text entity), ("field", .text field),
        ("detail", .text "policy field is not a column of the filtered table; denying")]
      return .never

/-- The conditions of a selection, with the filter of a context added at the end. Without a
context they stay as they are. -/
def authorize (config : Config) (context : Option Context) (target : Target)
    (conditions : List Sql.Expression) : Traced (List Sql.Expression) :=
  match context with
  | none => return conditions
  | some context => do
    let filter ← filterExpression config context.policy context.identifiers target
    return conditions ++ [filter]

end RowSecurity
