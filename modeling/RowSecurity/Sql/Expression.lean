/-
Filter expressions and commands, as a database connection receives them.

* `Expression`: a condition on one row: always, never, or a column equal to a value;
* `Command`: a text statement, or a selection with its conditions.
-/
import RowSecurity.Sql.NamedBind

namespace RowSecurity.Sql

/-- A condition on a row. The table is named as the statement refers to it, so an alias goes
by its own name. -/
inductive Expression where
  | always
  | never
  | equals (table column : String) (value : Value)
deriving DecidableEq, Repr

/-- What is sent to a database connection. -/
inductive Command where
  | text (statement : Statement)
  | selection (conditions : List Expression)
deriving DecidableEq, Repr

end RowSecurity.Sql
