/-
Reads through a database connection, restricted by row security.

* `ReadResult`: rows with the marker of a filtered read;
* `Connection`: the rows with which a connection answers one command after another;
* `fetchById`, `fetchPage`, `fetchSelection`: one row, a page with the total, a selection.

Design notes: a connection is the list of its answers still to come; a command beyond them
is answered with no row. Arguments are checked before anything is sent. The count of a page
is sent before the page itself, with the same clause.
-/
import RowSecurity.Predicate.Build
import RowSecurity.Predicate.Compose
import RowSecurity.Read.Count
import RowSecurity.Read.Selection
import RowSecurity.Sql.OrderList

namespace RowSecurity

open Audit

/-- Rows, whether row security took part in reading them, and how many there are in all. -/
structure ReadResult where
  data : List Value
  applied : Bool
  total : Value
deriving DecidableEq, Repr

def ReadResult.first (result : ReadResult) : Value := result.data.headD .null

/-- The answers of a connection still to come. -/
structure Connection where
  answers : List (List Value)
deriving DecidableEq, Repr

namespace Connection

/-- Send a command; what comes back are its rows, and the connection after it. -/
def send (connection : Connection) (command : Sql.Command) :
    Traced (List Value × Connection) := do
  Traced.send command
  return (connection.answers.headD [], ⟨connection.answers.tail⟩)

def sendText (connection : Connection) (sql : String) (values : List Value) :
    Traced (List Value × Connection) := do
  let statement ← .ofExcept ((Sql.Statement.ofText sql values).mapError Failure.placeholder)
  connection.send (.text statement)

end Connection

/-- What a read depends on beside its own arguments. -/
structure ReadSetting where
  config : Config
  lookup : Lookup
  links : Option LinkRegistry
  context : Option Context
  stack : Stack

namespace ReadSetting

/-- The predicate of a read, which is itself a call on the stack. -/
def predicate (setting : ReadSetting) (table : String) (offset : Int) : Traced Predicate :=
  buildPredicate setting.config setting.lookup setting.links setting.context table offset
    (setting.stack.below 1)

/-- The predicate of a read by key. The key is the one value that is bound before those of the
predicate. -/
def predicateForKey (setting : ReadSetting) (table : String) : Traced Predicate :=
  buildPredicateForKey setting.config setting.lookup setting.links setting.context table 1
    (setting.stack.below 1)

end ReadSetting

def require (condition : Bool) (fault : ArgumentFault) : Traced Unit :=
  if condition then .ok () else .fail (.argument fault)

/-- One row by its key, if the caller may see it. -/
def fetchById (setting : ReadSetting) (connection : Connection) (table : String) (key : Value)
    (keyColumn : String) : Traced ReadResult := do
  require (Text.isTableName table) (.tableName table)
  require (Text.isName keyColumn) (.keyColumn keyColumn)
  let predicate ← setting.predicateForKey table
  let composed ← .ofExcept (compose (table ++ "." ++ keyColumn ++ " = $1") [key] predicate)
  let (rows, _) ← connection.sendText
    ("SELECT " ++ table ++ ".* FROM " ++ table ++ " " ++ composed.whereClause) composed.params
  let data := rows.take 1
  return ⟨data, composed.applied, .int data.length⟩

/-- Which rows of a table to read, in which order, and which page of them. -/
structure PageRequest where
  table : String
  base : String
  params : List Value
  order : Option String
  limit : Int
  offset : Int
deriving DecidableEq, Repr

def orderClause : Option String → String
  | none => ""
  | some order => "ORDER BY " ++ String.ofList (Text.strip order.toList) ++ " "

/-- One page of the rows that the caller may see, and how many there are in all. -/
def fetchPage (setting : ReadSetting) (connection : Connection) (request : PageRequest) :
    Traced ReadResult := do
  let table := request.table
  require (Text.isTableName table) (.tableName table)
  require (request.order.all Sql.isOrderList) (.orderList (request.order.getD ""))
  require (0 ≤ request.limit && 0 ≤ request.offset) .negativePage
  let predicate ← setting.predicate table request.params.length
  let composed ← .ofExcept (compose request.base request.params predicate)
  -- both commands carry the clause of `composed`; only the page binds two values more
  let (counts, connection) ← connection.sendText
    ("SELECT COUNT(*) AS total FROM " ++ table ++ " " ++ composed.whereClause) composed.params
  let total ← .ofExcept ((totalOf counts).mapError Failure.count)
  let (page, values) := composed.paginate (.int request.limit) (.int request.offset)
  let (rows, _) ← connection.sendText
    ("SELECT " ++ table ++ ".* FROM " ++ table ++ " " ++ composed.whereClause ++ " " ++
      orderClause request.order ++ page) values
  return ⟨rows, composed.applied, .int total⟩

/-- The rows of a selection that the caller may see. -/
def fetchSelection (setting : ReadSetting) (connection : Connection) (target : Target)
    (conditions : List Sql.Expression) : Traced ReadResult := do
  let authorized ← authorize setting.config setting.context target conditions
  let (rows, _) ← connection.send (.selection authorized)
  return ⟨rows, setting.context.isSome, .int rows.length⟩

end RowSecurity
