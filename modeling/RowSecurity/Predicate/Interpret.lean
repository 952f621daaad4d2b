/-
The predicate of a policy on one table.

* `Predicate.ofDecision`: the text of a decision;
* `interpret`: decide, report and write out.

Design notes: a table is named as it stands before the point of a column, or not at all.
A name that could not stand there denies, since it would otherwise end up in a statement.
-/
import RowSecurity.Decision
import RowSecurity.Predicate.Basic

namespace RowSecurity

open Audit

/-- A column, with the table it belongs to if that has a name. -/
def columnText (table column : String) : String :=
  if table = "" then column else table ++ "." ++ column

/-- The predicate that writes a decision about a table as a condition. A restriction needs the
placeholder after `offset` others, whose number can be too long to write. -/
def Predicate.ofDecision (table : String) (offset : Int) : Decision → Except LimitFault Predicate
  | .all => .ok (.unrestricted offset)
  | .restrict field _ value =>
    (Sql.placeholder (offset + 1)).map fun placeholder =>
      .restrict (columnText table field ++ " = " ++ String.ofList placeholder) [value] offset
  | .deny _ => .ok (.deny offset)

def reportInvalid (entity detail : String) : Traced Unit :=
  .emit "RLS_INVALID_FILTER_CONFIG" error [("entity", .text entity), ("detail", .text detail)]

/-- What is reported of a table whose name cannot stand in a condition. -/
def badTableDetail : String := "field prefix is not a SQL identifier; denying"

def tableForLog (table : String) : String := if table = "" then "<unprefixed>" else table

def decisionMessage (kind entity description clause : String) : String :=
  "RLS decision for " ++ tableForLog entity ++ ": " ++ kind ++ " (" ++ description ++
    ") clause=" ++ Text.quote clause

def logDecision (kind entity description clause : String) : Traced Unit :=
  .note debug (decisionMessage kind entity description clause)

/-- The predicate of a policy on a table, after `offset` values that are bound elsewhere. -/
def interpret (config : Config) (policy : PolicyValue) (identifiers : Fields) (table : String)
    (offset : Int) : Traced Predicate :=
  if offset < 0 then .fail (.argument (.negativeOffset offset))
  else if table ≠ "" ∧ Text.isTableName table = false then do
    reportInvalid table badTableDetail
    return .deny offset
  else do
    let decision ← resolve config policy identifiers table
    let predicate ← .ofExcept ((Predicate.ofDecision table offset decision).mapError .limit)
    if config.logDecisions then logDecision decision.kind table decision.reason predicate.clause
    return predicate

end RowSecurity
