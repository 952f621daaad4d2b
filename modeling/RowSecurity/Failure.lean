/-
Why a request cannot be served.

* `Failure`: the causes, each with what is known about it;
* `Failure.message`: the wording of each.

Design notes: causes of one kind are told apart by constructors, not by their wording. The
first six constructors are failures of row security itself: wrong wiring or policies, a
caller who cannot be authorized, and reads that skipped the filter. The others reject
arguments, documents and results.
-/
import RowSecurity.Config
import RowSecurity.Json.Reader
import RowSecurity.Policy.Basic
import RowSecurity.Sql.NamedBind

namespace RowSecurity

/-- Why row security is wired wrongly. -/
inductive ConfigurationCause where
  | noResource
  | stated (message : String)
deriving DecidableEq, Repr

/-- Why a caller cannot be authorized. -/
inductive AuthorizationCause where
  | noRole
  | missingIdentifier (valueKey resource : String)
  | stated (message : String)
deriving DecidableEq, Repr

/-- The columns of a parent link that must be plain names. -/
inductive LinkColumn where
  | childTable
  | foreignKey
  | parentTable
  | parentKey
deriving DecidableEq, Repr

/-- Why an argument is rejected. -/
inductive ArgumentFault where
  | config (fault : ConfigFault)
  | linkColumn (column : LinkColumn) (given : String)
  | negativeOffset (offset : Int)
  | basePlaceholders (used : List Nat) (count : Nat)
  | clausePlaceholders (used : List Nat) (count : Nat) (offset : Int)
  | tableName (given : String)
  | keyColumn (given : String)
  | orderList (given : String)
  | negativePage
deriving DecidableEq, Repr

/-- Why a count of rows is no number. -/
inductive CountFault where
  | missing
  /-- the total is of a kind that is no number -/
  | kind (name : String)
  /-- the total is a text that writes no integer -/
  | text (given : String)
  | nan
  | infinite
  | limit (fault : LimitFault)
deriving DecidableEq, Repr

/-- Why a request cannot be served. -/
inductive Failure where
  | general (message : String)
  | configuration (cause : ConfigurationCause) (resource route : Option String)
  | noPolicy (role resource : String)
  | invalidPolicy (given : PolicyValue) (resource : Option String)
  | authorization (cause : AuthorizationCause) (resource role : Option String)
  | violation (resource role description : String)
  | argument (fault : ArgumentFault)
  | placeholder (fault : Sql.PlaceholderFault)
  | document (fault : Json.Fault)
  | count (fault : CountFault)
  | expectation (message : String)
  | shadowedColumns (target : String)
  | noColumns (kind : String)
  | noPrincipal
  | limit (fault : LimitFault)
  /-- the body of an answer holds a number that is not finite -/
  | nonFiniteBody
  /-- the body of an answer holds halves of surrogate pairs, the first of them at a place -/
  | unencodableBody (place : Nat) (halves : List Nat)
deriving DecidableEq, Repr

def ConfigurationCause.message : ConfigurationCause → String
  | .noResource => "Route misconfiguration: entity metadata not attached"
  | .stated message => message

def AuthorizationCause.message : AuthorizationCause → String
  | .noRole => "User has no assigned role"
  | .missingIdentifier valueKey resource =>
    "User has no " ++ valueKey ++ " required to access " ++ resource
  | .stated message => message

def LinkColumn.name : LinkColumn → String
  | .childTable => "child_table"
  | .foreignKey => "foreign_key"
  | .parentTable => "parent_table"
  | .parentKey => "parent_key"

/-- The numbers of placeholders as messages show them: ascending, each once. -/
def writtenNumbers (used : List Nat) : String :=
  "[" ++ Text.commaJoin ((Sql.distinctNumbers used).map toString) ++ "]"

def ArgumentFault.message : ArgumentFault → String
  | .config fault => fault.message
  | .linkColumn column given =>
    "ParentLink." ++ column.name ++ " must be a plain SQL identifier, got " ++ Text.quote given
  | .negativeOffset offset => "parameter_offset must be >= 0, got " ++ toString offset
  | .basePlaceholders used count =>
    "base clause placeholders " ++ writtenNumbers used ++ " do not match its " ++
      toString count ++ " bound value(s)"
  | .clausePlaceholders used count offset =>
    "RLS clause placeholders " ++ writtenNumbers used ++ " do not match its " ++
      toString count ++ " bound value(s) at offset " ++ toString offset
  | .tableName given => "table must be a SQL identifier, got " ++ Text.quote given
  | .keyColumn given => "pk_column must be a SQL identifier, got " ++ Text.quote given
  | .orderList given => "order_by must be a column list, got " ++ Text.quote given
  | .negativePage => "limit and offset must be >= 0"

/-- The first characters of a text in quotation marks, as many as messages about counts show. -/
def excerpt (s : String) : String := String.ofList ((Text.quote s).toList.take 200)

def CountFault.message : CountFault → String
  | .missing => "'total'"
  | .kind name =>
    "int() argument must be a string, a bytes-like object or a real number, not '" ++ name ++ "'"
  | .text given => "invalid literal for int() with base 10: " ++ excerpt given
  | .nan => "cannot convert float NaN to integer"
  | .infinite => "cannot convert float infinity to integer"
  | .limit fault => fault.message

def Failure.message : Failure → String
  | .general message => message
  | .configuration cause _ _ => cause.message
  | .noPolicy role resource =>
    "No RLS policy registered for role " ++ Text.quote role ++ " on " ++ Text.quote resource
  | .invalidPolicy given _ => "Invalid RLS filter configuration: " ++ given.written
  | .authorization cause _ _ => cause.message
  | .violation resource role description =>
    "RLS validation failed for " ++ resource ++
      ": model did not apply RLS filtering (role=" ++ role ++ ", filter=" ++ description ++ ")"
  | .argument fault => fault.message
  | .placeholder fault => fault.message
  | .document fault => fault.message
  | .count fault => fault.message
  | .expectation message => message
  | .shadowedColumns target =>
    "Neither 'InstrumentedAttribute' object nor 'Comparator' object associated with " ++
      target ++ ".c has an attribute 'get'"
  | .noColumns kind => Text.quote kind ++ " object has no attribute 'get'"
  | .noPrincipal =>
    "Override get_principal via app.dependency_overrides[get_principal]. " ++
      "See sqla-rls docs for configuration guide."
  | .limit fault => fault.message
  | .nonFiniteBody => "Out of range float values are not JSON compliant"
  | .unencodableBody place [half] =>
    "'utf-8' codec can't encode character '" ++
      String.ofList (Text.escape Text.singleMark half) ++ "' in position " ++ toString place ++
      ": surrogates not allowed"
  | .unencodableBody place halves =>
    "'utf-8' codec can't encode characters in position " ++ toString place ++ "-" ++
      toString (place + halves.length - 1) ++ ": surrogates not allowed"

end RowSecurity
