/-
Calls, which look up in the ambient state what they are not given.

* `Delivery`: an effect, with the sink that an event went to;
* `Call`: a computation on the ambient state and what has been delivered;
* `Call.perform`: the effects of a computation, delivered;
* `Call.interpret`, `Call.buildContext` and the others: the operations, layer upon layer;
* `Operation`: the operations as one type, each with its own arguments;
* `Call.execute`: a call whose deliveries go into a journal.

Design notes: each layer takes what it may be given as optional arguments, hands on what it was
given, and looks up what is missing where it needs it. So a value that is not handed on shows up as
a look at the ambient state in some layer below. What a computation does with everything at hand is
`Traced`; the two are compared in the theory.
-/
import RowSecurity.Ambient.Delivery
import RowSecurity.Context.Build
import RowSecurity.Enforcement
import RowSecurity.Read.Fetch

namespace RowSecurity

open Audit

/-- Something done. An event goes to one sink. -/
inductive Delivery where
  | event (sink : Sink) (event : SecurityEvent)
  | note (note : Note)
  | command (command : Sql.Command)
deriving DecidableEq, Repr

namespace Delivery

def ofEffect (sink : Sink) : Effect → Delivery
  | .event told => .event sink told
  | .note written => .note written
  | .command sent => .command sent

/-- The journal after a delivery. -/
def enter (journal : Journal) : Delivery → Journal
  | .event sink told => journal.deliverOne sink (.event told)
  | .note written => journal.write ⟨libraryChannel, written.level, written.message, none⟩
  | .command sent => { journal with commands := journal.commands ++ [sent] }

end Delivery

/-- The ambient state, and what has been delivered. -/
structure CallState where
  ambient : Ambient
  deliveries : List Delivery
deriving DecidableEq, Repr

/-- A computation that may look at the ambient state and change it. -/
abbrev Call := ExceptT Failure (StateM CallState)

namespace Call

variable {α : Type}

/-- How a call ends, and the state after it. -/
def start (call : Call α) (state : CallState) : Except Failure α × CallState := call.run.run state

/-- Run a call; what it delivers goes into the journal. -/
def execute (ambient : Ambient) (journal : Journal) (call : Call α) :
    Ambient × Journal × Except Failure α :=
  let (outcome, state) := call.start ⟨ambient, []⟩
  (state.ambient, state.deliveries.foldl Delivery.enter journal, outcome)

/-! ### What a call may be given -/

def configOr (given : Option Config) : Call Config := do
  return given.getD (← get).ambient.config

def lookupOr (given : Option Lookup) : Call Lookup := do
  let ambient := (← get).ambient
  return given.getD (ambient.table.toLookup ambient.config)

def sinkOr (given : Option Sink) : Call Sink := do return given.getD (← get).ambient.sink

/-- Do what a computation does. -/
def perform (sink : Option Sink) (computation : Traced α) : Call α := do
  let sink ← sinkOr sink
  modify fun state =>
    { state with deliveries := state.deliveries ++ computation.trace.map (.ofEffect sink) }
  ExceptT.mk (pure computation.outcome)

/-- Do what a computation does that is handed no sink. -/
def performBare (computation : Traced α) : Call α := perform none computation

/-! ### Predicates -/

def resolve (config : Option Config) (sink : Option Sink) (policy : PolicyValue)
    (identifiers : Fields) (entity : String) : Call Decision := do
  let config ← configOr config
  let decision := Decision.ofPolicy config policy identifiers
  perform sink (decision.report entity)
  return decision

def interpret (config : Option Config) (sink : Option Sink) (policy : PolicyValue)
    (identifiers : Fields) (table : String) (offset : Int) : Call Predicate :=
  if offset < 0 then throw (.argument (.negativeOffset offset))
  else do
    let config ← configOr config
    if table ≠ "" ∧ Text.isTableName table = false then do
      perform sink (reportInvalid table badTableDetail)
      return .deny offset
    else do
      let decision ← resolve (some config) sink policy identifiers table
      let predicate ← performBare
        (.ofExcept ((Predicate.ofDecision table offset decision).mapError .limit))
      if config.logDecisions then
        performBare (logDecision decision.kind table decision.reason predicate.clause)
      return predicate

/-- What a call comes to on a stack that may be too short for it. -/
def within (stack : Stack) (inner : StepCall) (call : Call α) : Call α :=
  if stack.Fits inner then call
  else do
    let before ← get
    let after := (call.start before).2
    let delivered := before.deliveries.length + (stack.demand inner).effects
    set { after with deliveries := after.deliveries.take delivered }
    throw (stack.overflow inner)

/-- Follow links; configuration and lookup are settled by then, the sink is not. -/
def scope (setting : ScopeSetting) (sink : Option Sink) :
    (hops : Nat) → (stack : Stack) → (resource : String) → (policy : PolicyValue) →
      (table : String) → Call Predicate
  | hops, stack, resource, policy, table => do
    let read ← within stack (.read policy) (return policy.coerce setting.config.defaultValueKey)
    if read = some .parentDelegated then
      match setting.links.find? resource with
      | none => perform sink (denyLink stack resource missingLinkDetail setting.offset)
      | some link =>
        match hops with
        | 0 =>
          perform sink (denyLink stack resource (longChainDetail setting.config) setting.offset)
        | hops + 1 => do
          let policy ← within stack (.lookup link.parentResource)
            (performBare (.ofExcept (setting.lookup setting.role link.parentResource)))
          let parent ← scope setting sink hops (stack.below 1) link.parentResource policy
            link.parentTable
          perform sink (scopeChild stack link table setting.offset parent)
    else
      within stack (.interpret policy table)
        (interpret (some setting.config) sink policy setting.identifiers table setting.offset)

def parentScoped (given : Overrides) (links : LinkRegistry) (context : Context) (table : String)
    (offset : Int) (stack : Stack) : Call Predicate := do
  let config ← configOr given.config
  let lookup ← lookupOr given.lookup
  scope ⟨config, links, lookup, context.role, context.identifiers, offset⟩ given.sink
    config.maxParentDepth (stack.below 2) context.resource context.policy table

def buildPredicate (given : Overrides) (links : Option LinkRegistry) (context : Option Context)
    (table : String) (offset : Int) (stack : Stack) : Call Predicate :=
  match context with
  | none => do
    performBare (.note debug ("build_rls_filter: no RLS context for " ++ tableForLog table))
    return .unapplied
  | some context =>
    match links, context.delegates with
    | some links, true => parentScoped given links context table offset (stack.below 1)
    | _, _ => interpret given.config given.sink context.policy context.identifiers table offset

/-- The predicate of a read by key. -/
def buildPredicateForKey (given : Overrides) (links : Option LinkRegistry)
    (context : Option Context) (table : String) (offset : Int) (stack : Stack) : Call Predicate :=
  buildPredicate given links context table offset (stack.below 1)

/-! ### Selections -/

def filterExpression (config : Option Config) (sink : Option Sink) (policy : PolicyValue)
    (identifiers : Fields) (target : Target) : Call Sql.Expression := do
  let entity := target.tableName
  match ← resolve config sink policy identifiers entity with
  | .all => return .always
  | .deny _ => return .never
  | .restrict field _ value =>
    match ← performBare (.ofExcept (target.equation field value)) with
    | some expression => return expression
    | none =>
      perform sink (.emit "RLS_INVALID_FILTER_CONFIG" error [
        ("entity", .text entity), ("field", .text field),
        ("detail", .text "policy field is not a column of the filtered table; denying")])
      return .never

def authorize (config : Option Config) (sink : Option Sink) (context : Option Context)
    (target : Target) (conditions : List Sql.Expression) : Call (List Sql.Expression) :=
  match context with
  | none => return conditions
  | some context => do
    let filter ← filterExpression config sink context.policy context.identifiers target
    return conditions ++ [filter]

/-! ### Contexts -/

def collectIdentifiers (config : Option Config) (userId : Value) (caller : Caller) :
    Call Fields := do
  return RowSecurity.collectIdentifiers (← configOr config) userId caller

/-- The context of a request whose resource and role are known. -/
def contextOf (config : Config) (given : Overrides) (request : Request) (role resource : String) :
    Call Context := do
  let route := Value.ofText? request.route
  let lookup ← lookupOr given.lookup
  let policy ← perform given.sink (contextPolicy config lookup role resource)
  let identifiers ← collectIdentifiers (some config) request.userId request.caller
  match lackingKey config policy identifiers with
  | some valueKey =>
    perform given.sink (.emit "RLS_MISSING_IDENTIFIER" warning [
      ("route", route), ("user_id", request.userId), ("role", .text role),
      ("resource", .text resource), ("value_key", .text valueKey)])
    throw (.authorization (.missingIdentifier valueKey resource) (some resource) (some role))
  | none =>
    let context : Context := ⟨resource, role, .ready policy, identifiers⟩
    perform given.sink (.emit "RLS_CONTEXT_BUILT" debug [
      ("route", route), ("user_id", request.userId), ("role", .text role),
      ("resource", .text resource), ("filter_config", .text context.description)])
    return context

def buildContext (given : Overrides) (request : Request) : Call Context := do
  let config ← configOr given.config
  let route := Value.ofText? request.route
  match presentName request.resource with
  | none =>
    perform given.sink (.emit "RLS_NO_ENTITY_METADATA" error [
      ("route", route), ("user_id", request.userId)])
    throw (.configuration .noResource none request.route)
  | some resource =>
    match presentName request.role with
    | none =>
      perform given.sink (.emit "RLS_NO_ROLE" warning [
        ("route", route), ("user_id", request.userId), ("resource", .text resource)])
      throw (.authorization .noRole (some resource) none)
    | some role => contextOf config given request role resource

/-! ### Reads -/

def fetchById (given : Overrides) (links : Option LinkRegistry) (context : Option Context)
    (connection : Connection) (table : String) (key : Value) (keyColumn : String)
    (stack : Stack) : Call ReadResult := do
  performBare (require (Text.isTableName table) (.tableName table))
  performBare (require (Text.isName keyColumn) (.keyColumn keyColumn))
  let predicate ← buildPredicateForKey given links context table 1 (stack.below 1)
  let composed ← performBare
    (.ofExcept (compose (table ++ "." ++ keyColumn ++ " = $1") [key] predicate))
  let (rows, _) ← performBare (connection.sendText
    ("SELECT " ++ table ++ ".* FROM " ++ table ++ " " ++ composed.whereClause) composed.params)
  let data := rows.take 1
  return ⟨data, composed.applied, .int data.length⟩

def fetchPage (given : Overrides) (links : Option LinkRegistry) (context : Option Context)
    (connection : Connection) (request : PageRequest) (stack : Stack) : Call ReadResult := do
  let table := request.table
  performBare (require (Text.isTableName table) (.tableName table))
  performBare (require (request.order.all Sql.isOrderList) (.orderList (request.order.getD "")))
  performBare (require (0 ≤ request.limit && 0 ≤ request.offset) .negativePage)
  let predicate ← buildPredicate given links context table request.params.length (stack.below 1)
  let composed ← performBare (.ofExcept (compose request.base request.params predicate))
  let (counts, connection) ← performBare (connection.sendText
    ("SELECT COUNT(*) AS total FROM " ++ table ++ " " ++ composed.whereClause) composed.params)
  let total ← performBare (.ofExcept ((totalOf counts).mapError Failure.count))
  let (page, values) := composed.paginate (.int request.limit) (.int request.offset)
  let (rows, _) ← performBare (connection.sendText
    ("SELECT " ++ table ++ ".* FROM " ++ table ++ " " ++ composed.whereClause ++ " " ++
      orderClause request.order ++ page) values)
  return ⟨rows, composed.applied, .int total⟩

def fetchSelection (config : Option Config) (sink : Option Sink) (context : Option Context)
    (connection : Connection) (target : Target) (conditions : List Sql.Expression) :
    Call ReadResult := do
  let authorized ← authorize config sink context target conditions
  let (rows, _) ← performBare (connection.send (.selection authorized))
  return ⟨rows, context.isSome, .int rows.length⟩

end Call

/-! ### The operations -/

/-- An operation with its arguments, but for those that every call may leave out. -/
inductive Operation : Type → Type where
  | buildContext (request : Request) : Operation Context
  | buildPredicate (links : Option LinkRegistry) (context : Option Context) (table : String)
      (offset : Int) : Operation Predicate
  | buildPredicateForKey (links : Option LinkRegistry) (context : Option Context) (table : String)
      (offset : Int) : Operation Predicate
  | parentScoped (links : LinkRegistry) (context : Context) (table : String) (offset : Int) :
      Operation Predicate
  | interpret (policy : PolicyValue) (identifiers : Fields) (table : String) (offset : Int) :
      Operation Predicate
  | filterExpression (policy : PolicyValue) (identifiers : Fields) (target : Target) :
      Operation Sql.Expression
  | authorize (context : Option Context) (target : Target) (conditions : List Sql.Expression) :
      Operation (List Sql.Expression)
  | assertApplied (context : Option Context) (result : Result) : Operation Unit
  | fetchById (links : Option LinkRegistry) (context : Option Context) (connection : Connection)
      (table : String) (key : Value) (keyColumn : String) : Operation ReadResult
  | fetchPage (links : Option LinkRegistry) (context : Option Context) (connection : Connection)
      (request : PageRequest) : Operation ReadResult
  | fetchSelection (context : Option Context) (connection : Connection) (target : Target)
      (conditions : List Sql.Expression) : Operation ReadResult

namespace Operation

variable {α : Type}

/-- The call of an operation on a stack. An operation takes of what it is given as much as it has
use for. -/
def call (given : Overrides) (operation : Operation α) (stack : Stack := .standard) : Call α :=
  match operation with
  | buildContext request => Call.buildContext given request
  | buildPredicate links context table offset =>
    Call.buildPredicate given links context table offset stack
  | buildPredicateForKey links context table offset =>
    Call.buildPredicateForKey given links context table offset stack
  | parentScoped links context table offset =>
    Call.parentScoped given links context table offset stack
  | interpret policy identifiers table offset =>
    Call.interpret given.config given.sink policy identifiers table offset
  | filterExpression policy identifiers target =>
    Call.filterExpression given.config given.sink policy identifiers target
  | authorize context target conditions =>
    Call.authorize given.config given.sink context target conditions
  | assertApplied context result =>
    Call.perform given.sink (RowSecurity.assertApplied context result)
  | fetchById links context connection table key keyColumn =>
    Call.fetchById given links context connection table key keyColumn stack
  | fetchPage links context connection request =>
    Call.fetchPage given links context connection request stack
  | fetchSelection context connection target conditions =>
    Call.fetchSelection given.config given.sink context connection target conditions

/-- What an operation does on a stack once configuration and lookup are settled. -/
def computation (config : Config) (lookup : Lookup) (operation : Operation α) (stack : Stack) :
    Traced α :=
  match operation with
  | buildContext request => RowSecurity.buildContext config lookup request
  | buildPredicate links context table offset =>
    RowSecurity.buildPredicate config lookup links context table offset stack
  | buildPredicateForKey links context table offset =>
    RowSecurity.buildPredicateForKey config lookup links context table offset stack
  | parentScoped links context table offset =>
    RowSecurity.parentScoped config lookup links context table offset stack
  | interpret policy identifiers table offset =>
    RowSecurity.interpret config policy identifiers table offset
  | filterExpression policy identifiers target =>
    RowSecurity.filterExpression config policy identifiers target
  | authorize context target conditions => RowSecurity.authorize config context target conditions
  | assertApplied context result => RowSecurity.assertApplied context result
  | fetchById links context connection table key keyColumn =>
    RowSecurity.fetchById ⟨config, lookup, links, context, stack⟩ connection table key keyColumn
  | fetchPage links context connection request =>
    RowSecurity.fetchPage ⟨config, lookup, links, context, stack⟩ connection request
  | fetchSelection context connection target conditions =>
    RowSecurity.fetchSelection ⟨config, lookup, none, context, stack⟩ connection target conditions

end Operation

end RowSecurity
