/-
A call that is given everything does not look at the ambient state.

* `Call.Follows`: that a call does what a computation does, with one sink for its events;
* `Delivery.received`, `Delivery.sent`: what a sink received, and what was sent to the database;
* `Call.ShutsOut`: that two runs of a call in any two ambient states are alike.

Main statements: `Operation.call_follows`, for every operation, whatever it is given, and
`Operation.call_shutsOut`, for one that is given configuration, lookup and sink.

Design notes: the ambient state is fixed while a call is followed through its layers, so a value
that one layer looked up and the next one is given are the same value, and each layer has one lemma.
A computation that is handed no sink must be without events for that.
-/
import RowSecurity.Ambient.Call

namespace RowSecurity

open Audit

namespace Call

section Follows

variable {α β : Type} {ambient : Ambient} {sink : Sink}

/-- That a call does what a computation does, with a sink for its events, and leaves the ambient
state as it is. -/
def Follows (ambient : Ambient) (sink : Sink) (call : Call α) (computation : Traced α) : Prop :=
  ∀ earlier, call.start ⟨ambient, earlier⟩ =
    (computation.outcome, ⟨ambient, earlier ++ computation.trace.map (.ofEffect sink)⟩)

theorem start_bind (call : Call α) (next : α → Call β) (state : CallState) :
    (call >>= next).start state =
      match call.start state with
      | (.ok a, after) => (next a).start after
      | (.error failure, after) => (.error failure, after) := by
  rw [start, ExceptT.run_bind, StateT.run_bind]
  change (call.start state >>= _ : Id _) = _
  cases call.start state with
  | mk outcome after =>
    cases outcome with
    | ok a => rfl
    | error failure => rfl

namespace Follows

/-- To follow a computation that does nothing is to end as it does. -/
theorem ofExcept_iff {call : Call α} {outcome : Except Failure α} :
    Follows ambient sink call (.ofExcept outcome) ↔
      ∀ earlier, call.start ⟨ambient, earlier⟩ = (outcome, ⟨ambient, earlier⟩) := by
  simp only [Follows, Traced.ofExcept, List.map_nil, List.append_nil]

theorem pure (a : α) : Follows ambient sink (pure a) (.ok a) :=
  ofExcept_iff.mpr fun _ => rfl

theorem throw (failure : Failure) : Follows ambient sink (throw failure : Call α) (.fail failure) :=
  ofExcept_iff.mpr fun _ => rfl

theorem configOr (given : Option Config) :
    Follows ambient sink (configOr given) (.ok (given.getD ambient.config)) :=
  ofExcept_iff.mpr fun _ => rfl

theorem lookupOr (given : Option Lookup) :
    Follows ambient sink (lookupOr given)
      (.ok (given.getD (ambient.table.toLookup ambient.config))) :=
  ofExcept_iff.mpr fun _ => rfl

/-- What a call has found is there for the rest of it. -/
theorem found {call : Call α} {a : α} {next : α → Call β} {computation : Traced β}
    (first : Follows ambient sink call (.ok a))
    (rest : Follows ambient sink (next a) computation) :
    Follows ambient sink (call >>= next) computation := by
  intro earlier
  rw [start_bind, ofExcept_iff.mp first]
  exact rest earlier

/-- A call in two parts follows a computation in two parts. -/
theorem bind {call : Call α} {computation : Traced α} {next : α → Call β} {rest : α → Traced β}
    (first : Follows ambient sink call computation)
    (second : ∀ a, Follows ambient sink (next a) (rest a)) :
    Follows ambient sink (call >>= next) (computation >>= rest) := by
  intro earlier
  rw [start_bind, first]
  cases ends : computation.outcome with
  | error failure => rw [Traced.bind_of_error ends]
  | ok a =>
    rw [Traced.bind_of_ok ends, List.map_append, ← List.append_assoc]
    exact second a _

theorem ite {c : Prop} [Decidable c] {call other : Call α} {computation alternative : Traced α}
    (pos : c → Follows ambient sink call computation)
    (neg : ¬ c → Follows ambient sink other alternative) :
    Follows ambient sink (if c then call else other) (if c then computation else alternative) := by
  by_cases h : c
  · rw [if_pos h, if_pos h]
    exact pos h
  · rw [if_neg h, if_neg h]
    exact neg h

theorem perform (given : Option Sink) (computation : Traced α) :
    Follows ambient (given.getD ambient.sink) (perform given computation) computation :=
  fun _ => rfl

/-- Without events it does not matter which sink is looked up. -/
theorem performBare {computation : Traced α} (quiet : computation.events = []) :
    Follows ambient sink (performBare computation) computation := by
  intro earlier
  have same : computation.trace.map (Delivery.ofEffect sink) =
      computation.trace.map (.ofEffect ambient.sink) := by
    refine List.map_congr_left fun effect member => ?_
    cases effect with
    | event event =>
      have told : event ∈ computation.events := List.mem_filterMap.mpr ⟨_, member, rfl⟩
      exact absurd quiet (List.ne_nil_of_mem told)
    | note note => rfl
    | command command => rfl
  rw [same]
  rfl

/-- A call is ended on a stack where the computation is, and after as much. -/
theorem within {call : Call α} {computation : Traced α}
    (follows : Follows ambient sink call computation) (stack : Stack) (inner : StepCall) :
    Follows ambient sink (within stack inner call) (stack.within inner computation) := by
  unfold Call.within Stack.within
  refine .ite (fun _ => follows) fun _ earlier => ?_
  have ended := congrArg Prod.snd (follows earlier)
  show (Except.error (stack.overflow inner), CallState.mk
    (call.start ⟨ambient, earlier⟩).2.ambient ((call.start ⟨ambient, earlier⟩).2.deliveries.take
      (earlier.length + (stack.demand inner).effects))) = _
  rw [ended]
  dsimp only
  rw [List.take_length_add_append, ← List.map_take]

end Follows

end Follows

/-! ### What is silent -/

theorem events_require (condition : Bool) (fault : ArgumentFault) :
    (require condition fault).events = [] := by
  cases condition with
  | true => rfl
  | false => rfl

theorem events_sendText (connection : Connection) (sql : String) (values : List Value) :
    (connection.sendText sql values).events = [] := by
  unfold Connection.sendText
  cases (Sql.Statement.ofText sql values).mapError Failure.placeholder with
  | error failure => rfl
  | ok statement => rfl

/-! ### Layer by layer -/

section Layers

variable {ambient : Ambient}

theorem resolve_follows (config : Option Config) (sink : Option Sink) (policy : PolicyValue)
    (identifiers : Fields) (entity : String) :
    Follows ambient (sink.getD ambient.sink) (resolve config sink policy identifiers entity)
      (RowSecurity.resolve (config.getD ambient.config) policy identifiers entity) :=
  .found (.configOr config) (.bind (.perform sink _) fun _ => .pure _)

theorem interpret_follows (config : Option Config) (sink : Option Sink) (policy : PolicyValue)
    (identifiers : Fields) (table : String) (offset : Int) :
    Follows ambient (sink.getD ambient.sink) (interpret config sink policy identifiers table offset)
      (RowSecurity.interpret (config.getD ambient.config) policy identifiers table offset) := by
  refine .ite (fun _ => .throw _) fun _ => .found (.configOr config) ?_
  refine .ite (fun _ => ?misnamed) fun _ => ?named
  case misnamed => exact .bind (.perform sink _) fun _ => .pure _
  case named =>
    refine .bind (resolve_follows (some _) sink policy identifiers table) fun decision => ?_
    refine .bind (.performBare rfl) fun predicate => ?_
    exact .ite (fun _ => .bind (.performBare rfl) fun _ => .pure _) fun _ => .pure _

theorem scope_follows (setting : ScopeSetting) (sink : Option Sink) (hops : Nat) (stack : Stack)
    (resource : String) (policy : PolicyValue) (table : String) :
    Follows ambient (sink.getD ambient.sink) (scope setting sink hops stack resource policy table)
      (RowSecurity.scope setting hops stack resource policy table) := by
  induction hops generalizing stack resource policy table with
  | zero =>
    rw [scope, RowSecurity.scope]
    refine .bind (.within (.pure _) stack _) fun read => ?_
    refine .ite (fun _ => ?_) fun _ => .within (interpret_follows (some _) sink _ _ _ _) stack _
    cases setting.links.find? resource with
    | none => exact .perform sink _
    | some link => exact .perform sink _
  | succ hops ih =>
    rw [scope, RowSecurity.scope]
    refine .bind (.within (.pure _) stack _) fun read => ?_
    refine .ite (fun _ => ?_) fun _ => .within (interpret_follows (some _) sink _ _ _ _) stack _
    cases setting.links.find? resource with
    | none => exact .perform sink _
    | some link =>
      refine .bind (.within (.performBare rfl) stack _) fun policy => ?_
      exact .bind (ih _ link.parentResource policy link.parentTable) fun parent => .perform sink _

theorem parentScoped_follows (given : Overrides) (links : LinkRegistry) (context : Context)
    (table : String) (offset : Int) (stack : Stack) :
    Follows ambient (ambient.sinkFor given) (parentScoped given links context table offset stack)
      (RowSecurity.parentScoped (ambient.configFor given) (ambient.lookupFor given) links context
        table offset stack) :=
  .found (.configOr given.config) (.found (.lookupOr given.lookup)
    (scope_follows _ given.sink _ _ _ _ _))

theorem buildPredicate_follows (given : Overrides) (links : Option LinkRegistry)
    (context : Option Context) (table : String) (offset : Int) (stack : Stack) :
    Follows ambient (ambient.sinkFor given) (buildPredicate given links context table offset stack)
      (RowSecurity.buildPredicate (ambient.configFor given) (ambient.lookupFor given) links context
        table offset stack) := by
  cases context with
  | none => exact .bind (.performBare rfl) fun _ => .pure _
  | some context =>
    have interpreted : Follows ambient (ambient.sinkFor given)
        (interpret given.config given.sink context.policy context.identifiers table offset)
        (RowSecurity.interpret (ambient.configFor given) context.policy context.identifiers table
          offset) :=
      interpret_follows given.config given.sink context.policy context.identifiers table offset
    unfold buildPredicate RowSecurity.buildPredicate
    dsimp only
    cases links with
    | none => exact interpreted
    | some links =>
      cases context.delegates with
      | false => exact interpreted
      | true => exact parentScoped_follows given links context table offset _

theorem filterExpression_follows (config : Option Config) (sink : Option Sink)
    (policy : PolicyValue) (identifiers : Fields) (target : Target) :
    Follows ambient (sink.getD ambient.sink)
      (filterExpression config sink policy identifiers target)
      (RowSecurity.filterExpression (config.getD ambient.config) policy identifiers target) := by
  refine .bind (resolve_follows config sink policy identifiers _) fun decision => ?_
  cases decision with
  | all => exact .pure _
  | deny denial => exact .pure _
  | restrict field valueKey value =>
    refine .bind (.performBare rfl) fun found => ?_
    cases found with
    | some expression => exact .pure _
    | none => exact .bind (.perform sink _) fun _ => .pure _

theorem authorize_follows (config : Option Config) (sink : Option Sink) (context : Option Context)
    (target : Target) (conditions : List Sql.Expression) :
    Follows ambient (sink.getD ambient.sink) (authorize config sink context target conditions)
      (RowSecurity.authorize (config.getD ambient.config) context target conditions) := by
  cases context with
  | none => exact .pure _
  | some context => exact .bind (filterExpression_follows config sink _ _ target) fun _ => .pure _

theorem collectIdentifiers_follows {sink : Sink} (config : Option Config) (userId : Value)
    (caller : Caller) :
    Follows ambient sink (collectIdentifiers config userId caller)
      (.ok (RowSecurity.collectIdentifiers (config.getD ambient.config) userId caller)) :=
  .found (.configOr config) (.pure _)

theorem contextOf_follows (config : Config) (given : Overrides) (request : Request)
    (role resource : String) :
    Follows ambient (ambient.sinkFor given) (contextOf config given request role resource)
      (RowSecurity.contextOf config (ambient.lookupFor given) request role resource) := by
  refine .found (.lookupOr given.lookup) (.bind (.perform given.sink _) fun policy => ?_)
  refine .found (collectIdentifiers_follows (some config) request.userId request.caller) ?_
  dsimp only [Option.getD_some]
  cases lackingKey config policy
      (RowSecurity.collectIdentifiers config request.userId request.caller) with
  | some valueKey => exact .bind (.perform given.sink _) fun _ => .throw _
  | none => exact .bind (.perform given.sink _) fun _ => .pure _

theorem buildContext_follows (given : Overrides) (request : Request) :
    Follows ambient (ambient.sinkFor given) (buildContext given request)
      (RowSecurity.buildContext (ambient.configFor given) (ambient.lookupFor given) request) := by
  unfold buildContext RowSecurity.buildContext
  refine .found (.configOr given.config) ?_
  cases presentName request.resource with
  | none => exact .bind (.perform given.sink _) fun _ => .throw _
  | some resource =>
    cases presentName request.role with
    | none => exact .bind (.perform given.sink _) fun _ => .throw _
    | some role => exact contextOf_follows _ given request role resource

theorem fetchById_follows (given : Overrides) (links : Option LinkRegistry)
    (context : Option Context) (connection : Connection) (table : String) (key : Value)
    (keyColumn : String) (stack : Stack) :
    Follows ambient (ambient.sinkFor given)
      (fetchById given links context connection table key keyColumn stack)
      (RowSecurity.fetchById
        ⟨ambient.configFor given, ambient.lookupFor given, links, context, stack⟩
        connection table key keyColumn) := by
  refine .bind (.performBare (events_require _ _)) fun _ => ?_
  refine .bind (.performBare (events_require _ _)) fun _ => ?_
  refine .bind (buildPredicate_follows given links context table 1 _) fun predicate => ?_
  refine .bind (.performBare rfl) fun composed => ?_
  exact .bind (.performBare (events_sendText _ _ _)) fun _ => .pure _

theorem fetchPage_follows (given : Overrides) (links : Option LinkRegistry)
    (context : Option Context) (connection : Connection) (request : PageRequest) (stack : Stack) :
    Follows ambient (ambient.sinkFor given) (fetchPage given links context connection request stack)
      (RowSecurity.fetchPage
        ⟨ambient.configFor given, ambient.lookupFor given, links, context, stack⟩
        connection request) := by
  refine .bind (.performBare (events_require _ _)) fun _ => ?_
  refine .bind (.performBare (events_require _ _)) fun _ => ?_
  refine .bind (.performBare (events_require _ _)) fun _ => ?_
  refine .bind (buildPredicate_follows given links context request.table _ _) fun predicate => ?_
  refine .bind (.performBare rfl) fun composed => ?_
  refine .bind (.performBare (events_sendText _ _ _)) fun answer => ?_
  refine .bind (.performBare rfl) fun total => ?_
  exact .bind (.performBare (events_sendText _ _ _)) fun _ => .pure _

theorem fetchSelection_follows (given : Overrides) (links : Option LinkRegistry)
    (context : Option Context) (connection : Connection) (target : Target)
    (conditions : List Sql.Expression) (stack : Stack) :
    Follows ambient (ambient.sinkFor given)
      (fetchSelection given.config given.sink context connection target conditions)
      (RowSecurity.fetchSelection
        ⟨ambient.configFor given, ambient.lookupFor given, links, context, stack⟩ connection target
        conditions) := by
  refine .bind (authorize_follows given.config given.sink context target conditions)
    fun authorized => ?_
  exact .bind (.performBare rfl) fun _ => .pure _

end Layers

end Call

/-! ### Every operation -/

section Operations

variable {α : Type}

/-- Whatever an operation is given, its call does what the computation does with what is given, or
else with the ambient state. -/
theorem Operation.call_follows (operation : Operation α) (given : Overrides) (stack : Stack)
    (ambient : Ambient) :
    Call.Follows ambient (ambient.sinkFor given) (operation.call given stack)
      (operation.computation (ambient.configFor given) (ambient.lookupFor given) stack) := by
  cases operation with
  | buildContext request => exact Call.buildContext_follows given request
  | buildPredicate links context table offset =>
    exact Call.buildPredicate_follows given links context table offset _
  | buildPredicateForKey links context table offset =>
    exact Call.buildPredicate_follows given links context table offset _
  | parentScoped links context table offset =>
    exact Call.parentScoped_follows given links context table offset stack
  | interpret policy identifiers table offset =>
    exact Call.interpret_follows given.config given.sink policy identifiers table offset
  | filterExpression policy identifiers target =>
    exact Call.filterExpression_follows given.config given.sink policy identifiers target
  | authorize context target conditions =>
    exact Call.authorize_follows given.config given.sink context target conditions
  | assertApplied context result => exact Call.Follows.perform given.sink _
  | fetchById links context connection table key keyColumn =>
    exact Call.fetchById_follows given links context connection table key keyColumn stack
  | fetchPage links context connection request =>
    exact Call.fetchPage_follows given links context connection request stack
  | fetchSelection context connection target conditions =>
    exact Call.fetchSelection_follows given none context connection target conditions stack

theorem Delivery.enter_ofEffect (sink : Sink) (journal : Journal) (effect : Effect) :
    enter journal (ofEffect sink effect) = journal.deliverOne sink effect := by
  cases effect with
  | event told => rfl
  | note written => rfl
  | command sent => rfl

/-- A call of an operation leaves the ambient state alone, and is the run of its computation. -/
theorem Operation.execute_call (operation : Operation α) (given : Overrides) (stack : Stack)
    (ambient : Ambient) (journal : Journal) :
    (operation.call given stack).execute ambient journal =
      (ambient, ambient.run journal given fun config lookup =>
        operation.computation config lookup stack) := by
  unfold Call.execute
  rw [operation.call_follows given stack ambient]
  simp only [List.nil_append, List.foldl_map, Delivery.enter_ofEffect]
  rfl

end Operations

/-! ### The whole -/

namespace Delivery

/-- The events that a sink received. -/
def received (sink : Sink) (deliveries : List Delivery) : List SecurityEvent :=
  deliveries.filterMap fun
    | .event reached told => if reached = sink then some told else none
    | _ => none

/-- The commands that were sent to the database. -/
def sent (deliveries : List Delivery) : List Sql.Command :=
  deliveries.filterMap fun | .command made => some made | _ => none

end Delivery

/-- That a call does the same in every ambient state, and tells no sink but one. -/
structure Call.ShutsOut {α : Type} (sink : Sink) (call : Call α) : Prop where
  /-- In any two ambient states it ends alike. -/
  outcome : ∀ first second deliveries,
    (call.start ⟨first, deliveries⟩).1 = (call.start ⟨second, deliveries⟩).1
  commands : ∀ first second deliveries,
    Delivery.sent (call.start ⟨first, deliveries⟩).2.deliveries =
      Delivery.sent (call.start ⟨second, deliveries⟩).2.deliveries
  events : ∀ first second deliveries,
    Delivery.received sink (call.start ⟨first, deliveries⟩).2.deliveries =
      Delivery.received sink (call.start ⟨second, deliveries⟩).2.deliveries
  /-- No other sink receives an event, so that of the ambient state does not, unless it is the
  same. -/
  others : ∀ other, other ≠ sink → ∀ ambient deliveries,
    Delivery.received other (call.start ⟨ambient, deliveries⟩).2.deliveries =
      Delivery.received other deliveries
  /-- It leaves the ambient state alone. -/
  ambient : ∀ ambient deliveries, (call.start ⟨ambient, deliveries⟩).2.ambient = ambient

section Whole

variable {α : Type} {sink : Sink}

theorem Delivery.received_append (first second : List Delivery) :
    received sink (first ++ second) = received sink first ++ received sink second :=
  List.filterMap_append

/-- What a computation tells one sink, no other one receives. -/
theorem Delivery.received_of_ne {other : Sink} (ne : other ≠ sink) (trace : List Effect) :
    received other (trace.map (.ofEffect sink)) = [] := by
  rw [received, List.filterMap_map, List.filterMap_eq_nil_iff]
  intro effect _
  cases effect with
  | event told => exact if_neg ne.symm
  | note written => rfl
  | command sent => rfl

/-- A call that follows one computation in every ambient state shuts all of them out. -/
theorem Call.shutsOut_of_follows {call : Call α} {computation : Traced α}
    (follows : ∀ ambient, Call.Follows ambient sink call computation) : call.ShutsOut sink where
  outcome := fun first second deliveries => by rw [follows first, follows second]
  commands := fun first second deliveries => by rw [follows first, follows second]
  events := fun first second deliveries => by rw [follows first, follows second]
  others := by
    intro other ne ambient deliveries
    rw [follows ambient, Delivery.received_append, Delivery.received_of_ne ne, List.append_nil]
  ambient := fun ambient deliveries => by rw [follows ambient]

/-- An operation that is given configuration, lookup and sink shuts the ambient state out. -/
theorem Operation.call_shutsOut (operation : Operation α) (config : Config) (lookup : Lookup)
    (sink : Sink) (stack : Stack) :
    (operation.call ⟨some config, some lookup, some sink⟩ stack).ShutsOut sink := by
  have follows : ∀ ambient, Call.Follows ambient sink
      (operation.call ⟨some config, some lookup, some sink⟩ stack)
      (operation.computation config lookup stack) :=
    operation.call_follows ⟨some config, some lookup, some sink⟩ stack
  exact Call.shutsOut_of_follows follows

end Whole

end RowSecurity
