/-
A body that runs in isolation starts afresh and leaves no change behind.

* `Program`: calls on the ambient state, with isolated parts in any depth, each of which may fail;
* `Program.run`: what a program does;
* `Program.visits`: the isolated parts that a run comes to, and the state in which it does;
* `Visit.Isolated`: that a part starts afresh, and that what follows it finds the state as it was.

Main statement: `Program.isolated_of_mem_visits`, for every program and every state to start from.

Design notes: configuration and sink are put back as they were, but the policies are entered anew
into the table of the body. So the state is as before only if the table still has the configuration
that it was made with, and if no pair had two policies. Both are kept by all that a program does,
isolated parts included (`Program.keeps`).
-/
import RowSecurity.Proofs.Overriding
import RowSecurity.Proofs.TableHistory

namespace RowSecurity

/-! ### Policies that are entered anew -/

/-- That no pair of role and resource has two policies. -/
def PolicyTable.Distinct (table : PolicyTable) : Prop := (table.entries.map (·.1)).Nodup

instance (table : PolicyTable) : Decidable table.Distinct :=
  inferInstanceAs (Decidable (List.Nodup _))

namespace PolicyTable

variable {key : String × String} {policy : Policy} {entries : List ((String × String) × Policy)}

theorem setEntry_of_not_mem (new : key ∉ entries.map (·.1)) :
    setEntry key policy entries = entries ++ [(key, policy)] := by
  induction entries with
  | nil => rfl
  | cons entry rest ih =>
    rw [List.map_cons, List.mem_cons, not_or] at new
    rw [setEntry, if_neg (Ne.symm new.1), ih new.2, List.cons_append]

theorem map_fst_setEntry_of_mem (old : key ∈ entries.map (·.1)) :
    (setEntry key policy entries).map (·.1) = entries.map (·.1) := by
  induction entries with
  | nil => cases old
  | cons entry rest ih =>
    rw [setEntry]
    split
    · rename_i same
      rw [List.map_cons, List.map_cons, same]
    · rename_i other
      rw [List.map_cons, List.map_cons]
      rw [ih ((List.mem_cons.mp old).resolve_left fun same => other same.symm)]

theorem Distinct.insert {table : PolicyTable} (distinct : table.Distinct)
    (role resource : String) (policy : Policy) : (table.insert role resource policy).Distinct := by
  show ((setEntry (role, resource) policy table.entries).map (·.1)).Nodup
  by_cases old : (role, resource) ∈ table.entries.map (·.1)
  · rw [map_fst_setEntry_of_mem old]
    exact distinct
  · rw [setEntry_of_not_mem old, List.map_append]
    refine List.nodup_append.mpr ⟨distinct, List.pairwise_singleton _ _, ?_⟩
    rintro key member _ last rfl
    rw [List.map_singleton, List.mem_singleton] at last
    rw [last] at member
    exact old member

theorem distinct_clear (table : PolicyTable) : table.clear.Distinct := List.nodup_nil

theorem Distinct.replay {table : PolicyTable} (distinct : table.Distinct)
    (changes : List TableChange) : (table.replay changes).Distinct := by
  induction changes generalizing table with
  | nil => exact distinct
  | cons change rest ih =>
    refine @ih (change.on table) ?_
    cases change with
    | entered role resource policy => exact distinct.insert role resource policy
    | cleared => exact table.distinct_clear

theorem config_refill (table : PolicyTable) (entries : List ((String × String) × Policy)) :
    (table.refill entries).config = table.config := by
  induction entries generalizing table with
  | nil => rfl
  | cons entry rest ih => exact ih (table.insert entry.1.1 entry.1.2 entry.2)

/-- Policies of new pairs are entered in their order, after those that are there. -/
theorem refill_eq (table : PolicyTable)
    (distinct : ((table.entries ++ entries).map (·.1)).Nodup) :
    table.refill entries = { table with entries := table.entries ++ entries } := by
  induction entries generalizing table with
  | nil =>
    rw [List.append_nil]
    rfl
  | cons entry rest ih =>
    have new : entry.1 ∉ table.entries.map (·.1) := by
      rw [List.map_append, List.map_cons] at distinct
      intro old
      exact (List.nodup_append.mp distinct).2.2 _ old _ List.mem_cons_self rfl
    have next : table.entries ++ entry :: rest = table.entries ++ [entry] ++ rest := by
      rw [List.append_assoc, List.singleton_append]
    have inserted : table.insert entry.1.1 entry.1.2 entry.2 =
        { table with entries := table.entries ++ [entry] } := by
      rw [insert, setEntry_of_not_mem new]
    rw [next] at distinct ⊢
    rw [refill, List.foldl_cons, inserted]
    exact ih { table with entries := table.entries ++ [entry] } distinct

end PolicyTable

/-! ### Programs -/

/-- The state in which an isolated body starts. What was delivered before has been delivered. -/
def CallState.enter (state : CallState) (config : Option Config) (sink : Option Sink) : CallState :=
  ⟨(state.ambient.enter config sink).1, state.deliveries⟩

namespace Call

/-- A call on the default table, or a change of the configuration in force. -/
def onTable (call : TableCall) : Call Unit := do
  let ambient := (← get).ambient
  let (after, outcome) := TableState.step ⟨ambient.table, ambient.config⟩ call
  modify fun state =>
    { state with ambient := { ambient with table := after.table, config := after.inForce } }
  ExceptT.mk (pure outcome)

def setSink (sink : Option Sink) : Call Unit :=
  modify fun state => { state with ambient := (state.ambient.exchangeSink sink).1 }

/-- Run a call in isolation. What it delivers has been delivered when it ends. -/
def isolated {α : Type} (config : Option Config) (sink : Option Sink) (body : Call α) : Call α :=
  ExceptT.mk fun state =>
    let run := fun (inner : Ambient × List Delivery) =>
      let (outcome, after) := body.start ⟨inner.1, inner.2⟩
      ((after.ambient, after.deliveries), outcome)
    let ((ambient, deliveries), outcome) :=
      Ambient.isolated config sink run (state.ambient, state.deliveries)
    (outcome, ⟨ambient, deliveries⟩)

/-- Go on after a call, however it ends. -/
def attempt (call : Call Unit) : Call Unit := tryCatch call fun _ => pure ()

end Call

/-- Something that a program does. -/
inductive Act where
  | table (call : TableCall)
  | setSink (sink : Option Sink)
  | buildContext (given : Overrides) (request : Request)

def Act.call : Act → Call Unit
  | .table call => .onTable call
  | .setSink sink => .setSink sink
  | .buildContext given request => do
    let _ ← Call.buildContext given request

/-- A program on the ambient state. It may fail of itself at any place, and go on after a part that
failed. -/
inductive Program where
  | done
  | raise (failure : Failure)
  | act (step : Act) (rest : Program)
  | isolated (config : Option Config) (sink : Option Sink) (body rest : Program)
  | attempt (body rest : Program)

namespace Program

def run : Program → Call Unit
  | done => return ()
  | raise failure => throw failure
  | .act step rest => do
    step.call
    rest.run
  | isolated config sink body rest => do
    Call.isolated config sink body.run
    rest.run
  | attempt body rest => do
    Call.attempt body.run
    rest.run

end Program

/-- That a run comes to an isolated part of a program, and the state in which it does. -/
structure Visit where
  before : CallState
  config : Option Config
  sink : Option Sink
  body : Program
  rest : Program

/-- The state in which the body of an isolated part starts. -/
def Visit.inside (visit : Visit) : CallState := visit.before.enter visit.config visit.sink

/-- What is visited after a call, if it ends well. -/
def Call.visitsAfter (call : Call Unit) (state : CallState) (visits : CallState → List Visit) :
    List Visit :=
  match call.start state with
  | (.ok _, after) => visits after
  | (.error _, _) => []

/-- The isolated parts that a run of a program comes to, in whatever depth. -/
def Program.visits : Program → CallState → List Visit
  | done, _ | raise _, _ => []
  | .act step rest, state => step.call.visitsAfter state rest.visits
  | isolated config sink body rest, state =>
    let visit : Visit := ⟨state, config, sink, body, rest⟩
    visit :: (body.visits visit.inside ++
      (Call.isolated config sink body.run).visitsAfter state rest.visits)
  | attempt body rest, state => body.visits state ++ rest.visits (body.run.start state).2

/-! ### What programs leave alone -/

/-- That the default table still has the configuration that it was made with, and still no two
policies for a pair. -/
structure Ambient.Keeps (before after : Ambient) : Prop where
  config : after.table.config = before.table.config
  distinct : before.table.Distinct → after.table.Distinct

namespace Ambient.Keeps

variable {before between after : Ambient}

theorem refl (ambient : Ambient) : ambient.Keeps ambient := ⟨rfl, id⟩

theorem trans (first : before.Keeps between) (second : between.Keeps after) :
    before.Keeps after :=
  ⟨second.config.trans first.config, fun distinct => second.distinct (first.distinct distinct)⟩

end Ambient.Keeps

/-- What was put aside is put back, after a body that keeps the table's configuration. -/
theorem Ambient.leave_enter {before after : Ambient} {config : Option Config} {sink : Option Sink}
    (distinct : before.table.Distinct) (kept : (before.enter config sink).1.Keeps after) :
    after.leave (before.enter config sink).2 = before := by
  have refilled : after.table.clear.refill before.table.entries =
      { after.table.clear with entries := [] ++ before.table.entries } :=
    after.table.clear.refill_eq distinct
  have same : after.table.config = before.table.config := kept.config
  show Ambient.mk before.config (after.table.clear.refill before.table.entries) before.sink = before
  rw [refilled]
  show Ambient.mk before.config ⟨before.table.entries, after.table.config⟩ before.sink = before
  rw [same]

/-- Taking policies out of the table and entering them anew keeps what programs leave alone. -/
theorem Ambient.keeps_leave {before after : Ambient} {config : Option Config} {sink : Option Sink}
    (kept : (before.enter config sink).1.Keeps after) :
    before.Keeps (after.leave (before.enter config sink).2) := by
  refine ⟨?_, fun distinct => ?_⟩
  · show (after.table.clear.refill before.table.entries).config = before.table.config
    rw [PolicyTable.config_refill]
    exact kept.config
  · rw [leave_enter distinct kept]
    exact distinct

theorem Act.keeps (step : Act) (state : CallState) :
    state.ambient.Keeps (step.call.start state).2.ambient := by
  cases step with
  | table call =>
    show state.ambient.Keeps { state.ambient with table := _, config := _ }
    have changed := TableState.table_step ⟨state.ambient.table, state.ambient.config⟩ call
    refine ⟨?_, fun distinct => ?_⟩
    · show (TableState.step _ call).1.table.config = _
      rw [changed, PolicyTable.config_replay]
    · show (TableState.step _ call).1.table.Distinct
      rw [changed]
      exact distinct.replay _
  | setSink sink => exact ⟨rfl, id⟩
  | buildContext given request =>
    obtain ⟨ambient, earlier⟩ := state
    rw [call, Call.start_bind, Call.buildContext_follows given request earlier]
    cases (RowSecurity.buildContext (ambient.configFor given) (ambient.lookupFor given)
      request).outcome with
    | error failure => exact .refl ambient
    | ok context => exact .refl ambient

namespace Call

variable {α : Type} {config : Option Config} {sink : Option Sink}

theorem start_isolated (body : Call α) (before : CallState) :
    (isolated config sink body).start before =
      ((body.start (before.enter config sink)).1,
        ⟨(body.start (before.enter config sink)).2.ambient.leave
            (before.ambient.enter config sink).2,
          (body.start (before.enter config sink)).2.deliveries⟩) := rfl

/-- What fails is caught, and what it did before stays done. -/
theorem start_attempt (call : Call Unit) (state : CallState) :
    call.attempt.start state = (.ok (), (call.start state).2) := by
  show (ExceptT.tryCatch call fun _ => pure ()).run.run state = _
  rw [ExceptT.tryCatch, ExceptT.run_mk, StateT.run_bind]
  change (call.start state >>= _ : Id _) = _
  cases call.start state with
  | mk outcome after =>
    cases outcome with
    | ok done => rfl
    | error failure => rfl

/-- A call after another keeps what both keep. -/
theorem keeps_then {call rest : Call Unit} {state : CallState}
    (first : state.ambient.Keeps (call.start state).2.ambient)
    (later : ∀ after : CallState, after.ambient.Keeps (rest.start after).2.ambient) :
    state.ambient.Keeps ((call >>= fun _ => rest).start state).2.ambient := by
  rw [start_bind]
  cases ends : call.start state with
  | mk outcome after =>
    rw [ends] at first
    cases outcome with
    | ok done => exact first.trans (later after)
    | error failure => exact first

theorem keeps_isolated {body : Call α} {state : CallState}
    (kept : ∀ inner : CallState, inner.ambient.Keeps (body.start inner).2.ambient) :
    state.ambient.Keeps ((isolated config sink body).start state).2.ambient :=
  Ambient.keeps_leave (kept (state.enter config sink))

end Call

namespace Program

/-- Nothing that a program does changes what programs leave alone. -/
theorem keeps (program : Program) (state : CallState) :
    state.ambient.Keeps (program.run.start state).2.ambient := by
  induction program generalizing state with
  | done => exact .refl _
  | raise failure => exact .refl _
  | act step rest later => exact Call.keeps_then (step.keeps state) later
  | isolated config sink body rest inner later =>
    exact Call.keeps_then (Call.keeps_isolated inner) later
  | attempt body rest inner later =>
    refine Call.keeps_then ?_ later
    rw [Call.start_attempt]
    exact inner state

end Program

/-! ### The whole -/

/-- That an isolated part starts afresh, and that what follows it finds the state as it was. -/
structure Visit.Isolated (visit : Visit) : Prop where
  config : visit.inside.ambient.config = visit.config.getD .standard
  policies : visit.inside.ambient.table.entries = []
  sink : visit.inside.ambient.sink = visit.sink.getD .standard
  /-- If the body ends well, the rest starts in the state as it was before; if it fails, so does the
  whole, and in that state. -/
  leaves : (Program.isolated visit.config visit.sink visit.body visit.rest).run.start visit.before =
    match visit.body.run.start visit.inside with
    | (.ok _, after) => visit.rest.run.start ⟨visit.before.ambient, after.deliveries⟩
    | (.error failure, after) => (.error failure, ⟨visit.before.ambient, after.deliveries⟩)

theorem Visit.isolated {visit : Visit} (distinct : visit.before.ambient.table.Distinct) :
    visit.Isolated := by
  refine ⟨rfl, rfl, rfl, ?_⟩
  have restored := Ambient.leave_enter distinct
    (visit.body.keeps (visit.before.enter visit.config visit.sink))
  rw [Program.run, Call.start_bind, Call.start_isolated, restored, inside]
  cases visit.body.run.start (visit.before.enter visit.config visit.sink) with
  | mk outcome after =>
    cases outcome with
    | ok done => rfl
    | error failure => rfl

theorem Call.visitsAfter_forall {call : Call Unit} {state : CallState}
    {visits : CallState → List Visit} {P : Visit → Prop}
    (all : ∀ visit ∈ visits (call.start state).2, P visit) :
    ∀ visit ∈ call.visitsAfter state visits, P visit := by
  unfold visitsAfter
  split
  · rename_i ends
    rw [ends] at all
    exact all
  · exact fun _ member => absurd member List.not_mem_nil

/-- Every isolated part that a run comes to, in whatever depth, starts afresh and leaves no change
behind. -/
theorem Program.isolated_of_mem_visits {program : Program} {state : CallState}
    (distinct : state.ambient.table.Distinct) :
    ∀ visit ∈ program.visits state, visit.Isolated := by
  induction program generalizing state with
  | done => exact fun _ member => absurd member List.not_mem_nil
  | raise failure => exact fun _ member => absurd member List.not_mem_nil
  | act step rest ih => exact Call.visitsAfter_forall (ih ((step.keeps state).distinct distinct))
  | isolated config sink body rest inner later =>
    have kept : state.ambient.Keeps
        ((Call.isolated config sink body.run).start state).2.ambient :=
      Call.keeps_isolated body.keeps
    refine List.forall_mem_cons.mpr ⟨Visit.isolated distinct, fun visit member => ?_⟩
    rcases List.mem_append.mp member with inside | after
    · exact inner (PolicyTable.distinct_clear _) visit inside
    · exact Call.visitsAfter_forall (later (kept.distinct distinct)) visit after
  | attempt body rest inner later =>
    intro visit member
    rcases List.mem_append.mp member with inside | after
    · exact inner distinct visit inside
    · exact later ((body.keeps state).distinct distinct) visit after

/-- A state in which one policy has been entered, and events are recorded. -/
def scratchState : CallState :=
  ⟨⟨.standard, (PolicyTable.empty none).insert "admin" "scratch" .allRecords, .recording 1⟩, []⟩

/-- An isolated part in another one, which changes the configuration first. The inner one enters a
policy and fails. -/
def nestedParts : Program :=
  .isolated none none
    (.act (.table (.configure { Changes.none with maxParentDepth := some 9 }))
      (.isolated (some { Config.standard with onMissingPolicy := .fail }) (some (.recording 0))
        (.act (.table (.register "inside" "admin" (.raw .null))) (.raise (.general "boom")))
        .done))
    .done

theorem isolated_of_mem_visits_nested :
    scratchState.ambient.table.Distinct ∧ ∃ visit ∈ nestedParts.visits scratchState,
      visit.before.ambient.config.maxParentDepth = 9 ∧ visit.sink = some (.recording 0) ∧
      visit.Isolated ∧
      nestedParts.run.start scratchState = (.error (.general "boom"), scratchState) := by
  have distinct : scratchState.ambient.table.Distinct := by decide
  have all : ∀ visit ∈ nestedParts.visits scratchState, visit.Isolated :=
    Program.isolated_of_mem_visits distinct
  -- the inner part is the second that the run comes to
  have inner : _ ∈ nestedParts.visits scratchState := .tail _ (.head _)
  exact ⟨distinct, _, inner, by decide, rfl, all _ inner, rfl⟩

end RowSecurity
