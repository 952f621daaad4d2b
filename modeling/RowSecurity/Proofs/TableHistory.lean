/-
The history of a table of policies.

* `TableCall`: the calls that may change what a table answers;
* `TableState.run`: a table and the configuration in force after such calls, some of which fail;
* `TableState.history`: the policies that calls entered, and the clearings, in order;
* `PolicyTable.replay`: the table after such changes.

Main statements: `TableState.table_run` (a table after calls is the replay of their history) and
`TableState.load_amountsTo` (a load is the registration of its entries, up to the first one that is
refused).

Design notes: a policy is read with the default key in force when it is entered, and never again. So
a history holds policies and not the values that they were read from.
-/
import RowSecurity.Proofs.Loading

namespace RowSecurity

/-! ### Calls and their history -/

/-- A call that may change what a table answers. -/
inductive TableCall where
  | register (resource role : String) (value : PolicyValue)
  | load (policies : Fields)
  | clear
  | configure (changes : Changes)

/-- A table with the configuration in force. -/
structure TableState where
  table : PolicyTable
  inForce : Config

/-- A change of the policies that a table holds. -/
inductive TableChange where
  | entered (role resource : String) (policy : Policy)
  | cleared

/-- An entry of a mapping from resources to roles to values. It has no role if what the resource
maps to is no record. -/
structure MappingEntry where
  resource : String
  role : Option String
  value : Value

/-- The entries of a mapping, in order. -/
def mappingEntries (policies : Fields) : List MappingEntry :=
  policies.flatMap fun field =>
    match field.2 with
    | .record roles => roles.map fun entry => ⟨field.1, some entry.1, entry.2⟩
    | value => [⟨field.1, none, value⟩]

namespace MappingEntry

/-- The change that an entry makes, unless it is refused. -/
def change? (key : String) (entry : MappingEntry) : Option TableChange :=
  match entry.role, (PolicyValue.raw entry.value).parse key with
  | some role, some policy => some (.entered role entry.resource policy)
  | _, _ => none

/-- An entry that makes a change has a role, and a value that stands for a policy. -/
theorem change?_eq_some {key : String} {entry : MappingEntry} {change : TableChange}
    (changed : entry.change? key = some change) :
    ∃ role policy, entry.role = some role ∧
      (PolicyValue.raw entry.value).parse key = some policy ∧
      change = .entered role entry.resource policy := by
  unfold change? at changed
  split at changed
  · rename_i role policy named read
    exact ⟨role, policy, named, read, (Option.some.inj changed).symm⟩
  · cases changed

def accepted (key : String) (entry : MappingEntry) : Bool := (entry.change? key).isSome

/-- The call that enters an entry by itself. -/
def call? (entry : MappingEntry) : Option TableCall :=
  entry.role.map fun role => .register entry.resource role (.raw entry.value)

def refusal (entry : MappingEntry) : Failure :=
  .invalidPolicy (.raw entry.value) (some entry.resource)

end MappingEntry

namespace TableState

/-- The identifier that a column alone is compared with. -/
def key (state : TableState) : String := (state.table.effective state.inForce).defaultValueKey

/-- The state after a call, and how the call ends. -/
def step (state : TableState) : TableCall → TableState × Except Failure Unit
  | .register resource role value =>
    match state.table.register state.inForce resource role value with
    | .ok (table, _) => ({ state with table }, .ok ())
    | .error failure => (state, .error failure)
  | .load policies =>
    let (table, outcome) := state.table.load state.inForce policies
    ({ state with table }, outcome)
  | .clear => ({ state with table := state.table.clear }, .ok ())
  | .configure changes =>
    match state.inForce.merge changes with
    | .ok inForce => ({ state with inForce }, .ok ())
    | .error fault => (state, .error (.argument (.config fault)))

def run (state : TableState) (calls : List TableCall) : TableState :=
  calls.foldl (fun state call => (state.step call).1) state

/-- What a call enters or clears. A policy is read with the key in force then. -/
def changes (state : TableState) : TableCall → List TableChange
  | .register resource role value =>
    match value.parse state.key with
    | some policy => [.entered role resource policy]
    | none => []
  | .load policies =>
    ((mappingEntries policies).takeWhile (·.accepted state.key)).filterMap (·.change? state.key)
  | .clear => [.cleared]
  | .configure _ => []

/-- What calls enter or clear, one after another. -/
def history : TableState → List TableCall → List TableChange
  | _, [] => []
  | state, call :: calls => state.changes call ++ history (state.step call).1 calls

end TableState

/-! ### Loading entry by entry -/

def TableChange.on (table : PolicyTable) : TableChange → PolicyTable
  | .entered role resource policy => table.insert role resource policy
  | .cleared => table.clear

/-- The table after changes, one after another. -/
def PolicyTable.replay (table : PolicyTable) (changes : List TableChange) : PolicyTable :=
  changes.foldl TableChange.on table

@[simp] theorem TableChange.config_on (table : PolicyTable) (change : TableChange) :
    (change.on table).config = table.config := by
  cases change with
  | entered role resource policy => rfl
  | cleared => rfl

theorem PolicyTable.config_replay (table : PolicyTable) (changes : List TableChange) :
    (table.replay changes).config = table.config := by
  induction changes generalizing table with
  | nil => rfl
  | cons change rest ih => exact (ih (change.on table)).trans (TableChange.config_on table change)

/-- Entries are entered one after another, up to the first one that is refused. -/
def enterAll (key : String) : PolicyTable → List MappingEntry → PolicyTable × Except Failure Unit
  | table, [] => (table, .ok ())
  | table, entry :: rest =>
    match entry.change? key with
    | some change => enterAll key (change.on table) rest
    | none => (table, .error entry.refusal)

section Entries

variable {key : String} {table : PolicyTable} {inForce : Config}

theorem enterAll_append (table : PolicyTable) (first second : List MappingEntry) :
    enterAll key table (first ++ second) =
      match enterAll key table first with
      | (table, .ok ()) => enterAll key table second
      | (table, .error failure) => (table, .error failure) := by
  induction first generalizing table with
  | nil => rfl
  | cons entry rest ih =>
    rw [List.cons_append, enterAll, enterAll]
    cases entry.change? key with
    | some change => exact ih (change.on table)
    | none => rfl

/-- What is entered are the entries before the first refused one, which is why the rest fails. -/
theorem enterAll_eq (table : PolicyTable) (entries : List MappingEntry) :
    enterAll key table entries =
      (table.replay ((entries.takeWhile (·.accepted key)).filterMap (·.change? key)),
        match entries.dropWhile (·.accepted key) with
        | [] => .ok ()
        | entry :: _ => .error entry.refusal) := by
  induction entries generalizing table with
  | nil => rfl
  | cons entry rest ih =>
    cases changed : entry.change? key with
    | none =>
      have refused : ¬ entry.accepted key = true := by simp [MappingEntry.accepted, changed]
      rw [enterAll, changed, List.takeWhile_cons_of_neg refused, List.dropWhile_cons_of_neg refused]
      rfl
    | some change =>
      have accepted : entry.accepted key = true := by simp [MappingEntry.accepted, changed]
      rw [enterAll, changed, List.takeWhile_cons_of_pos accepted,
        List.dropWhile_cons_of_pos accepted, List.filterMap_cons_some changed]
      exact ih (change.on table)

theorem loadRoles_eq_enterAll (same : (table.effective inForce).defaultValueKey = key)
    (resource : String) (roles : Fields) :
    PolicyTable.loadRoles inForce resource table roles =
      enterAll key table (roles.map fun entry => ⟨resource, some entry.1, entry.2⟩) := by
  induction roles generalizing table with
  | nil => rfl
  | cons entry rest ih =>
    obtain ⟨role, value⟩ := entry
    rw [PolicyTable.loadRoles, PolicyTable.register, same, List.map_cons, enterAll,
      MappingEntry.change?]
    cases (PolicyValue.raw value).parse key with
    | none => rfl
    | some policy => exact @ih (table.insert role resource policy) same

theorem config_enterAll (table : PolicyTable) (entries : List MappingEntry) :
    (enterAll key table entries).1.config = table.config := by
  rw [enterAll_eq]
  exact PolicyTable.config_replay table _

/-- A mapping is loaded entry by entry. -/
theorem load_eq_enterAll (same : (table.effective inForce).defaultValueKey = key)
    (policies : Fields) :
    table.load inForce policies = enterAll key table (mappingEntries policies) := by
  induction policies generalizing table with
  | nil => rfl
  | cons field rest ih =>
    obtain ⟨resource, value⟩ := field
    have whole : mappingEntries ((resource, value) :: rest) =
        mappingEntries [(resource, value)] ++ mappingEntries rest := by
      simp [mappingEntries]
    rw [whole, enterAll_append]
    cases value with
    | record roles =>
      have one : mappingEntries [(resource, .record roles)] =
          roles.map fun entry => ⟨resource, some entry.1, entry.2⟩ := by
        simp [mappingEntries]
      have kept : (enterAll key table
          (roles.map fun entry => ⟨resource, some entry.1, entry.2⟩)).1.config = table.config :=
        config_enterAll table _
      rw [PolicyTable.load, loadRoles_eq_enterAll same, one]
      cases entered : enterAll key table
          (roles.map fun entry => ⟨resource, some entry.1, entry.2⟩) with
      | mk after outcome =>
        rw [entered] at kept
        cases outcome with
        | error failure => rfl
        | ok _ =>
          refine @ih after ?_
          rw [PolicyTable.effective, kept]
          exact same
    | null | bool _ | int _ | real _ | text _ | list _ => rfl

end Entries

/-! ### A table is the replay of its history -/

/-- That the configuration in force and that of the table, if it has one, obey every rule. -/
structure TableState.Valid (state : TableState) : Prop where
  inForce : state.inForce.Valid
  own : ∀ config ∈ state.table.config, config.Valid

namespace TableState

variable {state : TableState} {call : TableCall} {role resource : String} {policy : Policy}

theorem Valid.isName_key (valid : state.Valid) : Text.isName state.key = true := by
  unfold key PolicyTable.effective
  cases own : state.table.config with
  | none => exact valid.inForce.defaultValueKey
  | some config => exact (valid.own config own).defaultValueKey

theorem step_register_of_ok {value : PolicyValue} (read : value.parse state.key = some policy) :
    state.step (.register resource role value) =
      ({ state with table := state.table.insert role resource policy }, .ok ()) := by
  rw [step, PolicyTable.register_eq_ok_iff.mpr ⟨read, rfl⟩]

theorem step_register_of_error {value : PolicyValue} (unread : value.parse state.key = none) :
    state.step (.register resource role value) =
      (state, .error (.invalidPolicy value (some resource))) := by
  rw [step, PolicyTable.register_eq_error_iff.mpr ⟨unread, rfl⟩]

theorem step_load (policies : Fields) :
    state.step (.load policies) =
      ({ state with table := state.table.replay (state.changes (.load policies)) },
        match (mappingEntries policies).dropWhile (·.accepted state.key) with
        | [] => .ok ()
        | entry :: _ => .error entry.refusal) := by
  rw [step, load_eq_enterAll rfl, enterAll_eq]
  rfl

/-- The table after a call has the changes of the call made. -/
theorem table_step (state : TableState) (call : TableCall) :
    (state.step call).1.table = state.table.replay (state.changes call) := by
  cases call with
  | register resource role value =>
    rw [changes]
    cases read : value.parse state.key with
    | none =>
      rw [step_register_of_error read]
      rfl
    | some policy =>
      rw [step_register_of_ok read]
      rfl
  | load policies => rw [step_load]
  | clear => rfl
  | configure changed =>
    rw [step]
    cases state.inForce.merge changed with
    | error fault => rfl
    | ok merged => rfl

theorem Valid.step (valid : state.Valid) (call : TableCall) : (state.step call).1.Valid := by
  refine ⟨?_, ?_⟩
  · cases call with
    | register resource role value =>
      cases read : value.parse state.key with
      | none =>
        rw [step_register_of_error read]
        exact valid.inForce
      | some policy =>
        rw [step_register_of_ok read]
        exact valid.inForce
    | load policies => exact valid.inForce
    | clear => exact valid.inForce
    | configure changed =>
      rw [TableState.step]
      cases merged : state.inForce.merge changed with
      | error fault => exact valid.inForce
      | ok config => exact Config.valid_of_merge merged
  · rw [table_step, PolicyTable.config_replay]
    exact valid.own

/-- The table after calls is the replay of their history. -/
theorem table_run (state : TableState) (calls : List TableCall) :
    (state.run calls).table = state.table.replay (state.history calls) := by
  induction calls generalizing state with
  | nil => rfl
  | cons call rest ih =>
    rw [history, PolicyTable.replay, List.foldl_append]
    refine (ih (state.step call).1).trans ?_
    rw [table_step, PolicyTable.replay, PolicyTable.replay]

theorem Valid.run (valid : state.Valid) (calls : List TableCall) : (state.run calls).Valid := by
  induction calls generalizing state with
  | nil => exact valid
  | cons call rest ih => exact ih (valid.step call)

/-- A policy that a call enters was read with the key in force then. -/
theorem exists_parse_of_changes (entered : .entered role resource policy ∈ state.changes call) :
    ∃ value : PolicyValue, value.parse state.key = some policy := by
  cases call with
  | register resource role value =>
    rw [changes] at entered
    cases read : value.parse state.key with
    | none =>
      rw [read] at entered
      cases entered
    | some found =>
      rw [read] at entered
      cases List.mem_singleton.mp entered
      exact ⟨value, read⟩
  | load policies =>
    obtain ⟨entry, -, changed⟩ := List.mem_filterMap.mp entered
    obtain ⟨_, found, -, read, same⟩ := MappingEntry.change?_eq_some changed
    cases same
    exact ⟨.raw entry.value, read⟩
  | clear => cases List.mem_singleton.mp entered
  | configure changed => cases entered

/-- Every policy that calls enter stands for itself, whatever the default key is. -/
theorem Valid.parse_of_history (valid : state.Valid) {calls : List TableCall}
    (entered : .entered role resource policy ∈ state.history calls) (key : String) :
    (PolicyValue.ready policy).parse key = some policy := by
  induction calls generalizing state with
  | nil => cases entered
  | cons call rest ih =>
    rcases List.mem_append.mp entered with now | later
    · obtain ⟨value, read⟩ := exists_parse_of_changes now
      exact PolicyValue.parse_ready_of_parse valid.isName_key read
    · exact ih (valid.step call) later

end TableState

/-! ### Loads as registrations -/

/-- That a call comes to the same as other calls: the same state, and the same changes. -/
structure TableState.AmountsTo (state : TableState) (call : TableCall) (calls : List TableCall) :
    Prop where
  after : (state.step call).1 = state.run calls
  changes : state.changes call = state.history calls

section Loads

variable {state : TableState} {entries : List MappingEntry} {policies : Fields}

namespace TableState

/-- Registering entries that are accepted makes their changes and no others. -/
theorem run_calls (accepted : ∀ entry ∈ entries, entry.accepted state.key = true) :
    state.run (entries.filterMap MappingEntry.call?) =
        { state with
          table := state.table.replay (entries.filterMap (·.change? state.key)) } ∧
      state.history (entries.filterMap MappingEntry.call?) =
        entries.filterMap (·.change? state.key) := by
  induction entries generalizing state with
  | nil => exact ⟨rfl, rfl⟩
  | cons entry rest ih =>
    obtain ⟨_, change⟩ := Option.isSome_iff_exists.mp (accepted entry List.mem_cons_self)
    obtain ⟨role, policy, named, read, rfl⟩ := MappingEntry.change?_eq_some change
    have call : entry.call? = some (.register entry.resource role (.raw entry.value)) := by
      rw [MappingEntry.call?, named]
      rfl
    -- the key of the table is that of its configuration, which an entry leaves alone
    have later := @ih { state with table := state.table.insert role entry.resource policy }
      fun other member => accepted other (List.mem_cons_of_mem _ member)
    rw [List.filterMap_cons_some call, List.filterMap_cons_some change, run, List.foldl_cons,
      history, step_register_of_ok read, changes, read]
    exact ⟨later.1, congrArg (_ :: ·) later.2⟩

/-- A load registers the entries before the first one that is refused. -/
theorem load_amountsTo (state : TableState) (policies : Fields) :
    state.AmountsTo (.load policies)
      (((mappingEntries policies).takeWhile (·.accepted state.key)).filterMap
        MappingEntry.call?) := by
  obtain ⟨after, changed⟩ := @run_calls state
    ((mappingEntries policies).takeWhile (·.accepted state.key))
    fun _ member => List.mem_takeWhile_imp member
  refine ⟨?_, changed.symm⟩
  rw [after, step_load]
  rfl

theorem loads_of_ok (loaded : (state.step (.load policies)).2 = .ok ()) :
    (∀ entry ∈ mappingEntries policies, entry.accepted state.key = true) ∧
      state.AmountsTo (.load policies)
        ((mappingEntries policies).filterMap MappingEntry.call?) := by
  have amounts := state.load_amountsTo policies
  have whole := List.takeWhile_append_dropWhile (p := (·.accepted state.key))
    (l := mappingEntries policies)
  rw [step_load] at loaded
  cases rest : (mappingEntries policies).dropWhile (·.accepted state.key) with
  | cons entry after =>
    rw [rest] at loaded
    cases loaded
  | nil =>
    rw [rest, List.append_nil] at whole
    rw [whole] at amounts
    exact ⟨fun entry member => List.mem_takeWhile_imp (whole.symm ▸ member), amounts⟩

theorem fails_of_error {failure : Failure}
    (failed : (state.step (.load policies)).2 = .error failure) :
    ∃ before offending after, mappingEntries policies = before ++ offending :: after ∧
      (∀ entry ∈ before, entry.accepted state.key = true) ∧
      offending.accepted state.key = false ∧ failure = offending.refusal ∧
      state.AmountsTo (.load policies) (before.filterMap MappingEntry.call?) := by
  have whole := List.takeWhile_append_dropWhile (p := (·.accepted state.key))
    (l := mappingEntries policies)
  rw [step_load] at failed
  cases rest : (mappingEntries policies).dropWhile (·.accepted state.key) with
  | nil =>
    rw [rest] at failed
    cases failed
  | cons offending after =>
    rw [rest] at failed whole
    cases failed
    have refused := List.head_dropWhile_not (·.accepted state.key)
      (l := mappingEntries policies) (by simp [rest])
    simp only [rest, List.head_cons] at refused
    exact ⟨_, offending, after, whole.symm, fun _ member => List.mem_takeWhile_imp member,
      refused, rfl, state.load_amountsTo policies⟩

end TableState

end Loads

end RowSecurity
