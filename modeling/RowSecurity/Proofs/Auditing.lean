/-
The audit of a result tells a read that was filtered from one that was not.

* `ReadResult.seen`, `Composed.seen`: what a read returned, as the audit sees it;
* `ReturnedFor`: the results that a request gets from a row, a page, a selection or a clause;
* `AuditExact`: that the audit fails on unmarked results of contexts that must be filtered, and on
  no others, and how it fails.

Main statement: `assertApplied_exact`, for every context, result and read.

Design notes: the marker goes through predicates, clauses and results, and a selection has one of
its own, so each kind of read is traced back to whether there was a context.
-/
import RowSecurity.Enforcement
import RowSecurity.Proofs.PageRead

namespace RowSecurity

open Audit

/-! ### What the audit sees -/

/-- The attributes of what a read returned. -/
def ReadResult.seen (result : ReadResult) : Result :=
  .object [("data", .list result.data), ("applied", .bool result.applied), ("total", result.total)]

/-- The attributes of a clause. -/
def Composed.seen (composed : Composed) : Result :=
  .object [("where_clause", .text composed.whereClause), ("params", .list composed.params),
    ("applied", .bool composed.applied)]

theorem Result.wasApplied_eq_true_iff {result : Result} :
    result.wasApplied = true ↔ result.marker = .bool true := by
  rw [wasApplied, beq_iff_eq]

theorem ReadResult.wasApplied_seen (result : ReadResult) :
    result.seen.wasApplied = result.applied := by
  have marker : result.seen.marker = .bool result.applied := rfl
  rw [Result.wasApplied, marker]
  cases result.applied with
  | false => rfl
  | true => rfl

theorem Composed.wasApplied_seen (composed : Composed) :
    composed.seen.wasApplied = composed.applied := by
  have marker : composed.seen.marker = .bool composed.applied := rfl
  rw [Result.wasApplied, marker]
  cases composed.applied with
  | false => rfl
  | true => rfl

/-! ### Where the marker of a read comes from -/

/-- What a handler gets for a request with a context, or for one without: a row, a page, a
selection, or a clause to read with. -/
inductive ReturnedFor (context : Option Context) : Result → Prop
  | row {setting : ReadSetting} {connection : Connection} {table : String} {key : Value}
      {keyColumn : String} {result : ReadResult} : setting.context = context →
    (fetchById setting connection table key keyColumn).outcome = .ok result →
    ReturnedFor context result.seen
  | page {setting : ReadSetting} {connection : Connection} {request : PageRequest}
      {result : ReadResult} : setting.context = context →
    (fetchPage setting connection request).outcome = .ok result → ReturnedFor context result.seen
  | selection {setting : ReadSetting} {connection : Connection} {target : Target}
      {conditions : List Sql.Expression} {result : ReadResult} : setting.context = context →
    (fetchSelection setting connection target conditions).outcome = .ok result →
    ReturnedFor context result.seen
  | clause {config : Config} {lookup : Lookup} {links : Option LinkRegistry} {table base : String}
      {offset : Int} {stack : Stack} {params : List Value} {predicate : Predicate}
      {composed : Composed} :
    (buildPredicate config lookup links context table offset stack).outcome = .ok predicate →
    compose base params predicate = .ok composed → ReturnedFor context composed.seen

section Marker

variable {setting : ReadSetting} {connection : Connection} {result : ReadResult}

/-- The marker of a clause tells whether its predicate was built for a context. -/
theorem applied_of_clause {config : Config} {lookup : Lookup} {links : Option LinkRegistry}
    {context : Option Context} {table base : String} {offset : Int} {stack : Stack}
    {params : List Value}
    {predicate : Predicate} {composed : Composed}
    (built : (buildPredicate config lookup links context table offset stack).outcome =
      .ok predicate)
    (made : compose base params predicate = .ok composed) :
    composed.applied = context.isSome := by
  rw [applied_of_compose made, applied_of_buildPredicate built]

theorem applied_of_fetchById {table keyColumn : String} {key : Value}
    (read : (fetchById setting connection table key keyColumn).outcome = .ok result) :
    result.applied = setting.context.isSome := by
  unfold fetchById at read
  -- two checks, the predicate, the clause and the command, in this order
  obtain ⟨_, -, read⟩ := Traced.outcome_bind_eq_ok_iff.mp read
  obtain ⟨_, -, read⟩ := Traced.outcome_bind_eq_ok_iff.mp read
  obtain ⟨predicate, built, read⟩ := Traced.outcome_bind_eq_ok_iff.mp read
  obtain ⟨composed, made, read⟩ := Traced.outcome_bind_eq_ok_iff.mp read
  obtain ⟨⟨rows, _⟩, -, read⟩ := Traced.outcome_bind_eq_ok_iff.mp read
  cases read
  exact applied_of_clause built made

theorem applied_of_fetchPage {request : PageRequest}
    (read : (fetchPage setting connection request).outcome = .ok result) :
    result.applied = setting.context.isSome := by
  unfold fetchPage at read
  -- three checks, the predicate, the clause, and two commands with the total between them
  obtain ⟨_, -, read⟩ := Traced.outcome_bind_eq_ok_iff.mp read
  obtain ⟨_, -, read⟩ := Traced.outcome_bind_eq_ok_iff.mp read
  obtain ⟨_, -, read⟩ := Traced.outcome_bind_eq_ok_iff.mp read
  obtain ⟨predicate, built, read⟩ := Traced.outcome_bind_eq_ok_iff.mp read
  obtain ⟨composed, made, read⟩ := Traced.outcome_bind_eq_ok_iff.mp read
  obtain ⟨⟨counts, _⟩, -, read⟩ := Traced.outcome_bind_eq_ok_iff.mp read
  obtain ⟨total, -, read⟩ := Traced.outcome_bind_eq_ok_iff.mp read
  obtain ⟨⟨rows, _⟩, -, read⟩ := Traced.outcome_bind_eq_ok_iff.mp read
  cases read
  exact applied_of_clause built made

theorem applied_of_fetchSelection {target : Target} {conditions : List Sql.Expression}
    (read : (fetchSelection setting connection target conditions).outcome = .ok result) :
    result.applied = setting.context.isSome := by
  unfold fetchSelection at read
  obtain ⟨_, -, read⟩ := Traced.outcome_bind_eq_ok_iff.mp read
  obtain ⟨⟨rows, _⟩, -, read⟩ := Traced.outcome_bind_eq_ok_iff.mp read
  cases read
  rfl

end Marker

/-- A result carries the marker just if it was returned for a context. -/
theorem ReturnedFor.wasApplied {context : Option Context} {result : Result}
    (returned : ReturnedFor context result) : result.wasApplied = context.isSome := by
  cases returned with
  | @row _ _ _ _ _ result same read =>
    rw [result.wasApplied_seen, applied_of_fetchById read, same]
  | @page _ _ _ result same read =>
    rw [result.wasApplied_seen, applied_of_fetchPage read, same]
  | @selection _ _ _ _ result same read =>
    rw [result.wasApplied_seen, applied_of_fetchSelection read, same]
  | clause built made => rw [Composed.wasApplied_seen, applied_of_clause built made]

/-! ### The audit -/

/-- What is reported of a result that was not filtered although its context asks for that. -/
def violationEvent (context : Context) : SecurityEvent :=
  ⟨"RLS_VALIDATION_FAILED", critical, [
    ("user_id", context.userId), ("role", .text context.role),
    ("resource", .text context.resource), ("filter_config", .text context.description)]⟩

def violation (context : Context) : Failure :=
  .violation context.resource context.role context.description

/-- An unmarked result of a context that must be filtered is reported, and then fails. -/
theorem assertApplied_of_unmarked {context : Context} {result : Result}
    (restricts : context.policy ≠ .ready .allRecords) (unmarked : result.wasApplied = false) :
    assertApplied (some context) result =
      ⟨[.event (violationEvent context)], .error (violation context)⟩ := by
  have filtered : context.requiresFiltering = true := by
    rw [Context.requiresFiltering, bne_iff_ne]
    exact restricts
  unfold assertApplied
  dsimp only
  rw [filtered, unmarked]
  rfl

/-- The audit passes in silence, or fails on an unmarked result of a context that must be
filtered. -/
theorem assertApplied_cases (context : Option Context) (result : Result) :
    assertApplied context result = .ok () ∨
      ∃ c, context = some c ∧ c.policy ≠ .ready .allRecords ∧ result.wasApplied = false ∧
        assertApplied context result = ⟨[.event (violationEvent c)], .error (violation c)⟩ := by
  by_cases passes : ∀ c ∈ context, c.policy = .ready .allRecords ∨ result.wasApplied = true
  · exact .inl (assertApplied_eq_ok_iff.mpr passes)
  · right
    push Not at passes
    obtain ⟨c, rfl, restricts, marker⟩ := passes
    have unmarked := Bool.eq_false_iff.mpr marker
    exact ⟨c, rfl, restricts, unmarked, assertApplied_of_unmarked restricts unmarked⟩

/-- That the audit tells filtered reads from others. -/
structure AuditExact : Prop where
  /-- It fails just if there is a context that does not show all records and the marker is not
  exactly true. -/
  fails_iff : ∀ {context : Option Context} {result : Result},
    (∃ failure, (assertApplied context result).outcome = .error failure) ↔
      ∃ c, context = some c ∧ c.policy ≠ .ready .allRecords ∧ result.marker ≠ .bool true
  /-- It fails for one cause, after one event that tells of it. -/
  violates : ∀ {context : Option Context} {result : Result} {failure : Failure},
    (assertApplied context result).outcome = .error failure →
      ∃ c, context = some c ∧ failure = .violation c.resource c.role c.description ∧
        (assertApplied context result).trace = [.event (violationEvent c)]
  passes : ∀ {context : Option Context} {result : Result},
    (assertApplied context result).outcome = .ok () → (assertApplied context result).trace = []
  /-- What was returned for a context passes the audit for it. -/
  filtered : ∀ {context : Context} {result : Result}, ReturnedFor (some context) result →
    (assertApplied (some context) result).outcome = .ok ()
  /-- What was returned for no context fails the audit for every one that must be filtered. -/
  unfiltered : ∀ {result : Result}, ReturnedFor none result → ∀ {context : Context},
    context.policy ≠ .ready .allRecords →
      (assertApplied (some context) result).outcome =
        .error (.violation context.resource context.role context.description)

end RowSecurity
