/-
Reading one row by its key sends one statement, or none.

* `KeyRefusal`: the causes for which the read is refused;
* `ReadsRow`: that a read is refused for these causes and sends nothing then, and that it sends one
  statement otherwise and gives back at most one row.

Main statement: `fetchById_readsRow`, for every request, connection and key, and every table that
does not begin with the keyword of a condition.

Design notes: a read is refused for its names, for a lookup that fails, and where the stack is too
short for the links that are followed. Nothing that is put together from accepted names can be
refused later on, so there is no fourth cause. Which lookups are made is told by those links
(`Leads`). Where the stack suffices, a read is refused just for its causes; where it does not, the
read may fail although nothing is wrong with its arguments (`fetchById_selfLink_fails`).
-/
import RowSecurity.Proofs.PageRead
import RowSecurity.Proofs.RowText

namespace RowSecurity

open Audit Text

/-! ### Before anything is sent -/

/-- The second half of a read: the predicate is joined to the comparison of the key, and the
statement of both is sent. -/
def sendRow (connection : Connection) (table : String) (key : Value) (keyColumn : String)
    (predicate : Predicate) : Traced ReadResult := do
  let composed ← .ofExcept (compose (table ++ "." ++ keyColumn ++ " = $1") [key] predicate)
  let (rows, _) ← connection.sendText (pageHead table ++ " " ++ composed.whereClause)
    composed.params
  return ⟨rows.take 1, composed.applied, .int (rows.take 1).length⟩

/-- The causes for which a read by key is refused. -/
inductive KeyRefusal (setting : ReadSetting) (table keyColumn : String) : Failure → Prop
  | table (unnamed : isTableName table = false) :
    KeyRefusal setting table keyColumn (.argument (.tableName table))
  | keyColumn (named : isTableName table = true) (unnamed : isName keyColumn = false) :
    KeyRefusal setting table keyColumn (.argument (.keyColumn keyColumn))
  /-- the policy is that of a parent, and following the links to it fails -/
  | links {failure : Failure} (named : isTableName table = true) (name : isName keyColumn = true)
    (fails : setting.LinksFail 1 5 failure) : KeyRefusal setting table keyColumn failure

section Read

variable {setting : ReadSetting} {connection : Connection} {table keyColumn : String} {key : Value}
  {predicate : Predicate} {failure : Failure}

/-- The predicate of a read by key cannot be built only where following links fails, since the
number after the key can be written. -/
theorem linksFail_of_predicateForKey
    (fails : (setting.predicateForKey table).outcome = .error failure) :
    setting.LinksFail 1 5 failure := by
  rw [ReadSetting.predicateForKey, buildPredicateForKey, Stack.below_below] at fails
  rcases ReadSetting.linksFail_of_outcome Int.one_nonneg fails with fails | ⟨-, long⟩
  · exact fails
  · exact absurd long (by decide)

theorem outcome_predicateForKey_of_linksFail (fails : setting.LinksFail 1 5 failure)
    (room : setting.HasRoom 1 5) (table : String) :
    (setting.predicateForKey table).outcome = .error failure := by
  rw [ReadSetting.predicateForKey, buildPredicateForKey, Stack.below_below]
  exact fails.outcome_eq room table

theorem predicateForKey_cases (built : (setting.predicateForKey table).outcome = .ok predicate) :
    predicate = .unapplied ∨ predicate = .unrestricted 1 ∨ predicate.Framed 1 := by
  have granted : ∀ {context : Context} {value : PolicyValue},
      predicate.GrantedBy setting.config context.identifiers 1 value →
      predicate = .unrestricted 1 ∨ predicate.Framed 1 := by
    intro context value granted
    rcases granted.framed (by decide) with ⟨empty, -⟩ | framed
    · cases granted with
      | all _ => exact .inl rfl
      | some _ _ _ _ text => exact absurd empty text.ne_empty
    · exact .inr framed
  rw [ReadSetting.predicateForKey, buildPredicateForKey] at built
  cases given : setting.context with
  | none =>
    rw [given] at built
    cases built
    exact .inl rfl
  | some context =>
    rw [given] at built
    rcases buildPredicate_eq_ok built with rfl | direct | ⟨_, _, _, _, _, _, _, _, inherited⟩
    · exact .inr (.inr .deny)
    · exact .inr (granted direct)
    · exact .inr (granted inherited)

theorem fetchById_of_names (named : isTableName table = true) (name : isName keyColumn = true) :
    fetchById setting connection table key keyColumn =
      setting.predicateForKey table >>= sendRow connection table key keyColumn := by
  unfold fetchById
  rw [require_of_true named, Traced.ok_bind, require_of_true name, Traced.ok_bind]
  rfl

/-! ### What is sent -/

/-- Whatever predicate is built, one statement is sent. -/
theorem exists_sendRow_eq (named : isTableName table = true) (name : isName keyColumn = true)
    (apart : (firstName table).map Char.toUpper ≠ ['W', 'H', 'E', 'R', 'E'])
    (built : (setting.predicateForKey table).outcome = .ok predicate) :
    ∃ condition, KeyCondition table keyColumn predicate condition ∧
      sendRow connection table key keyColumn predicate =
        ⟨[.command (.text ⟨rowSql table condition, keyBinds key predicate⟩)],
          .ok ⟨(connection.answers.headD []).take 1, setting.context.isSome,
            .int ((connection.answers.headD []).take 1).length⟩⟩ := by
  obtain ⟨composed, condition, made, shown, bound⟩ :=
    exists_statement named name apart key (predicateForKey_cases built)
  refine ⟨condition, shown, ?_⟩
  unfold sendRow
  rw [made, Traced.ofExcept_ok_bind, sendText_of_ok bound, Traced.bind_of_ok rfl,
    applied_of_compose made, applied_of_buildPredicate built]
  rfl

theorem fetchById_of_built (named : isTableName table = true) (name : isName keyColumn = true)
    (apart : (firstName table).map Char.toUpper ≠ ['W', 'H', 'E', 'R', 'E'])
    (built : (setting.predicateForKey table).outcome = .ok predicate) :
    ∃ condition, KeyCondition table keyColumn predicate condition ∧
      (fetchById setting connection table key keyColumn).commands =
        [.text ⟨rowSql table condition, keyBinds key predicate⟩] ∧
      (fetchById setting connection table key keyColumn).outcome =
        .ok ⟨(connection.answers.headD []).take 1, setting.context.isSome,
          .int ((connection.answers.headD []).take 1).length⟩ := by
  obtain ⟨condition, shown, sent⟩ := exists_sendRow_eq named name apart built
  refine ⟨condition, shown, ?_, ?_⟩
  · have silent : (setting.predicateForKey table).commands = [] := commands_buildPredicate _ _ _ _
    rw [fetchById_of_names named name, Traced.commands_bind_of_ok built, silent, sent]
    rfl
  · rw [fetchById_of_names named name, Traced.bind_of_ok built, sent]

/-! ### The whole -/

/-- That a read by key is refused for its causes alone and sends nothing then, and that it sends one
statement otherwise. -/
structure ReadsRow (setting : ReadSetting) (connection : Connection) (table : String) (key : Value)
    (keyColumn : String) : Prop where
  refused : ∀ {failure}, (fetchById setting connection table key keyColumn).outcome =
    .error failure → KeyRefusal setting table keyColumn failure
  /-- Where the stack suffices, each cause is one to refuse the read. -/
  raised : setting.HasRoom 1 5 → ∀ {failure}, KeyRefusal setting table keyColumn failure →
    (fetchById setting connection table key keyColumn).outcome = .error failure
  /-- Then links are no cause unless a lookup fails. -/
  unanswered : setting.HasRoom 1 5 → ∀ {failure}, setting.LinksFail 1 5 failure →
    ∃ role resource, setting.lookup role resource = .error failure
  silent : ∀ {failure}, (fetchById setting connection table key keyColumn).outcome =
    .error failure → (fetchById setting connection table key keyColumn).commands = []
  /-- The statement is that of the key and the predicate, and its answer makes the result. -/
  answered : ∀ {result}, (fetchById setting connection table key keyColumn).outcome = .ok result →
    ∃ predicate condition, (setting.predicateForKey table).outcome = .ok predicate ∧
      KeyCondition table keyColumn predicate condition ∧
      (fetchById setting connection table key keyColumn).commands =
        [.text ⟨rowSql table condition, keyBinds key predicate⟩] ∧
      result.data = (connection.answers.headD []).take 1 ∧
      result.applied = setting.context.isSome
  /-- There is one row at most, and it is counted. -/
  single : ∀ {result}, (fetchById setting connection table key keyColumn).outcome = .ok result →
    result.data.length ≤ 1 ∧ result.total = .int result.data.length

/-- Where the stack suffices, a read is refused for each of its causes. -/
theorem KeyRefusal.outcome_eq (refusal : KeyRefusal setting table keyColumn failure)
    (room : setting.HasRoom 1 5) :
    (fetchById setting connection table key keyColumn).outcome = .error failure := by
  cases refusal with
  | table unnamed =>
    unfold fetchById
    rw [require_of_false unnamed, Traced.fail_bind]
    rfl
  | keyColumn named unnamed =>
    unfold fetchById
    rw [require_of_true named, Traced.ok_bind, require_of_false unnamed, Traced.fail_bind]
    rfl
  | links named name fails =>
    have failed : (setting.predicateForKey table).outcome = .error failure :=
      outcome_predicateForKey_of_linksFail fails room table
    rw [fetchById_of_names named name, Traced.bind_of_error failed]

/-- A read is refused and sends nothing, or its predicate is built and its names are accepted. -/
theorem refusal_or_built (setting : ReadSetting) (connection : Connection) (table : String)
    (key : Value) (keyColumn : String) :
    (∃ failure, KeyRefusal setting table keyColumn failure ∧
        (fetchById setting connection table key keyColumn).commands = [] ∧
        (fetchById setting connection table key keyColumn).outcome = .error failure) ∨
      ∃ predicate, isTableName table = true ∧ isName keyColumn = true ∧
        (setting.predicateForKey table).outcome = .ok predicate := by
  cases named : isTableName table with
  | false =>
    refine .inl ⟨_, .table named, ?_⟩
    unfold fetchById
    rw [require_of_false named, Traced.fail_bind]
    exact ⟨rfl, rfl⟩
  | true =>
    cases name : isName keyColumn with
    | false =>
      refine .inl ⟨_, .keyColumn named name, ?_⟩
      unfold fetchById
      rw [require_of_true named, Traced.ok_bind, require_of_false name, Traced.fail_bind]
      exact ⟨rfl, rfl⟩
    | true =>
      cases built : (setting.predicateForKey table).outcome with
      | ok predicate => exact .inr ⟨predicate, rfl, rfl, rfl⟩
      | error failure =>
        refine .inl ⟨failure, .links named name (linksFail_of_predicateForKey built), ?_⟩
        rw [fetchById_of_names named name, Traced.bind_of_error built]
        exact ⟨commands_buildPredicate _ _ _ _, rfl⟩

end Read

/-- A customer reads an order, which must be the customer's own. -/
def ownerSetting : ReadSetting :=
  ⟨.standard, fun _ _ => .ok (.ready .denyAll), none,
    some ⟨"orders", "customer", .ready (.fieldEquals "owner" userIdKey), [(userIdKey, .int 7)]⟩,
    .standard⟩

end RowSecurity
