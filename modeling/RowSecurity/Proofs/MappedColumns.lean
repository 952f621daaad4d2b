/-
Which column a filter restricts on a class that is mapped to a table.

* `RestrictsColumn`: that a filter restricts the column of the table that its policy names;
* `LeadsToColumn`: that a class leads a field to the column of the same name.

Main statement: `filterExpression_restrictsColumn_iff`: a filter restricts the column that the text
of its policy names just where the class leads there.

Design notes: a policy names columns and a class has attributes, so the two agree for a field whose
column is held by the attribute of its own name. Where attributes are called differently, a filter
may restrict another column (`filterExpression_swappedColumns`) or deny, and where one is called
`c`, it fails or looks for a column among plain values.
-/
import RowSecurity.Proofs.Renderings

namespace RowSecurity

open Audit

section Filter

variable {config : Config} {policy : PolicyValue} {identifiers : Fields} {target : Target}
  {entity table field key : String} {value : Value} {columns : List (String × String)}
  {others : Fields}

/-! ### From a restriction to its expression -/

/-- A restriction is an expression for what its field names on the target, if that is anything. -/
theorem filterExpression_of_restrict
    (decided : Decision.ofPolicy config policy identifiers = .restrict field key value)
    (target : Target) : filterExpression config policy identifiers target =
      match target.equation field value with
      | .error failure => .fail failure
      | .ok (some expression) => .ok expression
      | .ok none => ⟨[.event (strayEvent target.tableName field)], .ok .never⟩ := by
  have silent : resolve config policy identifiers target.tableName =
      .ok (.restrict field key value) := by
    rw [resolve_eq, decided]
    rfl
  unfold filterExpression
  dsimp only
  rw [silent, Traced.ok_bind]
  dsimp only
  cases target.equation field value with
  | error failure => rfl
  | ok found =>
    rw [Traced.ofExcept_ok_bind]
    cases found with
    | none => rfl
    | some expression => rfl

/-- That a filter on a mapped class restricts the column of its table with the name of the field, or
denies and tells of it if the table has no such column. -/
structure RestrictsColumn (config : Config) (policy : PolicyValue) (identifiers : Fields)
    (table : String) (columns : List (String × String)) (others : Fields) (field : String)
    (value : Value) : Prop where
  present : field ∈ columns.map (·.2) →
    filterExpression config policy identifiers (.mapped table columns others) =
      .ok (.equals table field value)
  absent : field ∉ columns.map (·.2) →
    (filterExpression config policy identifiers (.mapped table columns others)).outcome =
        .ok .never ∧
      (filterExpression config policy identifiers (.mapped table columns others)).events =
        [strayEvent (Target.mapped table columns others).tableName field]

/-- What a filter on a mapped class does is settled by what the field names there. -/
theorem restrictsColumn_iff_equation
    (decided : Decision.ofPolicy config policy identifiers = .restrict field key value) :
    RestrictsColumn config policy identifiers table columns others field value ↔
      (Target.mapped table columns others).equation field value =
        .ok (if field ∈ columns.map (·.2) then some (.equals table field value) else none) := by
  have rendered := filterExpression_of_restrict decided (.mapped table columns others)
  constructor
  · rintro ⟨present, absent⟩
    by_cases member : field ∈ columns.map (·.2)
    · have restricted := (present member).symm.trans rendered
      rw [if_pos member]
      split at restricted
      · cases restricted
      · rename_i expression found
        cases restricted
        exact found
      · cases restricted
    · obtain ⟨denied, told⟩ := absent member
      rw [if_neg member]
      rw [rendered] at denied told
      -- a condition that is found is told of in no event
      split at told
      · cases told
      · cases told
      · rename_i missing
        exact missing
  · intro due
    refine ⟨fun member => ?_, fun other => ?_⟩
    · rw [rendered, due, if_pos member]
    · rw [rendered, due, if_neg other]
      exact ⟨rfl, rfl⟩

/-! ### From a field to its column -/

/-- That a mapped class leads a field to the column of the same name, and nowhere if its table has
no such column. An attribute `c` is taken for the collection of columns; if it holds anything, the
field must be found neither there nor in the table. -/
structure LeadsToColumn (columns : List (String × String)) (others : Fields) (field : String) :
    Prop where
  unmapped : List.lookup "c" columns = none
  own : others.get "c" = .null →
    List.lookup field columns = if field ∈ columns.map (·.2) then some field else none
  held : others.get "c" ≠ .null → field ∉ columns.map (·.2) ∧
    ∃ fields, others.get "c" = .record fields ∧ Fields.get fields field = .null

theorem equation_of_attribute (unmapped : List.lookup "c" columns = none)
    (free : others.get "c" = .null) :
    (Target.mapped table columns others).equation field value =
      .ok ((List.lookup field columns).map fun column => .equals table column value) := by
  rw [Target.equation, unmapped, free]
  rfl

theorem equation_of_held (unmapped : List.lookup "c" columns = none)
    (taken : others.get "c" ≠ .null) :
    (Target.mapped table columns others).equation field value =
      Target.heldEquation (others.get "c") field value := by
  have given : ¬ (others.get "c").isNull = true := mt Value.isNull_iff.mp taken
  rw [Target.equation, unmapped, if_neg (by decide), if_neg given]

/-- The columns of a plain value are none, so nothing is found there or something that is no
column. -/
theorem heldEquation_eq_iff {held : Value} {due : Option Sql.Expression}
    (column : ∀ expression, due = some expression → ∃ name, expression = .equals table name value) :
    Target.heldEquation held field value = .ok due ↔
      due = none ∧ ∃ fields, held = .record fields ∧ Fields.get fields field = .null := by
  constructor
  · intro same
    unfold Target.heldEquation at same
    split at same
    · rename_i fields
      split at same
      · rename_i null
        cases same
        exact ⟨rfl, fields, rfl, Value.isNull_iff.mp null⟩
      · cases same
        obtain ⟨name, same⟩ := column _ rfl
        split at same
        · cases same
        · cases same
    · cases same
  · rintro ⟨rfl, fields, rfl, null⟩
    rw [Target.heldEquation, null]
    rfl

theorem map_equals_eq_iff {found due : Option String} :
    found.map (fun column => Sql.Expression.equals table column value) =
      due.map (fun column => Sql.Expression.equals table column value) ↔ found = due := by
  have distinct : Function.Injective fun column => Sql.Expression.equals table column value := by
    intro one other same
    cases same
    rfl
  exact (Option.map_injective distinct).eq_iff

/-- A field names the column of its own name just where the class leads there. -/
theorem equation_eq_iff_leadsToColumn :
    (Target.mapped table columns others).equation field value =
        .ok (if field ∈ columns.map (·.2) then some (.equals table field value) else none) ↔
      LeadsToColumn columns others field := by
  cases mapped : List.lookup "c" columns with
  | some column =>
    -- a column is taken for the collection of columns, and reading it fails
    constructor
    · intro same
      rw [Target.equation, mapped] at same
      cases same
    · intro leads
      exact absurd (mapped.symm.trans leads.unmapped) nofun
  | none =>
    by_cases free : others.get "c" = .null
    · have due : (if field ∈ columns.map (·.2) then some (.equals table field value) else none) =
          (if field ∈ columns.map (·.2) then some field else none).map
            fun column => Sql.Expression.equals table column value := by
        split
        · rfl
        · rfl
      rw [equation_of_attribute mapped free, Except.ok.injEq, due, map_equals_eq_iff]
      exact ⟨fun own => ⟨mapped, fun _ => own, fun taken => absurd free taken⟩,
        fun leads => leads.own free⟩
    · -- a plain value is taken for it, where no column can be found
      have column : ∀ expression,
          (if field ∈ columns.map (·.2) then some (Sql.Expression.equals table field value)
            else none) = some expression → ∃ name, expression = .equals table name value := by
        intro expression same
        split at same
        · cases same
          exact ⟨field, rfl⟩
        · cases same
      rw [equation_of_held mapped free, heldEquation_eq_iff column, ite_eq_right_iff]
      constructor
      · rintro ⟨other, held⟩
        refine ⟨mapped, fun null => absurd null free, fun _ => ⟨fun member => ?_, held⟩⟩
        cases other member
      · intro leads
        obtain ⟨other, held⟩ := leads.held free
        exact ⟨fun member => absurd member other, held⟩

/-! ### The whole -/

/-- Where a policy restricts a field, its filter on a mapped class restricts the column of that name
just where the class leads there. The text of the policy names that column on every table that can
be named. -/
theorem filterExpression_restrictsColumn_iff
    (decided : (resolve config policy identifiers entity).outcome =
      .ok (.restrict field key value)) :
    (RestrictsColumn config policy identifiers table columns others field value ↔
      LeadsToColumn columns others field) ∧
    ∀ offset : Nat, Text.isTableName table = true → offset + 1 < 10 ^ maxDigits →
      (interpret config policy identifiers table offset).outcome =
        .ok (.restrict (comparisonText table field (offset + 1)) [value] offset) := by
  rw [outcome_resolve, Except.ok.injEq] at decided
  refine ⟨?_, fun offset named written => ?_⟩
  · exact (restrictsColumn_iff_equation decided).trans equation_eq_iff_leadsToColumn
  · have text : (interpret config policy identifiers table offset).outcome = _ :=
      (interpret_eq_predicateOn named written).1
    rw [decided] at text
    exact text

end Filter

/-- Orders are restricted by the column of their owner, whatever the other attributes are called. -/
theorem filterExpression_restrictsColumn_orders :
    (resolve .standard (.raw (.text "owner")) [(userIdKey, .int 7)] "orders").outcome =
        .ok (.restrict "owner" userIdKey (.int 7)) ∧
      LeadsToColumn [("number", "id"), ("owner", "owner")] [("name", .text "Order")] "owner" ∧
      RestrictsColumn .standard (.raw (.text "owner")) [(userIdKey, .int 7)] "orders"
        [("number", "id"), ("owner", "owner")] [("name", .text "Order")] "owner" (.int 7) := by
  have decided : (resolve .standard (.raw (.text "owner")) [(userIdKey, .int 7)] "orders").outcome =
      .ok (.restrict "owner" userIdKey (.int 7)) := rfl
  have leads : LeadsToColumn [("number", "id"), ("owner", "owner")] [("name", .text "Order")]
      "owner" := ⟨rfl, fun _ => rfl, fun taken => absurd rfl taken⟩
  exact ⟨decided, leads, (filterExpression_restrictsColumn_iff decided).1.mpr leads⟩

/-- Where two attributes are each called as the column of the other, a policy on one of the columns
restricts the other one. -/
theorem filterExpression_swappedColumns :
    (resolve .standard (.raw (.text "owner_id")) [(userIdKey, .int 7)] "orders").outcome =
        .ok (.restrict "owner_id" userIdKey (.int 7)) ∧
      (filterExpression .standard (.raw (.text "owner_id")) [(userIdKey, .int 7)]
        (.mapped "orders" [("id", "id"), ("creator_id", "owner_id"), ("owner_id", "creator_id")]
          [])).outcome = .ok (.equals "orders" "creator_id" (.int 7)) ∧
      ¬ RestrictsColumn .standard (.raw (.text "owner_id")) [(userIdKey, .int 7)] "orders"
        [("id", "id"), ("creator_id", "owner_id"), ("owner_id", "creator_id")] [] "owner_id"
        (.int 7) := by
  refine ⟨rfl, rfl, fun restricts => ?_⟩
  have outcome := congrArg Traced.outcome (restricts.present (by decide))
  exact absurd outcome (by decide)

end RowSecurity
