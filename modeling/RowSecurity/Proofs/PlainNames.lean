/-
The names in the conditions that are built.

* `Text.Plain`, `Text.Accepted`: the names that may stand in a statement, and those that are let in;
* `ConditionForm`: the grammar of conditions, over whatever counts as a name;
* `TableMeets`, `ParentLink.NamesMeet`, `PolicyValue.FieldMeets`: that the names which come from a
  table, a link or a policy have a property;
* `Unbroken`: that no name of a request has a line break.

Main statement: `buildPredicate_derives`: every condition that is built is derived from names that
were let in, and from names that are plain just where it has no line break.

Design notes: the grammar has what counts as a name as a parameter, so that one induction along the
links serves both kinds of names. They differ in the line break that a name may end with when it is
let in (`buildPredicate_brokenName`).
-/
import RowSecurity.Proofs.ParentScope
import RowSecurity.Proofs.Totality

namespace RowSecurity

open Audit

/-! ### Names -/

namespace Text

/-- A letter or underscore, followed by letters, digits and underscores and by nothing else. -/
def Plain (name : String) : Prop := plainName name.toList = true

/-- What is let in as the name of a column. -/
def Accepted (name : String) : Prop := isName name = true

theorem break_not_mem_of_plain {name : String} (plain : Plain name) : '\n' ∉ name.toList := by
  intro member
  exact absurd (continuesName_of_mem_plainName plain member) (by decide)

/-- A name that is let in is plain if no line break stands in it. -/
theorem Accepted.plain {name : String} (accepted : Accepted name) (unbroken : '\n' ∉ name.toList) :
    Plain name := by
  have ending : name.toList.getLast? ≠ some '\n' := fun last => unbroken (List.mem_of_getLast? last)
  rw [Accepted, isName, dropFinalBreak_of_getLast ending] at accepted
  exact accepted

/-- A name with a line break after it is let in. -/
theorem accepted_append_break {cs : List Char} (name : plainName cs = true) :
    Accepted (String.ofList (cs ++ ['\n'])) := by
  rw [Accepted, isName, String.toList_ofList, dropFinalBreak, if_pos List.getLast?_concat,
    List.dropLast_concat]
  exact name

theorem accepted_ofList {cs : List Char} (name : plainName cs = true) :
    Accepted (String.ofList cs) :=
  isName_of_plain (by rwa [String.toList_ofList])

/-- A path is a name, or two names joined by a point. -/
theorem plainPath_cases {cs : List Char} (path : plainPath cs = true) :
    plainName cs = true ∨ ∃ first second, cs = first ++ '.' :: second ∧ plainName first = true ∧
      plainName second = true := by
  have whole := List.takeWhile_append_dropWhile (p := (· != '.')) (l := cs)
  unfold plainPath at path
  dsimp only at path
  split at path
  · rename_i rest
    rw [rest, List.append_nil] at whole
    exact .inl (whole ▸ path)
  · rename_i point second rest
    rw [Bool.and_eq_true] at path
    -- what stops the first name is the point itself
    have stop := List.head?_dropWhile_not (· != '.') cs
    rw [rest] at stop
    have isPoint : point = '.' := by simpa using stop
    rw [rest, isPoint] at whole
    exact .inr ⟨_, second, whole.symm, path.1, path.2⟩

end Text

/-! ### The grammar of conditions -/

/-- A table: its name, or those of its schema and itself. -/
inductive TableForm (named : String → Prop) : String → Prop
  | alone {table : String} : named table → TableForm named table
  | within {schema table : String} : named schema → named table →
    TableForm named (schema ++ "." ++ table)

/-- A column: its name, with its table before it or without. -/
inductive ColumnForm (named : String → Prop) : String → Prop
  | alone {column : String} : named column → ColumnForm named column
  | within {table column : String} : TableForm named table → named column →
    ColumnForm named (table ++ "." ++ column)

/-- A condition: none, the one that no row meets, a column that equals a numbered value, or a column
that is among those of the rows of a table that meet a condition. -/
inductive ConditionForm (named : String → Prop) : String → Prop
  | empty : ConditionForm named ""
  | never : ConditionForm named "1=0"
  | comparison {column : String} (number : Nat) : ColumnForm named column →
    ConditionForm named (column ++ " = $" ++ toString number)
  | membership {column table key condition : String} : ColumnForm named column →
    TableForm named table → named key → ConditionForm named condition →
    ConditionForm named (column ++ " IN (SELECT " ++ table ++ "." ++ key ++ " FROM " ++ table ++
      " WHERE " ++ condition ++ ")")

section Breaks

open Text

theorem TableForm.unbroken {table : String} (form : TableForm Plain table) :
    '\n' ∉ table.toList := by
  cases form with
  | alone name => exact break_not_mem_of_plain name
  | within schema name =>
    have point : '\n' ∉ ".".toList := by decide
    simp only [String.toList_append, List.mem_append, not_or]
    exact ⟨⟨break_not_mem_of_plain schema, point⟩, break_not_mem_of_plain name⟩

theorem ColumnForm.unbroken {column : String} (form : ColumnForm Plain column) :
    '\n' ∉ column.toList := by
  cases form with
  | alone name => exact break_not_mem_of_plain name
  | within table name =>
    have point : '\n' ∉ ".".toList := by decide
    simp only [String.toList_append, List.mem_append, not_or]
    exact ⟨⟨table.unbroken, point⟩, break_not_mem_of_plain name⟩

theorem break_not_mem_toString (number : Nat) : '\n' ∉ (toString number).toList := by
  intro member
  have digits : (toString number).toList = Nat.toDigits 10 number := String.toList_ofList
  rw [digits] at member
  exact absurd (Sql.isDigit_of_mem_toDigits '\n' member) (by decide)

/-- What is derived from plain names has no line break. -/
theorem ConditionForm.unbroken {condition : String} (form : ConditionForm Plain condition) :
    '\n' ∉ condition.toList := by
  induction form with
  | empty => decide
  | never => decide
  | comparison number column =>
    have equals : '\n' ∉ " = $".toList := by decide
    simp only [String.toList_append, List.mem_append, not_or]
    exact ⟨⟨column.unbroken, equals⟩, break_not_mem_toString number⟩
  | membership column table key _ ih =>
    have words : '\n' ∉ " IN (SELECT ".toList ∧ '\n' ∉ ".".toList ∧ '\n' ∉ " FROM ".toList ∧
        '\n' ∉ " WHERE ".toList ∧ '\n' ∉ ")".toList := by decide
    obtain ⟨select, point, source, keyword, closing⟩ := words
    simp only [String.toList_append, List.mem_append, not_or]
    exact ⟨⟨⟨⟨⟨⟨⟨⟨⟨column.unbroken, select⟩, table.unbroken⟩, point⟩, break_not_mem_of_plain key⟩,
      source⟩, table.unbroken⟩, keyword⟩, ih⟩, closing⟩

theorem TableForm.plain {table : String} (form : TableForm Accepted table)
    (unbroken : '\n' ∉ table.toList) : TableForm Plain table := by
  cases form with
  | alone name => exact .alone (name.plain unbroken)
  | within schema name =>
    simp only [String.toList_append, List.mem_append, not_or] at unbroken
    exact .within (schema.plain unbroken.1.1) (name.plain unbroken.2)

theorem ColumnForm.plain {column : String} (form : ColumnForm Accepted column)
    (unbroken : '\n' ∉ column.toList) : ColumnForm Plain column := by
  cases form with
  | alone name => exact .alone (name.plain unbroken)
  | within table name =>
    simp only [String.toList_append, List.mem_append, not_or] at unbroken
    exact .within (table.plain unbroken.1.1) (name.plain unbroken.2)

/-- What is derived from names that are let in is derived from plain ones, if it has no line
break. -/
theorem ConditionForm.plain {condition : String} (form : ConditionForm Accepted condition)
    (unbroken : '\n' ∉ condition.toList) : ConditionForm Plain condition := by
  induction form with
  | empty => exact .empty
  | never => exact .never
  | comparison number column =>
    simp only [String.toList_append, List.mem_append, not_or] at unbroken
    exact .comparison number (column.plain unbroken.1.1)
  | membership column table key _ ih =>
    simp only [String.toList_append, List.mem_append, not_or] at unbroken
    obtain ⟨⟨⟨⟨⟨⟨⟨⟨⟨hcolumn, _⟩, htable⟩, _⟩, hkey⟩, _⟩, _⟩, _⟩, hcondition⟩, _⟩ := unbroken
    exact .membership (column.plain hcolumn) (table.plain htable) (key.plain hkey) (ih hcondition)

/-- The names of a table that is let in are let in. -/
theorem TableForm.of_isTableName {table : String} (named : isTableName table = true) :
    TableForm Accepted table := by
  have joined : ∀ first second : List Char,
      String.ofList first ++ "." ++ String.ofList second =
        String.ofList (first ++ '.' :: second) := by
    intro first second
    rw [← String.toList_inj]
    simp only [String.toList_append, String.toList_ofList, List.append_assoc]
    rfl
  rw [← String.ofList_toList (s := table)]
  rw [isTableName, dropFinalBreak] at named
  split at named
  · rename_i last
    obtain ⟨front, whole⟩ := List.getLast?_eq_some_iff.mp last
    rw [whole, List.dropLast_concat] at named
    rw [whole]
    rcases plainPath_cases named with name | ⟨first, second, rfl, schema, name⟩
    · exact .alone (accepted_append_break name)
    · rw [List.append_assoc, List.cons_append, ← joined]
      exact .within (accepted_ofList schema) (accepted_append_break name)
  · rcases plainPath_cases named with name | ⟨first, second, whole, schema, name⟩
    · exact .alone (accepted_ofList name)
    · rw [whole, ← joined]
      exact .within (accepted_ofList schema) (accepted_ofList name)

end Breaks

/-! ### Where the names come from -/

/-- The names of a table have a property, if a condition can be about the table. -/
def TableMeets (named : String → Prop) (table : String) : Prop :=
  Text.isTableName table = true → TableForm named table

def ParentLink.NamesMeet (named : String → Prop) (link : ParentLink) : Prop :=
  ∀ column ∈ link.columns, named column.2

/-- The column that a policy value restricts has a property, if there is one. -/
def PolicyValue.FieldMeets (named : String → Prop) (config : Config) (value : PolicyValue) : Prop :=
  ∀ field key, value.coerce config.defaultValueKey = some (.fieldEquals field key) → named field

section Building

variable {named : String → Prop} {config : Config} {lookup : Lookup} {links : Option LinkRegistry}
  {context : Context} {policy : PolicyValue} {identifiers : Fields} {table : String} {offset : Int}
  {stack : Stack} {predicate : Predicate}

/-- A column of a table that a condition can be about. -/
theorem columnForm_columnText {field : String} (usable : Usable table)
    (tableMeets : TableMeets named table) (name : named field) :
    ColumnForm named (columnText table field) := by
  unfold columnText
  split
  · exact .alone name
  · rename_i given
    exact .within (tableMeets (usable.resolve_left given)) name

theorem conditionForm_of_ofDecision {offset : Nat} (usable : Usable table)
    (tableMeets : TableMeets named table) (fieldMeets : policy.FieldMeets named config)
    (made : Predicate.ofDecision table offset (Decision.ofPolicy config policy identifiers) =
      .ok predicate) : ConditionForm named predicate.clause := by
  cases decided : Decision.ofPolicy config policy identifiers with
  | all =>
    rw [decided] at made
    cases made
    exact .empty
  | deny denial =>
    rw [decided] at made
    cases made
    exact .never
  | restrict field key value =>
    have name := fieldMeets field key (Decision.ofPolicy_eq_restrict_iff.mp decided).1
    rw [decided] at made
    rw [Predicate.ofDecision_restrict_eq_ok made]
    dsimp only [Predicate.restrict]
    rw [comparison_eq]
    exact .comparison (offset + 1) (columnForm_columnText usable tableMeets name)

theorem conditionForm_of_interpret (tableMeets : TableMeets named table)
    (fieldMeets : policy.FieldMeets named config)
    (made : (interpret config policy identifiers table offset).outcome = .ok predicate) :
    ConditionForm named predicate.clause := by
  by_cases start : 0 ≤ offset
  · obtain ⟨count, rfl⟩ := Int.eq_ofNat_of_zero_le start
    rw [outcome_interpret start] at made
    split at made
    · cases made
      exact .never
    · rename_i nameable
      have usable := usable_iff.mpr nameable
      cases rendered : Predicate.ofDecision table count
          (Decision.ofPolicy config policy identifiers) with
      | error fault =>
        rw [rendered] at made
        cases made
      | ok other =>
        rw [rendered] at made
        cases made
        exact conditionForm_of_ofDecision usable tableMeets fieldMeets rendered
  · rw [interpret, if_pos (by omega)] at made
    cases made

/-- One link on the way back from the parent: the names are those of the link and of the child's
table, and what the parent's condition had. -/
theorem conditionForm_through {link : ParentLink} {parent : Predicate}
    (linkMeets : link.NamesMeet named) (tableMeets : TableMeets named table)
    (derived : ConditionForm named parent.clause) :
    ConditionForm named (parent.through link table offset).clause := by
  have columns : named link.childTable ∧ named link.foreignKey ∧ named link.parentTable ∧
      named link.parentKey := by
    simpa [ParentLink.NamesMeet, LinkForm.columns] using linkMeets
  obtain ⟨childTable, foreignKey, parentTable, parentKey⟩ := columns
  unfold Predicate.through
  split
  · exact .never
  · split
    · exact .empty
    · split
      · rename_i usable
        have child : TableForm named (link.tableFor table) := by
          unfold ParentLink.tableFor at usable ⊢
          split
          · exact .alone childTable
          · rename_i given
            rw [if_neg given] at usable
            exact tableMeets usable
        exact .membership (.within child foreignKey) (.alone parentTable) parentKey derived
      · exact .never

/-- All links: whatever they lead to, the names are those of the policies, links and tables on the
way. -/
theorem Scoped.conditionForm {setting : ScopeSetting}
    (linksMeet : ∀ link ∈ setting.links.links, link.NamesMeet named)
    (answersMeet : ∀ resource value, setting.lookup setting.role resource = .ok value →
      value.FieldMeets named setting.config)
    {hops : Nat} {resource : String} (fieldMeets : policy.FieldMeets named setting.config)
    (tableMeets : TableMeets named table)
    (followed : Scoped setting hops resource policy table predicate) :
    ConditionForm named predicate.clause := by
  induction followed with
  | decided _ interpreted => exact conditionForm_of_interpret tableMeets fieldMeets interpreted
  | denied _ _ => exact .never
  | @hop hops resource policy next table link parent _ linked found _ ih =>
    have linkMeets := linksMeet link (List.mem_of_find?_eq_some linked)
    have parentTable : named link.parentTable :=
      linkMeets (.parentTable, link.parentTable) (by simp [LinkForm.columns])
    exact conditionForm_through linkMeets tableMeets
      (ih (answersMeet _ _ found) (fun _ => .alone parentTable))

/-- That the names which a request on a table brings with it have a property: those of the table, of
the links, and of the policies of its context and of its lookup. -/
structure NamesMeet (named : String → Prop) (config : Config) (lookup : Lookup)
    (links : Option LinkRegistry) (context : Context) (table : String) : Prop where
  table : TableMeets named table
  links : ∀ registry, links = some registry → ∀ link ∈ registry.links, link.NamesMeet named
  policy : context.policy.FieldMeets named config
  answers : ∀ resource value, lookup context.role resource = .ok value →
    value.FieldMeets named config

/-- The names of a condition that is built are those that the request brings with it. -/
theorem conditionForm_of_buildPredicate (meets : NamesMeet named config lookup links context table)
    (built : (buildPredicate config lookup links (some context) table offset stack).outcome =
      .ok predicate) : ConditionForm named predicate.clause := by
  unfold buildPredicate at built
  dsimp only at built
  split at built
  · rename_i registry _
    exact (scoped_of_scope _ built).conditionForm (meets.links registry rfl) meets.answers
      meets.policy meets.table
  · exact conditionForm_of_interpret meets.table meets.policy built

/-- All names that a request brings with it are let in. -/
theorem namesMeet_accepted (config : Config) (lookup : Lookup) (links : Option LinkRegistry)
    (context : Context) (table : String) :
    NamesMeet Text.Accepted config lookup links context table where
  table := TableForm.of_isTableName
  links _ _ link _ := link.plain
  policy _ _ := PolicyValue.isName_of_coerce
  answers _ _ _ _ _ := PolicyValue.isName_of_coerce

/-- That no line break stands in the names which a request on a table brings with it. -/
structure Unbroken (config : Config) (lookup : Lookup) (links : Option LinkRegistry)
    (context : Context) (table : String) : Prop where
  table : '\n' ∉ table.toList
  links : ∀ registry, links = some registry → ∀ link ∈ registry.links, ∀ column ∈ link.columns,
    '\n' ∉ column.2.toList
  policy : context.policy.FieldMeets (fun field => '\n' ∉ field.toList) config
  answers : ∀ resource value, lookup context.role resource = .ok value →
    value.FieldMeets (fun field => '\n' ∉ field.toList) config

/-- Names that are let in and have no line break are plain. -/
theorem Unbroken.namesMeet_plain (unbroken : Unbroken config lookup links context table) :
    NamesMeet Text.Plain config lookup links context table := by
  have accepted := namesMeet_accepted config lookup links context table
  exact {
    table := fun usable => (accepted.table usable).plain unbroken.table
    links := fun registry given link member column listed =>
      (accepted.links registry given link member column listed).plain
        (unbroken.links registry given link member column listed)
    policy := fun field key read =>
      (accepted.policy field key read).plain (unbroken.policy field key read)
    answers := fun resource value found field key read =>
      (accepted.answers resource value found field key read).plain
        (unbroken.answers resource value found field key read) }

/-! ### The whole -/

/-- Every condition that is built is derived from names that were let in. It is derived from plain
ones just where it has no line break, so always if the request brings none with it. -/
theorem buildPredicate_derives {context : Option Context}
    (built : (buildPredicate config lookup links context table offset stack).outcome =
      .ok predicate) :
    ConditionForm Text.Accepted predicate.clause ∧
      (ConditionForm Text.Plain predicate.clause ↔ '\n' ∉ predicate.clause.toList) ∧
      ((∀ given, context = some given → Unbroken config lookup links given table) →
        ConditionForm Text.Plain predicate.clause) := by
  cases context with
  | none =>
    cases built
    have plain : ConditionForm Text.Plain Predicate.unapplied.clause := .empty
    exact ⟨.empty, ⟨fun _ => plain.unbroken, fun _ => plain⟩, fun _ => plain⟩
  | some context =>
    have derived : ConditionForm Text.Accepted predicate.clause :=
      conditionForm_of_buildPredicate (namesMeet_accepted config lookup links context table) built
    refine ⟨derived, ⟨ConditionForm.unbroken, derived.plain⟩, fun unbroken => ?_⟩
    exact conditionForm_of_buildPredicate (unbroken context rfl).namesMeet_plain built

end Building

theorem buildPredicate_derives_files :
    ∃ predicate,
      (buildPredicate .standard customerLookup (some (.ofLinks [fileLink, orderLink]))
        (some fileContext) "app.files" 2 .standard).outcome = .ok predicate ∧
      (∀ given, some fileContext = some given → Unbroken .standard customerLookup
        (some (.ofLinks [fileLink, orderLink])) given "app.files") ∧
      predicate.clause = "app.files.order_id IN (SELECT orders.id FROM orders WHERE " ++
        "orders.customer_id IN (SELECT customers.id FROM customers WHERE " ++
          "customers.user_id = $3))" ∧
      ConditionForm Text.Plain predicate.clause := by
  have built : (buildPredicate .standard customerLookup
      (some (.ofLinks [fileLink, orderLink])) (some fileContext) "app.files" 2 .standard).outcome =
        .ok (.restrict ("app.files.order_id IN (SELECT orders.id FROM orders WHERE " ++
          "orders.customer_id IN (SELECT customers.id FROM customers WHERE " ++
            "customers.user_id = $3))") [.int 7] 2) := rfl
  have unbroken : ∀ given, some fileContext = some given → Unbroken .standard customerLookup
      (some (.ofLinks [fileLink, orderLink])) given "app.files" := by
    rintro _ ⟨⟩
    refine ⟨by decide, ?_, ?_, ?_⟩
    · rintro _ ⟨⟩
      decide
    · rintro field key ⟨⟩
    · rintro resource _ ⟨⟩ field key read
      rcases eq_or_ne resource "customers" with rfl | other
      · cases read
        decide
      · rw [if_neg other] at read
        cases read
  exact ⟨_, built, unbroken, rfl, (buildPredicate_derives built).2.2 unbroken⟩

/-- A policy on a column whose name ends with a line break is let in, and its condition is derived
from no plain names. -/
theorem buildPredicate_brokenName :
    ∃ predicate,
      (buildPredicate .standard customerLookup none
        (some ⟨"orders", "customer", .raw (.text "user_id\n"), [(userIdKey, .int 7)]⟩) "orders"
        0 .standard).outcome = .ok predicate ∧
      predicate.clause = "orders.user_id\n = $1" ∧
      ¬ ConditionForm Text.Plain predicate.clause := by
  refine ⟨.restrict "orders.user_id\n = $1" [.int 7] 0, rfl, rfl, fun derived => ?_⟩
  exact derived.unbroken (by decide)

end RowSecurity
