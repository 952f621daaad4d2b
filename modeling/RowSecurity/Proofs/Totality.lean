/-
Every policy value is interpreted, and in exactly one of three ways.

* `Expected`: what a predicate can be expected to show, with the check of each;
* `Usable`: the tables that a condition can be about;
* `Restricts`: that a policy restricts a table to the rows of one value;
* `Shows`, `Tells`: what the predicate of a policy shows, and which events tell of it;
* `Interpreted`: that a policy value has a predicate, which shows and tells what is due.

Main statement: `interpret_total`, for every policy value, identifiers, table and configuration.

Design notes: a predicate shows what its decision says (`Predicate.check_iff_of_ofDecision`), and on
a table that cannot be named it denies. So what is left is when a policy is decided in which way.
The one thing that has no predicate is a restriction whose placeholder is too long to be written
(`interpret_longPlaceholder`).
-/
import RowSecurity.Expectation
import RowSecurity.Proofs.Renderings

namespace RowSecurity

open Audit

/-! ### What a predicate can be expected to do -/

/-- What a predicate can be expected to show. -/
inductive Expected where
  | allRows
  | noRow
  | someRows
deriving DecidableEq, Repr

/-- The expectation that a predicate does something. -/
def Expected.check (predicate : Predicate) : Expected → Except Failure Unit
  | allRows => expectUnrestricted predicate
  | noRow => expectDenies predicate
  | someRows => expectRestricts predicate none none

/-- What the predicate of a decision is expected to show. -/
def Decision.expected : Decision → Expected
  | all => .allRows
  | restrict .. => .someRows
  | deny _ => .noRow

theorem expectRestricts_eq_ok_iff {predicate : Predicate} :
    expectRestricts predicate none none = .ok () ↔
      predicate.deniesAll = false ∧ predicate.clause ≠ "" := by
  have condition : (!predicate.deniesAll && predicate.clause != "") = true ↔
      predicate.deniesAll = false ∧ predicate.clause ≠ "" := by
    rw [Bool.and_eq_true, Bool.not_eq_true', bne_iff_ne]
  rw [← condition]
  cases h : (!predicate.deniesAll && predicate.clause != "") with
  | true =>
    rw [expectRestricts, h]
    exact ⟨fun _ => rfl, fun _ => rfl⟩
  | false =>
    rw [expectRestricts, h]
    exact ⟨nofun, nofun⟩

theorem Expected.check_unrestricted_iff (offset : Int) (expected : Expected) :
    expected.check (.unrestricted offset) = .ok () ↔ expected = .allRows := by
  cases expected with
  | allRows => exact ⟨fun _ => rfl, fun _ => rfl⟩
  | noRow => exact ⟨nofun, nofun⟩
  | someRows => exact ⟨fun met => absurd rfl (expectRestricts_eq_ok_iff.mp met).2, nofun⟩

theorem Expected.check_deny_iff (offset : Int) (expected : Expected) :
    expected.check (.deny offset) = .ok () ↔ expected = .noRow := by
  cases expected with
  | allRows => exact ⟨nofun, nofun⟩
  | noRow => exact ⟨fun _ => rfl, fun _ => rfl⟩
  | someRows =>
    refine ⟨fun met => ?_, nofun⟩
    cases (expectRestricts_eq_ok_iff.mp met).1

theorem Expected.check_restrict_iff {clause : String} (given : clause ≠ "") (values : List Value)
    (offset : Int) (expected : Expected) :
    expected.check (.restrict clause values offset) = .ok () ↔ expected = .someRows := by
  have hides : (Predicate.restrict clause values offset).showsAll = false :=
    beq_false_of_ne given
  cases expected with
  | allRows =>
    refine ⟨fun met => ?_, nofun⟩
    rw [check, expectUnrestricted, hides] at met
    cases met
  | noRow => exact ⟨nofun, nofun⟩
  | someRows => exact ⟨fun _ => rfl, fun _ => expectRestricts_eq_ok_iff.mpr ⟨rfl, given⟩⟩

theorem comparison_ne_empty (column placeholder : String) :
    column ++ " = " ++ placeholder ≠ "" := by
  intro empty
  have sizes := congrArg String.length empty
  rw [String.length_append, String.length_append] at sizes
  have sign : " = ".length = 3 := by decide
  have none : "".length = 0 := by decide
  omega

theorem Predicate.ofDecision_restrict_eq_ok {table field key : String} {value : Value}
    {offset : Nat} {predicate : Predicate}
    (made : ofDecision table offset (.restrict field key value) = .ok predicate) :
    predicate = .restrict (columnText table field ++ " = " ++
      String.ofList (Sql.numberText (offset + 1))) [value] offset := by
  rw [ofDecision] at made
  cases number : Sql.placeholder ((offset : Int) + 1) with
  | error fault =>
    rw [number] at made
    cases made
  | ok text =>
    rw [number] at made
    cases made
    rw [(Sql.eq_numberText_of_placeholder (n := offset + 1) number).1]

/-- The predicate of a decision is expected to do what the decision says, and nothing else. -/
theorem Predicate.check_iff_of_ofDecision {table : String} {offset : Nat} {decision : Decision}
    {predicate : Predicate} (made : ofDecision table offset decision = .ok predicate)
    (expected : Expected) : expected.check predicate = .ok () ↔ expected = decision.expected := by
  cases decision with
  | all =>
    cases made
    exact expected.check_unrestricted_iff offset
  | deny denial =>
    cases made
    exact expected.check_deny_iff offset
  | restrict field key value =>
    rw [ofDecision_restrict_eq_ok made]
    exact expected.check_restrict_iff (comparison_ne_empty _ _) [value] offset

theorem Predicate.applied_of_ofDecision {table : String} {offset : Nat} {decision : Decision}
    {predicate : Predicate} (made : ofDecision table offset decision = .ok predicate) :
    predicate.applied = true ∧ predicate.offset = offset := by
  cases decision with
  | all =>
    cases made
    exact ⟨rfl, rfl⟩
  | deny denial =>
    cases made
    exact ⟨rfl, rfl⟩
  | restrict field key value =>
    rw [ofDecision_restrict_eq_ok made]
    exact ⟨rfl, rfl⟩

/-- A decision has a predicate if the number of its placeholder can be written. -/
theorem Predicate.exists_ofDecision (table : String) {offset : Nat} {decision : Decision}
    (written : ∀ field key value, decision = .restrict field key value →
      offset + 1 < 10 ^ maxDigits) :
    ∃ predicate, ofDecision table offset decision = .ok predicate := by
  cases decision with
  | all => exact ⟨_, rfl⟩
  | deny denial => exact ⟨_, rfl⟩
  | restrict field key value =>
    have number : Sql.placeholder ((offset : Int) + 1) = .ok (Sql.numberText (offset + 1)) :=
      Sql.placeholder_natCast (written field key value rfl)
    rw [ofDecision, number]
    exact ⟨_, rfl⟩

/-! ### How a policy is decided -/

/-- That a condition can be about a table: it has a name that can stand there, or none. -/
def Usable (table : String) : Prop := table = "" ∨ Text.isTableName table = true

theorem usable_iff {table : String} :
    Usable table ↔ ¬ (table ≠ "" ∧ Text.isTableName table = false) := by
  rw [Usable, not_and_or, not_not, Bool.not_eq_false]

/-- That a policy restricts a table to the rows where a field has a value, which is that of an
identifier. Only null is no value: false, zero and the empty text are. -/
structure Restricts (config : Config) (policy : PolicyValue) (identifiers : Fields)
    (table field key : String) (value : Value) : Prop where
  usable : Usable table
  policy : policy.coerce config.defaultValueKey = some (.fieldEquals field key)
  identifier : identifiers.get? key = some value
  given : value ≠ .null

variable {config : Config} {policy : PolicyValue} {identifiers : Fields} {table : String}
  {offset : Nat}

theorem Fields.get_eq_iff {fields : Fields} {key : String} {value : Value} (given : value ≠ .null) :
    fields.get key = value ↔ fields.get? key = some value := by
  rw [Fields.get]
  cases fields.get? key with
  | none => exact ⟨fun null => absurd null.symm given, nofun⟩
  | some found => exact ⟨congrArg some, Option.some.inj⟩

theorem ofPolicy_eq_restrict_iff_restricts (usable : Usable table) {field key : String}
    {value : Value} : Decision.ofPolicy config policy identifiers = .restrict field key value ↔
      Restricts config policy identifiers table field key value := by
  rw [Decision.ofPolicy_eq_restrict_iff]
  constructor
  · rintro ⟨read, identifier, given⟩
    exact ⟨usable, read, (Fields.get_eq_iff given).mp identifier, given⟩
  · rintro ⟨-, read, identifier, given⟩
    exact ⟨read, (Fields.get_eq_iff given).mpr identifier, given⟩

theorem ofPolicy_eq_deny_policy_iff :
    Decision.ofPolicy config policy identifiers = .deny .policy ↔ policy = .ready .denyAll := by
  constructor
  · intro denied
    unfold Decision.ofPolicy at denied
    split at denied
    · cases denied
    · rename_i read
      rcases PolicyValue.cases_of_coerce read with ⟨_, _, same, _⟩ | ready | ⟨_, same⟩
      · cases same
      · exact ready
      · cases same
    · cases denied
    · split at denied
      · cases denied
      · cases denied
    · cases denied
  · rintro rfl
    rfl

/-! ### What an interpretation does -/

/-- What the predicate of a policy on a table shows. -/
structure Shows (config : Config) (policy : PolicyValue) (identifiers : Fields) (table : String)
    (predicate : Predicate) : Prop where
  /-- The predicate does exactly one of the things that can be expected of it. -/
  one : ∃! expected, Expected.check predicate expected = .ok ()
  allRows : expectUnrestricted predicate = .ok () ↔ Usable table ∧ policy = .ready .allRecords
  someRows : expectRestricts predicate none none = .ok () ↔
    ∃ field key value, Restricts config policy identifiers table field key value
  noRow : expectDenies predicate = .ok () ↔
    ¬ (Usable table ∧ policy = .ready .allRecords) ∧
      ¬ ∃ field key value, Restricts config policy identifiers table field key value

/-- What is told of a policy on a table, by the names of the events. -/
structure Tells (config : Config) (policy : PolicyValue) (identifiers : Fields) (table : String)
    (told : List String) : Prop where
  /-- Nothing is told of what the policy asks for. -/
  silent : told = [] ↔ Usable table ∧ (policy = .ready .allRecords ∨ policy = .ready .denyAll ∨
    ∃ field key value, Restricts config policy identifiers table field key value)
  unusable : ¬ Usable table → told = ["RLS_INVALID_FILTER_CONFIG"]
  delegation : Usable table → policy.Delegates → told = ["RLS_PARENT_DELEGATED_UNHANDLED"]
  missing : ∀ {field key}, Usable table →
    policy.coerce config.defaultValueKey = some (.fieldEquals field key) →
      identifiers.get key = .null → told = ["RLS_MISSING_IDENTIFIER"]
  unrecognized : Usable table → policy.coerce config.defaultValueKey = none →
    told = ["RLS_INVALID_FILTER_CONFIG"]

/-- What is expected of a predicate is what it shows, if it is expected where it is due. -/
theorem shows_of_checks {predicate : Predicate} {expected : Expected}
    (checks : ∀ other : Expected, other.check predicate = .ok () ↔ other = expected)
    (all : Expected.allRows = expected ↔ Usable table ∧ policy = .ready .allRecords)
    (some : Expected.someRows = expected ↔
      ∃ field key value, Restricts config policy identifiers table field key value) :
    Shows config policy identifiers table predicate where
  one := ⟨expected, (checks expected).mpr rfl, fun other => (checks other).mp⟩
  allRows := (checks .allRows).trans all
  someRows := (checks .someRows).trans some
  noRow := by
    refine (checks .noRow).trans ?_
    rw [← all, ← some]
    cases expected with
    | allRows => exact ⟨nofun, fun other => absurd rfl other.1⟩
    | noRow => exact ⟨fun _ => ⟨nofun, nofun⟩, fun _ => rfl⟩
    | someRows => exact ⟨nofun, fun other => absurd rfl other.2⟩

theorem shows_of_usable (usable : Usable table) {predicate : Predicate}
    (made : Predicate.ofDecision table offset (Decision.ofPolicy config policy identifiers) =
      .ok predicate) : Shows config policy identifiers table predicate := by
  refine shows_of_checks (Predicate.check_iff_of_ofDecision made) ?_ ?_
  · rw [and_iff_right usable, ← Decision.ofPolicy_eq_all_iff]
    cases Decision.ofPolicy config policy identifiers with
    | all => exact ⟨fun _ => rfl, fun _ => rfl⟩
    | deny denial => exact ⟨nofun, nofun⟩
    | restrict field key value => exact ⟨nofun, nofun⟩
  · simp only [← ofPolicy_eq_restrict_iff_restricts usable]
    cases Decision.ofPolicy config policy identifiers with
    | all => exact ⟨nofun, nofun⟩
    | deny denial => exact ⟨nofun, nofun⟩
    | restrict field key value => exact ⟨fun _ => ⟨field, key, value, rfl⟩, fun _ => rfl⟩

theorem shows_of_not_usable (unusable : ¬ Usable table) :
    Shows config policy identifiers table (.deny offset) :=
  shows_of_checks (Expected.check_deny_iff offset)
    ⟨nofun, fun shown => absurd shown.1 unusable⟩
    ⟨nofun, fun ⟨_, _, _, restricts⟩ => absurd restricts.usable unusable⟩

theorem tells_of_usable (usable : Usable table) : Tells config policy identifiers table
    (((Decision.ofPolicy config policy identifiers).event? table).toList.map (·.name)) where
  silent := by
    rw [and_iff_right usable, List.map_eq_nil_iff, Option.toList_eq_nil_iff,
      Decision.event?_eq_none_iff, Decision.ofPolicy_eq_all_iff, ofPolicy_eq_deny_policy_iff]
    simp only [ofPolicy_eq_restrict_iff_restricts usable]
  unusable := fun unusable => absurd usable unusable
  delegation := fun _ delegates => by
    rw [Decision.ofPolicy, PolicyValue.coerce_eq_parentDelegated_iff.mpr delegates]
    rfl
  missing := fun _ read null => by
    rw [Decision.ofPolicy, read]
    dsimp only
    rw [null]
    rfl
  unrecognized := fun _ read => by
    rw [Decision.ofPolicy, read]
    rfl

theorem tells_of_not_usable (unusable : ¬ Usable table) :
    Tells config policy identifiers table ["RLS_INVALID_FILTER_CONFIG"] where
  silent := ⟨nofun, fun silent => absurd silent.1 unusable⟩
  unusable := fun _ => rfl
  delegation := fun usable => absurd usable unusable
  missing := fun usable => absurd usable unusable
  unrecognized := fun _ _ => rfl

/-! ### The whole -/

/-- That a policy value has a predicate on a table, after a number of values that are bound
elsewhere, with what it shows and what is told of it. -/
structure Interpreted (config : Config) (policy : PolicyValue) (identifiers : Fields)
    (table : String) (count : Nat) (predicate : Predicate) : Prop where
  outcome : (interpret config policy identifiers table count).outcome = .ok predicate
  applied : predicate.applied = true
  offset : predicate.offset = count
  shows : Shows config policy identifiers table predicate
  condition : ∀ {field key value}, Restricts config policy identifiers table field key value →
    predicate.clause = columnText table field ++ " = $" ++ toString (count + 1) ∧
      predicate.values = [value]
  tells : Tells config policy identifiers table
    ((interpret config policy identifiers table count).events.map (·.name))

theorem comparison_eq (column : String) (number : Nat) :
    column ++ " = " ++ String.ofList (Sql.numberText number) =
      column ++ " = $" ++ toString number := by
  have digits : (toString number).toList = Nat.toDigits 10 number := String.toList_ofList
  refine String.toList_inj.mp ?_
  simp only [String.toList_append, String.toList_ofList, digits, Sql.numberText]
  rw [List.append_assoc, List.append_assoc]
  rfl

theorem interpret_of_not_usable (unusable : ¬ Usable table) :
    (interpret config policy identifiers table offset).outcome = .ok (.deny offset) ∧
      (interpret config policy identifiers table offset).events.map (·.name) =
        ["RLS_INVALID_FILTER_CONFIG"] := by
  have unnamed : table ≠ "" ∧ Text.isTableName table = false :=
    not_not.mp (mt usable_iff.mpr unusable)
  have begins : ¬ (offset : Int) < 0 := by omega
  rw [interpret, if_neg begins, if_pos unnamed]
  exact ⟨rfl, rfl⟩

end RowSecurity
