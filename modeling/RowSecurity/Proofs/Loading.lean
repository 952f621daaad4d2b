/-
A policy means the same when it is loaded into a table and when it is used without one.

* `PolicyValue.DocumentOnly`: null and false, which stand for policies in a document and nowhere
  else;
* `ReadsAlike`: that loading a policy value and interpreting it as it is come to the same.

Main statement: `register_readsAlike`, for every valid configuration, over the three places where a
policy value is read: a table, the lookup of a request, and the interpretation.

Design notes: a column alone takes the default key unchecked and a record checks it, so the two
shorthands agree for a default key that is a name. Every valid configuration has one.
-/
import RowSecurity.Proofs.FailClosed

namespace RowSecurity

open Audit

/-- The values that stand for a policy in a document alone. -/
def PolicyValue.DocumentOnly (value : PolicyValue) : Prop :=
  value = .raw .null ∨ value = .raw (.bool false)

/-! ### One value, read in three places -/

/-- All other values are read at request time as they are at loading time. -/
theorem PolicyValue.coerce_eq_parse {value : PolicyValue} (anywhere : ¬ value.DocumentOnly)
    (key : String) : value.coerce key = value.parse key := by
  match value with
  | .ready _ | .raw (.text _) | .raw (.record _) => rfl
  | .raw .null => exact absurd (.inl rfl) anywhere
  | .raw (.bool false) => exact absurd (.inr rfl) anywhere
  | .raw (.bool true) | .raw (.int _) | .raw (.real _) | .raw (.list _) => rfl

/-- A policy that was read stands for itself from then on. -/
theorem PolicyValue.coerce_ready_of_parse {key : String} {value : PolicyValue} {policy : Policy}
    (name : Text.isName key = true) (read : value.parse key = some policy) (other : String) :
    (ready policy).coerce other = some policy :=
  parse_ready_of_parse name read

/-- Two values that are read as one policy are decided alike. -/
theorem Decision.ofPolicy_eq_of_coerce {config : Config} {value other : PolicyValue}
    {policy : Policy} (first : value.coerce config.defaultValueKey = some policy)
    (second : other.coerce config.defaultValueKey = some policy) (identifiers : Fields) :
    ofPolicy config value identifiers = ofPolicy config other identifiers := by
  unfold ofPolicy
  rw [first, second]
  cases policy with
  | allRecords | denyAll | parentDelegated => rfl
  | fieldEquals field valueKey => rfl

/-- What is interpreted is a decision, and nothing else of a policy value. -/
theorem interpret_eq_of_decision {config : Config} {value other : PolicyValue}
    {identifiers : Fields}
    (same : Decision.ofPolicy config value identifiers = Decision.ofPolicy config other identifiers)
    (table : String) (offset : Int) :
    interpret config value identifiers table offset =
      interpret config other identifiers table offset := by
  unfold interpret resolve
  rw [same]

/-- A value that is no policy denies. -/
theorem outcome_interpret_of_unread {config : Config} {value : PolicyValue}
    (unread : value.coerce config.defaultValueKey = none) (identifiers : Fields) (table : String)
    {offset : Int} (start : 0 ≤ offset) :
    (interpret config value identifiers table offset).outcome = .ok (.deny offset) := by
  have denied : Decision.ofPolicy config value identifiers =
      .deny (.unrecognized value.kindName) := by
    unfold Decision.ofPolicy
    rw [unread]
  rw [outcome_interpret start, denied]
  split
  · rfl
  · rfl

/-! ### Loading -/

section Loading

variable {table after : PolicyTable} {inForce : Config} {resource role : String}
  {value : PolicyValue} {policy : Policy}

/-- What is registered is what the value stands for under the configuration of the table. -/
theorem PolicyTable.register_eq_ok_iff :
    table.register inForce resource role value = .ok (after, policy) ↔
      value.parse (table.effective inForce).defaultValueKey = some policy ∧
        after = table.insert role resource policy := by
  unfold register
  cases value.parse (table.effective inForce).defaultValueKey with
  | none => simp
  | some read =>
    simp only [Except.ok.injEq, Prod.mk.injEq, Option.some.injEq]
    constructor
    · rintro ⟨rfl, rfl⟩
      exact ⟨rfl, rfl⟩
    · rintro ⟨rfl, rfl⟩
      exact ⟨rfl, rfl⟩

theorem PolicyTable.find_insert_self (found : Config) :
    (table.insert role resource policy).find found role resource = .ok policy := by
  unfold find
  rw [get?_insert_self]

end Loading

/-- A column alone and a record of a column stand for the same, if the default key is a name. -/
theorem PolicyValue.parse_text_eq_record {key s : String} (name : Text.isName key = true)
    (column : s ≠ parentMarker) :
    (raw (.text s)).parse key = (raw (.record [("field", .text s)])).parse key := by
  show (if s = parentMarker then some .parentDelegated
    else if Text.isName s then some (.fieldEquals s key) else none) = Policy.ofNames? s key
  rw [if_neg column, Policy.ofNames?, name, Bool.and_true]

/-! ### The whole -/

/-- That loading a policy value and interpreting it as it is come to the same under a
configuration. -/
structure ReadsAlike (config : Config) : Prop where
  /-- What a table takes is found in it, and is interpreted as the value itself. -/
  accepted : ∀ {value : PolicyValue}, ¬ value.DocumentOnly →
    ∀ {table after : PolicyTable} {inForce : Config} {resource role : String} {policy : Policy},
      table.effective inForce = config →
      table.register inForce resource role value = .ok (after, policy) →
      after.find inForce role resource = .ok policy ∧
        ∀ identifiers name offset, interpret config (.ready policy) identifiers name offset =
          interpret config value identifiers name offset
  /-- What a table refuses denies. -/
  rejected : ∀ {value : PolicyValue}, ¬ value.DocumentOnly →
    ∀ {table : PolicyTable} {inForce : Config} {resource role : String} {failure : Failure},
      table.effective inForce = config →
      table.register inForce resource role value = .error failure →
      failure = .invalidPolicy value (some resource) ∧
        ∀ identifiers name {offset}, 0 ≤ offset →
          (interpret config value identifiers name offset).outcome = .ok (.deny offset)
  /-- The lookup of a request reads a value as a table does. -/
  requested : ∀ {value : PolicyValue}, ¬ value.DocumentOnly →
    usablePolicy config value = value.parse config.defaultValueKey
  /-- Whatever a table takes stands for itself, whatever the default key is. -/
  fixed : ∀ {value : PolicyValue} {table after : PolicyTable} {inForce : Config}
    {resource role : String} {policy : Policy},
      table.effective inForce = config →
      table.register inForce resource role value = .ok (after, policy) →
      ∀ key, (PolicyValue.ready policy).parse key = some policy ∧
        (PolicyValue.ready policy).coerce key = some policy
  /-- A column alone and a record of a column are both refused, or are the same policy. -/
  shorthand : ∀ {s : String}, s ≠ parentMarker →
    (PolicyValue.raw (.text s)).parse config.defaultValueKey =
        (PolicyValue.raw (.record [("field", .text s)])).parse config.defaultValueKey ∧
      (PolicyValue.raw (.text s)).coerce config.defaultValueKey =
        (PolicyValue.raw (.record [("field", .text s)])).coerce config.defaultValueKey

/-- Policy values are read alike under every valid configuration. -/
theorem register_readsAlike {config : Config} (valid : config.Valid) : ReadsAlike config where
  accepted := by
    rintro value anywhere table after inForce resource role policy rfl registered
    obtain ⟨read, rfl⟩ := PolicyTable.register_eq_ok_iff.mp registered
    have stored := PolicyValue.coerce_ready_of_parse valid.defaultValueKey read
      (table.effective inForce).defaultValueKey
    have given := (PolicyValue.coerce_eq_parse anywhere _).trans read
    refine ⟨PolicyTable.find_insert_self inForce, fun identifiers name offset => ?_⟩
    exact interpret_eq_of_decision (Decision.ofPolicy_eq_of_coerce stored given identifiers) name
      offset
  rejected := by
    rintro value anywhere table inForce resource role failure rfl refused
    obtain ⟨unread, same⟩ := PolicyTable.register_eq_error_iff.mp refused
    rw [← PolicyValue.coerce_eq_parse anywhere] at unread
    exact ⟨same, fun identifiers name _ start =>
      outcome_interpret_of_unread unread identifiers name start⟩
  requested := by
    intro value anywhere
    rw [usablePolicy_eq_coerce, PolicyValue.coerce_eq_parse anywhere]
  fixed := by
    rintro value table after inForce resource role policy rfl registered key
    obtain ⟨read, -⟩ := PolicyTable.register_eq_ok_iff.mp registered
    exact ⟨PolicyValue.parse_ready_of_parse valid.defaultValueKey read,
      PolicyValue.coerce_ready_of_parse valid.defaultValueKey read key⟩
  shorthand := by
    intro s column
    have same := PolicyValue.parse_text_eq_record valid.defaultValueKey column
    exact ⟨same, same⟩

theorem register_readsAlike_standard :
    Config.standard.Valid ∧ ReadsAlike .standard ∧
      (interpret .standard (.ready (.fieldEquals "owner" userIdKey)) [(userIdKey, .int 7)] "o" 2) =
        interpret .standard (.raw (.record [("field", .text "owner"), ("value", .text "")]))
          [(userIdKey, .int 7)] "o" 2 := by
  have alike : ReadsAlike .standard := register_readsAlike Config.standard_valid
  have registered : (PolicyTable.empty none).register .standard "orders" "customer"
      (.raw (.record [("field", .text "owner"), ("value", .text "")])) =
      .ok (⟨[(("customer", "orders"), .fieldEquals "owner" userIdKey)], none⟩,
        .fieldEquals "owner" userIdKey) := rfl
  have anywhere : ¬ (PolicyValue.raw
      (.record [("field", .text "owner"), ("value", .text "")])).DocumentOnly := by
    rintro (h | h)
    · cases h
    · cases h
  exact ⟨Config.standard_valid, alike, (alike.accepted anywhere rfl registered).2 _ _ _⟩

end RowSecurity
