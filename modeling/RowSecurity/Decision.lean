/-
Decisions: what a policy means for one caller.

* `Decision`: all rows, no row with the reason why, or the rows where a column equals a value;
* `Decision.ofPolicy`: the decision for a policy value and the caller's identifiers;
* `Decision.event?`: the security event that a decision calls for.

Main statements: `Decision.ofPolicy_eq_all_iff`, `Decision.ofPolicy_eq_restrict_iff` and
`Decision.event?_eq_none_iff`: no policy but a ready one shows all rows, a restriction binds an
identifier that is there, and only a denial against the policy's wording is reported.

Design notes: the decision is made once and rendered twice, as the text of a condition and
as a filter expression, and the event is a function of it, so that both renderings agree
by construction on all but the columns.
-/
import RowSecurity.Audit.Traced
import RowSecurity.Config
import RowSecurity.Policy.Basic

namespace RowSecurity

/-- Why no row may be seen. -/
inductive Denial where
  | policy
  /-- the policy delegates to a parent, and nobody asked the parent -/
  | delegation
  /-- the caller lacks the identifier; `available` are the keys of those present -/
  | missingIdentifier (field valueKey : String) (available : List String)
  /-- the value is no policy; its kind is recorded -/
  | unrecognized (kind : String)
deriving DecidableEq, Repr

/-- What a policy means for one caller. -/
inductive Decision where
  | all
  | restrict (field valueKey : String) (value : Value)
  | deny (denial : Denial)
deriving DecidableEq, Repr

/-- The keys of the identifiers that are not null, in ascending order. -/
def availableKeys (identifiers : Fields) : List String :=
  ((identifiers.filter fun entry => !entry.2.isNull).map (·.1)).mergeSort Text.inOrder

/-- The decision for a policy value and the caller's identifiers. -/
def Decision.ofPolicy (config : Config) (policy : PolicyValue) (identifiers : Fields) : Decision :=
  match policy.coerce config.defaultValueKey with
  | some .allRecords => .all
  | some .denyAll => .deny .policy
  | some .parentDelegated => .deny .delegation
  | some (.fieldEquals field valueKey) =>
    if (identifiers.get valueKey).isNull then
      .deny (.missingIdentifier field valueKey (availableKeys identifiers))
    else .restrict field valueKey (identifiers.get valueKey)
  | none => .deny (.unrecognized policy.kindName)

namespace Decision

def kind : Decision → String
  | all => "all"
  | restrict .. => "restrict"
  | deny _ => "deny"

/-- Why a decision was reached, in a form fit for logs. -/
def reason : Decision → String
  | all => "all_records"
  | restrict field valueKey _ => (PolicyValue.ready (.fieldEquals field valueKey)).description
  | deny .policy => "deny_all"
  | deny .delegation => "parent_entity_access"
  | deny (.missingIdentifier _ valueKey _) => "missing_" ++ valueKey
  | deny (.unrecognized _) => "invalid_filter_config"

/-- The security event that a decision about an entity calls for. -/
def event? (entity : String) : Decision → Option Audit.SecurityEvent
  | deny .delegation => some ⟨"RLS_PARENT_DELEGATED_UNHANDLED", Audit.warning, [
      ("entity", .text entity),
      ("detail", .text "$parent policy reached the generic filter; denying (misconfiguration)")]⟩
  | deny (.missingIdentifier field valueKey available) =>
    some ⟨"RLS_MISSING_IDENTIFIER", Audit.info, [
      ("entity", .text entity), ("field", .text field), ("value_key", .text valueKey),
      ("available_keys", .list (available.map .text))]⟩
  | deny (.unrecognized kind) => some ⟨"RLS_INVALID_FILTER_CONFIG", Audit.error, [
      ("entity", .text entity), ("filter_config", .text kind),
      ("detail", .text "unrecognized filter configuration; denying")]⟩
  | _ => none

def report (entity : String) (decision : Decision) : Audit.Traced Unit :=
  match decision.event? entity with
  | some event => .emit event.name event.level event.fields
  | none => .ok ()

end Decision

/-- Decide about an entity, and report what the decision calls for. -/
def resolve (config : Config) (policy : PolicyValue) (identifiers : Fields) (entity : String) :
    Audit.Traced Decision := do
  let decision := Decision.ofPolicy config policy identifiers
  decision.report entity
  return decision

/-- Only a policy for all records shows all rows, and it must be a ready one. -/
theorem Decision.ofPolicy_eq_all_iff {config : Config} {policy : PolicyValue}
    {identifiers : Fields} :
    Decision.ofPolicy config policy identifiers = .all ↔ policy = .ready .allRecords := by
  constructor
  · intro h
    unfold Decision.ofPolicy at h
    split at h
    · rename_i read
      rcases PolicyValue.cases_of_coerce read with ⟨_, _, same, _⟩ | ready | ⟨_, same⟩
      · cases same
      · exact ready
      · cases same
    -- in the other four cases the decision is another one
    · simp at h
    · simp at h
    · split at h <;> simp at h
    · simp at h
  · rintro rfl
    rfl

/-- A restriction binds an identifier that is there to the column the policy names. -/
theorem Decision.ofPolicy_eq_restrict_iff {config : Config} {policy : PolicyValue}
    {identifiers : Fields} {field valueKey : String} {value : Value} :
    Decision.ofPolicy config policy identifiers = .restrict field valueKey value ↔
      policy.coerce config.defaultValueKey = some (.fieldEquals field valueKey) ∧
        identifiers.get valueKey = value ∧ value ≠ .null := by
  unfold Decision.ofPolicy
  split
  · simp [*]
  · simp [*]
  · simp [*]
  · rename_i f k hc
    rw [hc]
    constructor
    · intro h
      split at h
      · simp at h
      · rename_i hn
        simp only [Decision.restrict.injEq] at h
        obtain ⟨rfl, rfl, rfl⟩ := h
        exact ⟨rfl, rfl, by simpa using hn⟩
    · rintro ⟨h, rfl, hn⟩
      simp only [Option.some.injEq, Policy.fieldEquals.injEq] at h
      obtain ⟨rfl, rfl⟩ := h
      simp [hn]
  · simp [*]

/-- Nothing is reported of what the policy itself asks for. -/
theorem Decision.event?_eq_none_iff {decision : Decision} {entity : String} :
    decision.event? entity = none ↔
      decision = .all ∨ decision = .deny .policy ∨ ∃ f k v, decision = .restrict f k v := by
  cases decision with
  | all => simp [Decision.event?]
  | restrict => simp [Decision.event?]
  | deny denial => cases denial <;> simp [Decision.event?]

end RowSecurity
