/-
Policies: which rows of a resource a role may see.

* `Policy`: all rows, none, those a parent resource allows, or those whose column equals
  an identifier of the caller;
* `PolicyValue`: a value of a permission document, or a ready policy;
* `PolicyValue.parse`: the policy that a value stands for at loading time;
* `PolicyValue.coerce`: the same at request time, where null and booleans mean nothing.

Main statements:

* `parse_eq_of_coerce`: what is accepted at request time was accepted at loading time,
  with the same meaning;
* `parse_ready_of_parse`: a parsed policy parses to itself, whatever the default key is.

Design notes: column and key of a ready policy are checked when it is parsed, not when it
is made, so a policy value can be ready and yet malformed.
-/
import RowSecurity.Text.PlainName
import RowSecurity.Value.Written

namespace RowSecurity

/-- Which rows of a resource a role may see. -/
inductive Policy where
  | allRecords
  | denyAll
  /-- the rows whose parent the role may see -/
  | parentDelegated
  /-- the rows where a column equals the identifier of the given key -/
  | fieldEquals (field valueKey : String)
deriving DecidableEq, Repr

/-- A policy as it is given: a value of a permission document, or a ready policy. -/
inductive PolicyValue where
  | raw (value : Value)
  | ready (policy : Policy)
deriving DecidableEq, Repr

/-- The text that stands for delegation to a parent in a permission document. -/
def parentMarker : String := "$parent"

/-- A filter on a column and an identifier, if both are names. -/
def Policy.ofNames? (field valueKey : String) : Option Policy :=
  if Text.isName field && Text.isName valueKey then some (.fieldEquals field valueKey) else none

namespace PolicyValue

/-- The policy of a record: its column, and the key of its identifier unless that is empty. -/
def parseRecord (defaultKey : String) (fields : Fields) : Option Policy :=
  match fields.get "field" with
  | .text field =>
    -- any empty value counts as absent here, not null alone
    if (fields.get "value").isEmpty then Policy.ofNames? field defaultKey
    else
      match fields.get "value" with
      | .text valueKey => Policy.ofNames? field valueKey
      | _ => none
  | _ => none

/-- The policy that a value stands for. A column alone is compared with the identifier of the
default key, which is taken as it is. -/
def parse (defaultKey : String) : PolicyValue → Option Policy
  | ready (.fieldEquals field valueKey) => Policy.ofNames? field valueKey
  | ready policy => some policy
  | raw .null => some .allRecords
  | raw (.bool b) => if b then none else some .denyAll
  | raw (.text s) =>
    if s = parentMarker then some .parentDelegated
    else if Text.isName s then some (.fieldEquals s defaultKey)
    else none
  | raw (.record fields) => parseRecord defaultKey fields
  | raw _ => none

/-- The policy that a value stands for at request time: null and booleans should have been
replaced by policies when the document was loaded, and stand for nothing here. -/
def coerce (defaultKey : String) : PolicyValue → Option Policy
  | ready policy => parse defaultKey (ready policy)
  | raw (.text s) => parse defaultKey (raw (.text s))
  | raw (.record fields) => parse defaultKey (raw (.record fields))
  | raw _ => none

/-- What a policy value means, in a form fit for logs: never an identifier's value. -/
def description (value : PolicyValue) : String :=
  match value.parse "userId" with
  | none => "unknown"
  | some .allRecords => "all_records"
  | some .denyAll => "deny_all"
  | some .parentDelegated => "parent_entity_access"
  | some (.fieldEquals field valueKey) => "filter_by_" ++ field ++ "_via_" ++ valueKey

/-- Whether a policy value may show a row to somebody. -/
def allowsAccess (value : PolicyValue) : Bool :=
  match value.parse "userId" with
  | none | some .denyAll => false
  | some _ => true

def written : PolicyValue → String
  | raw value => value.written
  | ready .allRecords => "AllRecords()"
  | ready .denyAll => "DenyAll()"
  | ready .parentDelegated => "ParentDelegated()"
  | ready (.fieldEquals field valueKey) =>
    "FieldEquals(field=" ++ Text.quote field ++ ", value_key=" ++ Text.quote valueKey ++ ")"

/-- The name under which the audit trail records the kind of a policy value. -/
def kindName : PolicyValue → String
  | raw value => value.kindName
  | ready .allRecords => "AllRecords"
  | ready .denyAll => "DenyAll"
  | ready .parentDelegated => "ParentDelegated"
  | ready (.fieldEquals _ _) => "FieldEquals"

/-- What is accepted at request time was accepted at loading time, with the same meaning. -/
theorem parse_eq_of_coerce {defaultKey : String} {value : PolicyValue} {policy : Policy}
    (h : value.coerce defaultKey = some policy) : value.parse defaultKey = some policy := by
  unfold coerce at h
  split at h
  · exact h
  · exact h
  · exact h
  · simp at h

theorem ofNames?_eq_some {field valueKey : String} {policy : Policy}
    (h : Policy.ofNames? field valueKey = some policy) :
    policy = .fieldEquals field valueKey ∧ Text.isName field = true ∧
      Text.isName valueKey = true := by
  unfold Policy.ofNames? at h
  split at h
  · rename_i hn
    simp only [Option.some.injEq] at h
    simp only [Bool.and_eq_true] at hn
    exact ⟨h.symm, hn⟩
  · simp at h

/-- What stands for a policy at request time: for a filter, whatever names its column; for any other
policy, itself or the marker of one that delegates. -/
theorem cases_of_coerce {defaultKey : String} {value : PolicyValue} {policy : Policy}
    (h : value.coerce defaultKey = some policy) :
    (∃ field valueKey, policy = .fieldEquals field valueKey ∧ Text.isName field = true) ∨
      value = ready policy ∨ value = raw (.text parentMarker) ∧ policy = .parentDelegated := by
  match value with
  | ready (.fieldEquals field valueKey) =>
    obtain ⟨same, name, -⟩ := ofNames?_eq_some h
    exact .inl ⟨field, valueKey, same, name⟩
  | ready .allRecords | ready .denyAll | ready .parentDelegated =>
    cases h
    exact .inr (.inl rfl)
  | raw (.text s) =>
    simp only [coerce, parse] at h
    split at h
    · rename_i marker
      cases h
      exact .inr (.inr ⟨by rw [marker], rfl⟩)
    · split at h
      · rename_i name
        cases h
        exact .inl ⟨s, defaultKey, rfl, name⟩
      · cases h
  | raw (.record fields) =>
    simp only [coerce, parse, parseRecord] at h
    split at h
    · split at h
      · obtain ⟨same, name, -⟩ := ofNames?_eq_some h
        exact .inl ⟨_, _, same, name⟩
      · split at h
        · obtain ⟨same, name, -⟩ := ofNames?_eq_some h
          exact .inl ⟨_, _, same, name⟩
        · cases h
    · cases h
  | raw .null | raw (.bool _) | raw (.int _) | raw (.real _) | raw (.list _) => cases h

/-- The names in a parsed policy are names, given that the default key is one. -/
theorem names_of_parse {defaultKey field valueKey : String} {value : PolicyValue}
    (hkey : Text.isName defaultKey = true)
    (h : value.parse defaultKey = some (.fieldEquals field valueKey)) :
    Text.isName field = true ∧ Text.isName valueKey = true := by
  unfold parse at h
  -- the shapes that give a filter: a ready one, a column alone, and a record
  split at h
  · have := ofNames?_eq_some h
    simp_all
  · simp_all
  · simp at h
  · split at h <;> simp at h
  · split at h
    · simp at h
    · split at h
      · simp only [Option.some.injEq, Policy.fieldEquals.injEq] at h
        obtain ⟨rfl, rfl⟩ := h
        exact ⟨by assumption, hkey⟩
      · simp at h
  · unfold parseRecord at h
    split at h
    · split at h
      · have := ofNames?_eq_some h
        simp_all
      · split at h
        · have := ofNames?_eq_some h
          simp_all
        · simp at h
    · simp at h
  · simp at h

/-- A parsed policy parses to itself, whatever the default key is then. -/
theorem parse_ready_of_parse {defaultKey other : String} {value : PolicyValue} {policy : Policy}
    (hkey : Text.isName defaultKey = true) (h : value.parse defaultKey = some policy) :
    (ready policy).parse other = some policy := by
  cases policy with
  | fieldEquals field valueKey =>
    have := names_of_parse hkey h
    simp [parse, Policy.ofNames?, this.1, this.2]
  | _ => rfl

end PolicyValue

end RowSecurity
