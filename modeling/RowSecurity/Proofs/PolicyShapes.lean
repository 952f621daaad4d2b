/-
Which policy values stand for a policy, and for which one.

* `PolicyValue.Means`: the documented shapes of policy values, each with its policy;
* `PolicyValue.HollowKey`: a record whose key is present but empty;
* `ReadsDocumented`: that the documented shapes are read as documented, and that those records are
  the only other values that are read.

Main statement: `parse_readsDocumented`, for every default key that is a name.

Design notes: a record without a key, or with null for its key, takes the default key, and the
documentation says no more. What is read takes the default key for every empty value: false, a zero,
an empty text, list or record. So a record has two documented shapes, and `HollowKey` is what lies
between them.
-/
import RowSecurity.Policy.Table

namespace RowSecurity

namespace PolicyValue

/-- The documented shapes of policy values, each with the policy that it stands for. -/
inductive Means (defaultKey : String) : PolicyValue → Policy → Prop
  | null : Means defaultKey (raw .null) .allRecords
  | no : Means defaultKey (raw (.bool false)) .denyAll
  | parent : Means defaultKey (raw (.text parentMarker)) .parentDelegated
  /-- a column alone -/
  | column {field : String} (column : Text.isName field = true) :
    Means defaultKey (raw (.text field)) (.fieldEquals field defaultKey)
  /-- a record of a column without a key -/
  | keyless {fields : Fields} {field : String} (named : fields.get "field" = .text field)
    (column : Text.isName field = true) (absent : fields.get "value" = .null) :
    Means defaultKey (raw (.record fields)) (.fieldEquals field defaultKey)
  /-- a record of a column and a key -/
  | keyed {fields : Fields} {field key : String} (named : fields.get "field" = .text field)
    (column : Text.isName field = true) (asked : fields.get "value" = .text key)
    (identifier : Text.isName key = true) :
    Means defaultKey (raw (.record fields)) (.fieldEquals field key)
  /-- a ready policy that is no filter -/
  | whole {policy : Policy} (unfiltered : ∀ field key, policy ≠ .fieldEquals field key) :
    Means defaultKey (ready policy) policy
  /-- a ready filter -/
  | filter {field key : String} (column : Text.isName field = true)
    (identifier : Text.isName key = true) :
    Means defaultKey (ready (.fieldEquals field key)) (.fieldEquals field key)

/-- That a value is a record of a column whose key is present but empty. -/
inductive HollowKey (field : String) : PolicyValue → Prop
  | record {fields : Fields} (named : fields.get "field" = .text field)
    (column : Text.isName field = true) (present : fields.get "value" ≠ .null)
    (empty : (fields.get "value").isEmpty = true) : HollowKey field (raw (.record fields))

section Shapes

variable {key field : String} {value : PolicyValue} {policy : Policy} {fields : Fields}

theorem ofNames?_of_names {first second : String} (column : Text.isName first = true)
    (identifier : Text.isName second = true) :
    Policy.ofNames? first second = some (.fieldEquals first second) := by
  simp [Policy.ofNames?, column, identifier]

/-- A name is no empty text. -/
theorem isEmpty_of_isName (name : Text.isName key = true) : (Value.text key).isEmpty = false := by
  rw [Value.isEmpty, beq_eq_false_iff_ne]
  rintro rfl
  exact absurd name (by decide)

theorem ne_parentMarker_of_isName (name : Text.isName key = true) : key ≠ parentMarker := by
  rintro rfl
  exact absurd name (by decide)

/-! ### From a shape to what is read -/

/-- A record with an empty key, which null is as well, is read with the default key. -/
theorem parse_record_of_isEmpty (keyName : Text.isName key = true)
    (named : fields.get "field" = .text field) (column : Text.isName field = true)
    (empty : (fields.get "value").isEmpty = true) :
    (raw (.record fields)).parse key = some (.fieldEquals field key) := by
  simp only [parse, parseRecord, named, empty, if_true]
  exact ofNames?_of_names column keyName

/-- A value of a documented shape is read as its policy. -/
theorem Means.parse_eq (keyName : Text.isName key = true) (means : value.Means key policy) :
    value.parse key = some policy := by
  cases means with
  | null => rfl
  | no => rfl
  | parent => rfl
  | column column => simp [parse, ne_parentMarker_of_isName column, column]
  | keyless named column absent =>
    exact parse_record_of_isEmpty keyName named column (by rw [absent, Value.isEmpty])
  | keyed named column asked identifier =>
    -- a name is not empty, so the default key does not take its place
    simp only [parse, parseRecord, named, asked, isEmpty_of_isName identifier]
    exact ofNames?_of_names column identifier
  | whole unfiltered =>
    cases policy with
    | fieldEquals field key => exact absurd rfl (unfiltered field key)
    | allRecords | denyAll | parentDelegated => rfl
  | filter column identifier => exact ofNames?_of_names column identifier

theorem HollowKey.parse_eq (keyName : Text.isName key = true) (hollow : value.HollowKey field) :
    value.parse key = some (.fieldEquals field key) := by
  obtain ⟨named, column, -, empty⟩ := hollow
  exact parse_record_of_isEmpty keyName named column empty

/-- A record with an empty key has no documented shape: null is no key, and a name is not empty. -/
theorem HollowKey.not_means (hollow : value.HollowKey field) : ¬ value.Means key policy := by
  obtain ⟨-, -, present, empty⟩ := hollow
  intro means
  cases means with
  | keyless _ _ absent => exact present absent
  | keyed _ _ asked identifier =>
    rw [asked, isEmpty_of_isName identifier] at empty
    cases empty

/-! ### From what is read to a shape -/

theorem means_or_hollow_of_parseRecord (read : parseRecord key fields = some policy) :
    (raw (.record fields)).Means key policy ∨
      ∃ field, (raw (.record fields)).HollowKey field ∧ policy = .fieldEquals field key := by
  unfold parseRecord at read
  split at read
  · rename_i field named
    split at read
    -- the default key is taken: null is documented, the other empty values are not
    · rename_i empty
      obtain ⟨rfl, column, -⟩ := ofNames?_eq_some read
      by_cases absent : fields.get "value" = .null
      · exact .inl (.keyless named column absent)
      · exact .inr ⟨field, .record named column absent empty, rfl⟩
    · split at read
      · rename_i asked
        obtain ⟨rfl, column, identifier⟩ := ofNames?_eq_some read
        exact .inl (.keyed named column asked identifier)
      · cases read
  · cases read

/-- Whatever is read has a documented shape or an empty key. -/
theorem means_or_hollow_of_parse (read : value.parse key = some policy) :
    value.Means key policy ∨
      ∃ field, value.HollowKey field ∧ policy = .fieldEquals field key := by
  match value with
  | ready (.fieldEquals field other) =>
    obtain ⟨rfl, column, identifier⟩ := ofNames?_eq_some read
    exact .inl (.filter column identifier)
  | ready .allRecords | ready .denyAll | ready .parentDelegated =>
    cases read
    exact .inl (.whole (by simp))
  | raw .null =>
    cases read
    exact .inl .null
  | raw (.bool false) =>
    cases read
    exact .inl .no
  | raw (.text s) =>
    rw [parse] at read
    split at read
    · rename_i marker
      cases read
      rw [marker]
      exact .inl .parent
    · split at read
      · rename_i column
        cases read
        exact .inl (.column column)
      · cases read
  | raw (.record fields) => exact means_or_hollow_of_parseRecord read
  | raw (.bool true) | raw (.int _) | raw (.real _) | raw (.list _) => cases read

/-- A value that is not read has neither, and the other way round. -/
theorem parse_eq_none_iff (keyName : Text.isName key = true) :
    value.parse key = none ↔
      (∀ policy, ¬ value.Means key policy) ∧ ∀ field, ¬ value.HollowKey field := by
  constructor
  · intro unread
    constructor
    · intro policy means
      rw [means.parse_eq keyName] at unread
      cases unread
    · intro field hollow
      rw [hollow.parse_eq keyName] at unread
      cases unread
  · rintro ⟨meaningless, solid⟩
    rw [Option.eq_none_iff_forall_ne_some]
    intro policy read
    rcases means_or_hollow_of_parse read with means | ⟨field, hollow, -⟩
    · exact meaningless policy means
    · exact solid field hollow

end Shapes

end PolicyValue

/-! ### The whole -/

/-- That policy values are read as documented under a default key, apart from those with an empty
key. -/
structure ReadsDocumented (key : String) : Prop where
  /-- A value without an empty key is read if its shape is documented, and as its policy. -/
  documented : ∀ {value : PolicyValue}, (∀ field, ¬ value.HollowKey field) →
    ∀ policy, value.parse key = some policy ↔ value.Means key policy
  /-- A filter has the key that was asked for, if it has another one than the default key. -/
  asked : ∀ {value : PolicyValue} {field other},
    value.parse key = some (.fieldEquals field other) → other ≠ key →
      value = .ready (.fieldEquals field other) ∨
        ∃ fields : Fields, value = .raw (.record fields) ∧ fields.get "value" = .text other
  /-- A record with an empty key is read with the default key, and its shape is not documented. -/
  hollow : ∀ {value : PolicyValue} {field}, value.HollowKey field →
    value.parse key = some (.fieldEquals field key) ∧ ∀ policy, ¬ value.Means key policy
  /-- All other values are refused, in a failure that tells of the value. -/
  refused : ∀ {value : PolicyValue} {table : PolicyTable} {inForce : Config} {resource role failure},
    (table.effective inForce).defaultValueKey = key →
      (table.register inForce resource role value = .error failure ↔
        failure = .invalidPolicy value (some resource) ∧
          (∀ policy, ¬ value.Means key policy) ∧ ∀ field, ¬ value.HollowKey field)

end RowSecurity
