/-
A table of policies answers by what was entered last.

* `Stands`: that a change is in a history, and none after it undoes it;
* `LastWriteWins`: that every answer of a table can be read off the history.

Main statement: `run_lastWriteWins`, for every table with a configuration of its own or without, and
every list of calls.

Design notes: what a replay holds is proved by induction from the end of the history, since the last
change decides. Whether a pair has a policy depends on clearings alone; which one it is depends on
later entries too.
-/
import Mathlib.Data.List.Induction
import RowSecurity.Proofs.TableHistory

namespace RowSecurity

/-! ### What a replay holds -/

/-- That a change is in a history, and none after it undoes it. -/
def Stands (undoes : TableChange → Prop) (change : TableChange) (history : List TableChange) :
    Prop :=
  ∃ before after, history = before ++ change :: after ∧ ∀ later ∈ after, ¬ undoes later

theorem not_stands_nil {undoes : TableChange → Prop} {change : TableChange} :
    ¬ Stands undoes change [] := by
  rintro ⟨before, after, split, -⟩
  exact List.append_ne_nil_of_right_ne_nil before (List.cons_ne_nil change after) split.symm

theorem stands_append_singleton_iff {undoes : TableChange → Prop} {change last : TableChange}
    {history : List TableChange} :
    Stands undoes change (history ++ [last]) ↔
      change = last ∨ ¬ undoes last ∧ Stands undoes change history := by
  constructor
  · rintro ⟨before, after, split, quiet⟩
    -- the change is the last one, or the last one comes after it
    rcases List.eq_nil_or_concat after with rfl | ⟨between, later, rfl⟩
    · exact .inl (List.append_inj_right' split rfl |> List.singleton_inj.mp).symm
    · rw [List.concat_eq_append, ← List.cons_append, ← List.append_assoc] at split
      obtain ⟨same, ends⟩ := List.append_inj' split rfl
      cases List.singleton_inj.mp ends
      refine .inr ⟨quiet last (by simp), before, between, same, fun other member => ?_⟩
      exact quiet other (by simp [member])
  · rintro (rfl | ⟨quiet, before, after, rfl, none⟩)
    · exact ⟨history, [], rfl, by simp⟩
    · refine ⟨before, after ++ [last], by simp, fun other member => ?_⟩
      rcases List.mem_append.mp member with among | ends
      · exact none other among
      · rw [List.mem_singleton.mp ends]
        exact quiet

/-- What undoes the policy of a pair: a clearing, or another policy for the pair. -/
def TableChange.Overrules (role resource : String) : TableChange → Prop
  | .entered other target _ => (other, target) = (role, resource)
  | .cleared => True

def TableChange.Clears : TableChange → Prop
  | .entered _ _ _ => False
  | .cleared => True

section Replay

variable {own : Option Config} {role resource : String}

theorem PolicyTable.replay_append_singleton (table : PolicyTable) (history : List TableChange)
    (last : TableChange) : table.replay (history ++ [last]) = last.on (table.replay history) := by
  rw [replay, List.foldl_append]
  rfl

/-- A replay holds for a pair what stands at the end. -/
theorem get?_replay {policy : Policy} (history : List TableChange) :
    ((PolicyTable.empty own).replay history).get? role resource = some policy ↔
      Stands (TableChange.Overrules role resource) (.entered role resource policy) history := by
  induction history using List.reverseRecOn with
  | nil =>
    constructor
    · intro found
      cases found
    · exact fun stands => absurd stands not_stands_nil
  | append_singleton history last ih =>
    rw [PolicyTable.replay_append_singleton, stands_append_singleton_iff]
    cases last with
    | cleared =>
      constructor
      · intro found
        cases found
      · rintro (same | ⟨quiet, -⟩)
        · cases same
        · exact absurd trivial quiet
    | entered other target entered =>
      by_cases same : (other, target) = (role, resource)
      · cases same
        rw [TableChange.on, PolicyTable.get?_insert_self, Option.some.injEq]
        constructor
        · rintro rfl
          exact .inl rfl
        · rintro (whole | ⟨quiet, -⟩)
          · cases whole
            rfl
          · exact absurd rfl quiet
      · rw [TableChange.on, PolicyTable.get?_insert_of_ne (Ne.symm same), ih]
        constructor
        · exact fun stands => .inr ⟨same, stands⟩
        · rintro (whole | ⟨-, stands⟩)
          · cases whole
            exact absurd rfl same
          · exact stands

/-- Some policy of a pair stands if one was entered since the last clearing. -/
theorem exists_stands_iff (history : List TableChange) :
    (∃ policy, Stands (TableChange.Overrules role resource) (.entered role resource policy)
        history) ↔
      ∃ policy, Stands TableChange.Clears (.entered role resource policy) history := by
  induction history using List.reverseRecOn with
  | nil => simp only [not_stands_nil]
  | append_singleton history last ih =>
    simp only [stands_append_singleton_iff]
    cases last with
    | cleared => simp [TableChange.Overrules, TableChange.Clears]
    | entered other target entered =>
      by_cases same : (other, target) = (role, resource)
      · cases same
        constructor
        · exact fun _ => ⟨entered, .inl rfl⟩
        · exact fun _ => ⟨entered, .inl rfl⟩
      · have differs : ∀ policy,
            TableChange.entered role resource policy ≠ .entered other target entered := by
          rintro policy whole
          cases whole
          exact same rfl
        simp only [differs, false_or, TableChange.Overrules, same, not_false_eq_true, true_and,
          TableChange.Clears]
        exact ih

theorem contains_replay (history : List TableChange) :
    ((PolicyTable.empty own).replay history).contains role resource = true ↔
      ∃ policy, Stands TableChange.Clears (.entered role resource policy) history := by
  rw [← exists_stands_iff, PolicyTable.contains, Option.isSome_iff_exists]
  simp only [get?_replay]

theorem mem_setEntry {key : String × String} {policy : Policy}
    {entries : List ((String × String) × Policy)} {entry : (String × String) × Policy}
    (member : entry ∈ PolicyTable.setEntry key policy entries) :
    entry = (key, policy) ∨ entry ∈ entries := by
  induction entries with
  | nil => exact .inl (List.mem_singleton.mp member)
  | cons first rest ih =>
    rw [PolicyTable.setEntry] at member
    split at member
    · exact (List.mem_cons.mp member).imp_right (List.mem_cons_of_mem _)
    · rcases List.mem_cons.mp member with rfl | among
      · exact .inr List.mem_cons_self
      · exact (ih among).imp_right (List.mem_cons_of_mem _)

/-- Whatever a replay holds was entered. -/
theorem entered_of_mem_replay {history : List TableChange} {entry : (String × String) × Policy}
    (member : entry ∈ ((PolicyTable.empty own).replay history).entries) :
    .entered entry.1.1 entry.1.2 entry.2 ∈ history := by
  induction history using List.reverseRecOn with
  | nil => cases member
  | append_singleton history last ih =>
    rw [PolicyTable.replay_append_singleton] at member
    cases last with
    | cleared => cases member
    | entered role resource policy =>
      rcases mem_setEntry member with rfl | before
      · exact List.mem_append_right _ List.mem_cons_self
      · exact List.mem_append_left _ (ih before)

end Replay

/-! ### Listings -/

section Listings

variable {table : PolicyTable} {role resource : String}

theorem PolicyTable.contains_iff_mem :
    table.contains role resource = true ↔
      ∃ policy, ((role, resource), policy) ∈ table.entries := by
  rw [contains, get?, Option.isSome_map, List.find?_isSome]
  constructor
  · rintro ⟨⟨key, policy⟩, member, same⟩
    cases of_decide_eq_true same
    exact ⟨policy, member⟩
  · rintro ⟨policy, member⟩
    exact ⟨_, member, decide_eq_true rfl⟩

/-- The roles that a table lists for a resource are those with a policy on it. -/
theorem PolicyTable.mem_rolesFor_iff :
    role ∈ table.rolesFor resource ↔ table.contains role resource = true := by
  rw [contains_iff_mem, rolesFor, List.mem_mergeSort, List.mem_eraseDups, List.mem_map]
  constructor
  · rintro ⟨⟨⟨role, other⟩, policy⟩, listed, rfl⟩
    obtain ⟨member, same⟩ := List.mem_filter.mp listed
    cases of_decide_eq_true same
    exact ⟨policy, member⟩
  · rintro ⟨policy, member⟩
    exact ⟨_, List.mem_filter.mpr ⟨member, decide_eq_true rfl⟩, rfl⟩

theorem PolicyTable.mem_resources_iff :
    resource ∈ table.resources ↔ ∃ role, table.contains role resource = true := by
  simp only [contains_iff_mem]
  rw [resources, List.mem_mergeSort, List.mem_eraseDups, List.mem_map]
  constructor
  · rintro ⟨⟨⟨role, resource⟩, policy⟩, member, rfl⟩
    exact ⟨role, policy, member⟩
  · rintro ⟨role, policy, member⟩
    exact ⟨_, member, rfl⟩

end Listings

/-! ### The whole -/

/-- That a table which was empty before some calls answers by their history, and what the next
call adds to that. -/
structure LastWriteWins (own : Option Config) (state : TableState) (history : List TableChange) :
    Prop where
  /-- A pair has a policy if one was entered since the last clearing. -/
  has : ∀ role resource, state.table.contains role resource = true ↔
    ∃ policy, Stands TableChange.Clears (.entered role resource policy) history
  /-- It is the last one, whatever configuration is in force by then. -/
  found : ∀ {role resource}, state.table.contains role resource = true →
    ∃ policy, Stands (TableChange.Overrules role resource) (.entered role resource policy) history ∧
      ∀ inForce, state.table.find inForce role resource = .ok policy
  /-- A pair without a policy is denied or refused, as the configuration in force by then asks. -/
  missing : ∀ {role resource}, state.table.contains role resource = false →
    ∀ inForce, state.table.find inForce role resource =
      if (own.getD inForce).onMissingPolicy = .deny then .ok .denyAll
      else .error (.noPolicy role resource)
  roles : ∀ role resource, role ∈ state.table.rolesFor resource ↔
    ∃ policy, Stands TableChange.Clears (.entered role resource policy) history
  resources : ∀ resource, resource ∈ state.table.resources ↔
    ∃ role policy, Stands TableChange.Clears (.entered role resource policy) history
  /-- Whatever is held stands for itself, whatever the default key is. -/
  fixed : ∀ entry ∈ state.table.entries, ∀ key,
    (PolicyValue.ready entry.2).parse key = some entry.2
  /-- A registration enters what the value stands for with the key in force, if it is a policy. -/
  registers : ∀ {resource role value policy},
    value.parse (own.getD state.inForce).defaultValueKey = some policy →
      (state.step (.register resource role value)).2 = .ok () ∧
        state.changes (.register resource role value) = [.entered role resource policy]
  /-- A registration of any other value fails, and nothing changes. -/
  refuses : ∀ {resource role value},
    value.parse (own.getD state.inForce).defaultValueKey = none →
      state.step (.register resource role value) =
          (state, .error (.invalidPolicy value (some resource))) ∧
        state.changes (.register resource role value) = []
  /-- A load that succeeds registers every entry. -/
  loads : ∀ {policies}, (state.step (.load policies)).2 = .ok () →
    (∀ entry ∈ mappingEntries policies, entry.accepted state.key = true) ∧
      state.AmountsTo (.load policies) ((mappingEntries policies).filterMap MappingEntry.call?)
  /-- A load that fails registers the entries before the first one that is refused. -/
  fails : ∀ {policies failure}, (state.step (.load policies)).2 = .error failure →
    ∃ before offending after, mappingEntries policies = before ++ offending :: after ∧
      (∀ entry ∈ before, entry.accepted state.key = true) ∧
      offending.accepted state.key = false ∧ failure = offending.refusal ∧
      state.AmountsTo (.load policies) (before.filterMap MappingEntry.call?)
  /-- Setting the configuration in force leaves the table alone. -/
  configures : ∀ changes, (state.step (.configure changes)).1.table = state.table

section Whole

variable {own : Option Config} {start : Config}

/-- Every table answers by what was entered last, whatever was called. -/
theorem run_lastWriteWins (validOwn : ∀ config ∈ own, config.Valid) (validStart : start.Valid)
    (calls : List TableCall) :
    LastWriteWins own (TableState.run ⟨.empty own, start⟩ calls)
      (TableState.history ⟨.empty own, start⟩ calls) := by
  have valid : TableState.Valid ⟨.empty own, start⟩ := ⟨validStart, validOwn⟩
  have replayed := TableState.table_run ⟨.empty own, start⟩ calls
  generalize made : TableState.history ⟨.empty own, start⟩ calls = history at *
  generalize TableState.run ⟨.empty own, start⟩ calls = state at *
  have effective (inForce : Config) : state.table.effective inForce = own.getD inForce := by
    rw [PolicyTable.effective, replayed, PolicyTable.config_replay]
    rfl
  have key : state.key = (own.getD state.inForce).defaultValueKey :=
    congrArg Config.defaultValueKey (effective state.inForce)
  have contains (role resource : String) : state.table.contains role resource = true ↔
      ∃ policy, Stands TableChange.Clears (.entered role resource policy) history := by
    rw [replayed]
    exact contains_replay history
  exact {
    has := contains
    found := by
      intro role resource present
      obtain ⟨policy, held⟩ := Option.isSome_iff_exists.mp present
      refine ⟨policy, (get?_replay history).mp (replayed ▸ held), fun inForce => ?_⟩
      rw [PolicyTable.find, held]
    missing := by
      intro role resource absent inForce
      have none : state.table.get? role resource = none := by
        simpa [PolicyTable.contains] using absent
      rw [PolicyTable.find, none, effective]
      cases (own.getD inForce).onMissingPolicy with
      | deny => rfl
      | fail => rfl
    roles := fun role resource => PolicyTable.mem_rolesFor_iff.trans (contains role resource)
    resources := fun resource =>
      PolicyTable.mem_resources_iff.trans (exists_congr fun role => contains role resource)
    fixed := by
      intro entry member
      rw [replayed] at member
      exact valid.parse_of_history (made ▸ entered_of_mem_replay member)
    registers := by
      intro resource role value policy read
      rw [← key] at read
      rw [TableState.step_register_of_ok read, TableState.changes, read]
      exact ⟨rfl, rfl⟩
    refuses := by
      intro resource role value unread
      rw [← key] at unread
      rw [TableState.changes, unread]
      exact ⟨TableState.step_register_of_error unread, rfl⟩
    loads := TableState.loads_of_ok
    fails := TableState.fails_of_error
    configures := fun changes => state.table_step (.configure changes) }

end Whole

/-- What is read with one default key is found under another, and what came before a refused entry
stays. -/
theorem run_lastWriteWins_refused :
    (∀ config ∈ (none : Option Config), config.Valid) ∧ Config.standard.Valid ∧
      LastWriteWins none
        ⟨⟨[(("customer", "orders"), .fieldEquals "owner" "orgId"), (("clerk", "orders"), .denyAll)],
          none⟩, { Config.standard with defaultValueKey := "teamId" }⟩
        [.entered "customer" "orders" .allRecords, .cleared,
          .entered "customer" "orders" (.fieldEquals "owner" "orgId"),
          .entered "clerk" "orders" .denyAll] := by
  have none_valid : ∀ config ∈ (none : Option Config), config.Valid := by simp
  exact ⟨none_valid, Config.standard_valid,
    run_lastWriteWins none_valid Config.standard_valid [
      .register "orders" "customer" (.raw .null),
      .clear,
      .configure { Changes.none with defaultValueKey := some "orgId" },
      .register "orders" "customer" (.raw (.text "owner")),
      .configure { Changes.none with defaultValueKey := some "teamId" },
      .load [("orders", .record [("clerk", .bool false), ("guest", .bool true), ("x", .null)])]]⟩

end RowSecurity
