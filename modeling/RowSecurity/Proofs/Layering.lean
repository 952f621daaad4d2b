/-
Layers of changes to a configuration.

* `Changes.above`: changes laid over others;
* `Config.settings`: a configuration as the changes that make it out of any other;
* `Ambient.reconfigure`: a call that changes the configuration in force, and how it ends;
* `Changes.Allowed`: that no change breaks a rule;
* `Config.Layered`: that a configuration has in each field what was set there last.

Main statement: `reconfigure_layers`, for all calls, however each of them ends, and for merges one
after another.

Design notes: a merge makes a configuration anew out of all settings, those that are kept included
(`Config.merge_eq_ofChanges`). So merges are put together where changes are laid over one another,
and no rule has to be looked at for it. Falsehood and the empty list are set like any other value.
-/
import RowSecurity.Ambient.Basic

namespace RowSecurity

/-! ### Changes over changes -/

namespace Changes

/-- Changes laid over others, which count where these set nothing. -/
def above (changes below : Changes) : Changes where
  onMissingPolicy := changes.onMissingPolicy.or below.onMissingPolicy
  onMissingIdentifier := changes.onMissingIdentifier.or below.onMissingIdentifier
  defaultValueKey := changes.defaultValueKey.or below.defaultValueKey
  profileIdentifiers := changes.profileIdentifiers.or below.profileIdentifiers
  logDecisions := changes.logDecisions.or below.logDecisions
  maxParentDepth := changes.maxParentDepth.or below.maxParentDepth

theorem above_assoc (a b c : Changes) : (a.above b).above c = a.above (b.above c) := by
  simp only [above, Option.or_assoc]

/-- Changes laid one over another, the first of them over `below`. -/
def layers (below : Changes) (calls : List Changes) : Changes :=
  calls.foldl (fun below changes => changes.above below) below

/-- The value that changes set last in a field, if any of them sets one. -/
def lastSet {α : Type} (field : Changes → Option α) (calls : List Changes) : Option α :=
  (calls.filterMap field).getLast?

variable {α : Type} {field : Changes → Option α}

theorem lastSet_cons (changes : Changes) (calls : List Changes) :
    lastSet field (changes :: calls) = (lastSet field calls).or (field changes) := by
  cases h : field changes with
  | none => simp [lastSet, h]
  | some value =>
    have later : (changes :: calls).filterMap field = value :: calls.filterMap field :=
      List.filterMap_cons_some h
    rw [lastSet, lastSet, later, List.getLast?_cons]
    cases (calls.filterMap field).getLast? with
    | none => rfl
    | some last => rfl

/-- In layers a field has what was set there last. -/
theorem field_layers (each : ∀ a b : Changes, field (a.above b) = (field a).or (field b))
    (below : Changes) (calls : List Changes) :
    field (layers below calls) = (lastSet field calls).or (field below) := by
  induction calls generalizing below with
  | nil => rfl
  | cons changes calls ih =>
    have first : field (layers below (changes :: calls)) =
        (lastSet field calls).or (field (changes.above below)) := ih (changes.above below)
    rw [first, each, ← Option.or_assoc, lastSet_cons]

end Changes

/-! ### Settings -/

theorem OnMissing.eq_text_of_ofValue? {value : Value} {choice : OnMissing}
    (h : OnMissing.ofValue? value = some choice) : value = .text choice.word := by
  unfold OnMissing.ofValue? at h
  split at h
  · rename_i s
    split at h
    · rename_i deny
      obtain rfl := Option.some.inj h
      rw [deny, OnMissing.word]
    · split at h
      · rename_i fail
        obtain rfl := Option.some.inj h
        rw [fail, OnMissing.word]
      · simp at h
  · simp at h

namespace Config

/-- The changes that make this configuration out of any other. -/
def settings (config : Config) : Changes where
  onMissingPolicy := some (.text config.onMissingPolicy.word)
  onMissingIdentifier := some (.text config.onMissingIdentifier.word)
  defaultValueKey := some config.defaultValueKey
  profileIdentifiers := some (config.profileIdentifiers.map fun entry => [entry.1, entry.2])
  logDecisions := some config.logDecisions
  maxParentDepth := some config.maxParentDepth

theorem choose_or (fault : Value → ConfigFault) (below other : OnMissing) (given : Option Value) :
    choose fault other (given.or (some (.text below.word))) = choose fault below given := by
  cases given with
  | some value => rfl
  | none =>
    cases below with
    | deny => rfl
    | fail => rfl

/-- What is kept is set like what is changed. -/
theorem merge_eq_ofChanges (config : Config) (changes : Changes) :
    config.merge changes = ofChanges (changes.above config.settings) := by
  simp only [ofChanges, merge, Changes.above, settings, choose_or, Option.getD_or, Option.getD_some]

theorem word_of_choose {fault : Value → ConfigFault} {below choice : OnMissing}
    {given : Option Value} (h : choose fault below given = .ok choice) :
    some (Value.text choice.word) = given.or (some (.text below.word)) := by
  cases given with
  | none =>
    obtain rfl : below = choice := by simpa [choose] using h
    rfl
  | some value =>
    unfold choose at h
    dsimp only at h
    split at h
    · rename_i read
      obtain rfl := Except.ok.inj h
      rw [OnMissing.eq_text_of_ofValue? read]
      rfl
    · simp at h
    · simp at h
    · simp at h

/-- The settings after a merge are the changes over the settings before. -/
theorem settings_of_merge {config merged : Config} {changes : Changes}
    (h : config.merge changes = .ok merged) :
    merged.settings = changes.above config.settings := by
  have fields := merged_of_merge h
  have entries := (mapM_profileEntry_eq_ok fields.profileIdentifiers).1
  have policy := word_of_choose fields.onMissingPolicy
  have identifier := word_of_choose fields.onMissingIdentifier
  simp [settings, Changes.above, policy, identifier, entries, fields.defaultValueKey,
    fields.logDecisions, fields.maxParentDepth]

/-- Two merges, one after another, are one merge of the later changes over the earlier ones. -/
theorem merge_merge {config merged : Config} {first : Changes}
    (h : config.merge first = .ok merged) (second : Changes) :
    merged.merge second = config.merge (second.above first) := by
  calc merged.merge second
      = ofChanges (second.above merged.settings) := merged.merge_eq_ofChanges second
    _ = ofChanges (second.above (first.above config.settings)) := by rw [settings_of_merge h]
    _ = ofChanges ((second.above first).above config.settings) := by rw [Changes.above_assoc]
    _ = config.merge (second.above first) := (config.merge_eq_ofChanges (second.above first)).symm

/-- That a configuration has in each field what calls set there last, or what another one has if
none of them sets the field. -/
structure Layered (config below : Config) (calls : List Changes) : Prop where
  onMissingPolicy : .text config.onMissingPolicy.word =
    (Changes.lastSet (·.onMissingPolicy) calls).getD (.text below.onMissingPolicy.word)
  onMissingIdentifier : .text config.onMissingIdentifier.word =
    (Changes.lastSet (·.onMissingIdentifier) calls).getD (.text below.onMissingIdentifier.word)
  defaultValueKey : config.defaultValueKey =
    (Changes.lastSet (·.defaultValueKey) calls).getD below.defaultValueKey
  profileIdentifiers : (config.profileIdentifiers.map fun entry => [entry.1, entry.2]) =
    (Changes.lastSet (·.profileIdentifiers) calls).getD
      (below.profileIdentifiers.map fun entry => [entry.1, entry.2])
  logDecisions : config.logDecisions =
    (Changes.lastSet (·.logDecisions) calls).getD below.logDecisions
  maxParentDepth : (config.maxParentDepth : Int) =
    (Changes.lastSet (·.maxParentDepth) calls).getD below.maxParentDepth

/-- A field of settings that are layers. -/
theorem eq_lastSet_of_layers {α : Type} {config below : Config} {calls : List Changes}
    (h : config.settings = Changes.layers below.settings calls) (field : Changes → Option α)
    (each : ∀ a b : Changes, field (a.above b) = (field a).or (field b)) {value default : α}
    (here : field config.settings = some value) (there : field below.settings = some default) :
    value = (Changes.lastSet field calls).getD default := by
  have layered := Changes.field_layers each below.settings calls
  rw [← h, here, there] at layered
  rw [← Option.getD_some (a := value) (b := default), layered, Option.getD_or, Option.getD_some]

theorem layered_of_settings {config below : Config} {calls : List Changes}
    (h : config.settings = Changes.layers below.settings calls) :
    config.Layered below calls where
  onMissingPolicy := eq_lastSet_of_layers h (·.onMissingPolicy) (fun _ _ => rfl) rfl rfl
  onMissingIdentifier := eq_lastSet_of_layers h (·.onMissingIdentifier) (fun _ _ => rfl) rfl rfl
  defaultValueKey := eq_lastSet_of_layers h (·.defaultValueKey) (fun _ _ => rfl) rfl rfl
  profileIdentifiers := eq_lastSet_of_layers h (·.profileIdentifiers) (fun _ _ => rfl) rfl rfl
  logDecisions := eq_lastSet_of_layers h (·.logDecisions) (fun _ _ => rfl) rfl rfl
  maxParentDepth := eq_lastSet_of_layers h (·.maxParentDepth) (fun _ _ => rfl) rfl rfl

end Config

/-! ### Changes that break no rule -/

/-- That each value to override obeys its rule. -/
structure Changes.Allowed (changes : Changes) : Prop where
  onMissingPolicy : ∀ {given}, changes.onMissingPolicy = some given →
    ∃ choice : OnMissing, given = .text choice.word
  onMissingIdentifier : ∀ {given}, changes.onMissingIdentifier = some given →
    ∃ choice : OnMissing, given = .text choice.word
  defaultValueKey : ∀ {key}, changes.defaultValueKey = some key → Text.isName key = true
  profileIdentifiers : ∀ {entries}, changes.profileIdentifiers = some entries →
    ∃ pairs : List (String × String), entries = pairs.map (fun pair => [pair.1, pair.2]) ∧
      ∀ pair ∈ pairs, Text.isName pair.1 = true ∧ Text.isName pair.2 = true
  maxParentDepth : ∀ {depth}, changes.maxParentDepth = some depth → 1 ≤ depth

namespace Config

variable {config merged : Config} {changes : Changes}

theorem exists_choose_iff {fault : Value → ConfigFault} {below : OnMissing} {given : Option Value} :
    (∃ choice, choose fault below given = .ok choice) ↔
      ∀ {value}, given = some value → ∃ choice : OnMissing, value = .text choice.word := by
  cases given with
  | none =>
    refine ⟨fun _ _ none => ?_, fun _ => ⟨below, rfl⟩⟩
    simp at none
  | some value =>
    constructor
    · rintro ⟨choice, h⟩ other same
      obtain rfl := Option.some.inj same
      exact ⟨choice, (Option.some.inj (word_of_choose h)).symm⟩
    · intro allowed
      obtain ⟨choice, rfl⟩ := allowed rfl
      cases choice with
      | deny => exact ⟨.deny, rfl⟩
      | fail => exact ⟨.fail, rfl⟩

theorem allowed_of_merge (h : config.merge changes = .ok merged) : changes.Allowed := by
  have fields := merged_of_merge h
  obtain ⟨entries, names⟩ := mapM_profileEntry_eq_ok fields.profileIdentifiers
  refine ⟨exists_choose_iff.mp ⟨_, fields.onMissingPolicy⟩,
    exists_choose_iff.mp ⟨_, fields.onMissingIdentifier⟩, ?_, ?_, ?_⟩
  · intro key set
    have same := fields.defaultValueKey
    rw [set, Option.getD_some] at same
    rw [← same]
    exact fields.keyName
  · intro given set
    rw [set, Option.getD_some] at entries
    exact ⟨merged.profileIdentifiers, entries.symm, names⟩
  · intro depth set
    have same := fields.maxParentDepth
    have positive := fields.positive
    rw [set, Option.getD_some] at same
    omega

theorem exists_merge_of_allowed (valid : config.Valid) (allowed : changes.Allowed) :
    ∃ merged, config.merge changes = .ok merged := by
  obtain ⟨policy, hpolicy⟩ :=
    (@exists_choose_iff .onMissingPolicy config.onMissingPolicy _).mpr allowed.onMissingPolicy
  obtain ⟨identifier, hidentifier⟩ :=
    (@exists_choose_iff .onMissingIdentifier config.onMissingIdentifier _).mpr
      allowed.onMissingIdentifier
  have key : Text.isName (changes.defaultValueKey.getD config.defaultValueKey) = true := by
    cases set : changes.defaultValueKey with
    | none => exact valid.defaultValueKey
    | some given => exact allowed.defaultValueKey set
  obtain ⟨pairs, hpairs⟩ : ∃ pairs, (changes.profileIdentifiers.getD
      (config.profileIdentifiers.map fun entry => [entry.1, entry.2])).mapM profileEntry =
        .ok pairs := by
    cases set : changes.profileIdentifiers with
    | none => exact ⟨_, mapM_profileEntry_pairs valid.profileIdentifiers⟩
    | some entries =>
      obtain ⟨pairs, rfl, names⟩ := allowed.profileIdentifiers set
      exact ⟨pairs, mapM_profileEntry_pairs names⟩
  have depth : ¬ changes.maxParentDepth.getD config.maxParentDepth < 1 := by
    have positive := valid.maxParentDepth
    cases set : changes.maxParentDepth with
    | none =>
      rw [Option.getD_none]
      omega
    | some given =>
      have allowedDepth := allowed.maxParentDepth set
      rw [Option.getD_some]
      omega
  simp [merge, hpolicy, hidentifier, key, hpairs, depth, bind, Except.bind, pure, Except.pure]

/-- Changes can be merged into a configuration that keeps to the rules exactly if they do. -/
theorem exists_merge_iff (valid : config.Valid) :
    (∃ merged, config.merge changes = .ok merged) ↔ changes.Allowed :=
  ⟨fun ⟨_, h⟩ => allowed_of_merge h, exists_merge_of_allowed valid⟩

end Config

/-! ### Calls that change the configuration in force -/

namespace Ambient

/-- A call that changes the configuration in force: the state after it, and how it ends. -/
def reconfigure (ambient : Ambient) (changes : Changes) : Ambient × Except ConfigFault Config :=
  match ambient.configure changes with
  | .ok after => (after, .ok after.config)
  | .error fault => (ambient, .error fault)

/-- The state after such calls, however each of them ends. -/
def reconfigureAll (ambient : Ambient) (calls : List Changes) : Ambient :=
  calls.foldl (fun ambient changes => (ambient.reconfigure changes).1) ambient

/-- Those of the calls that do not fail. -/
def succeeding (ambient : Ambient) : List Changes → List Changes
  | [] => []
  | changes :: calls =>
    match ambient.reconfigure changes with
    | (after, .ok _) => changes :: after.succeeding calls
    | (after, .error _) => after.succeeding calls

/-- A call merges its changes into the configuration, or fails and does nothing. -/
theorem reconfigure_cases (ambient : Ambient) (changes : Changes) :
    (∃ merged, ambient.config.merge changes = .ok merged ∧
        ambient.reconfigure changes = ({ ambient with config := merged }, .ok merged)) ∨
      ∃ fault, ambient.config.merge changes = .error fault ∧
        ambient.reconfigure changes = (ambient, .error fault) := by
  cases h : ambient.config.merge changes with
  | ok merged =>
    refine .inl ⟨merged, rfl, ?_⟩
    simp [reconfigure, configure, h, Except.map]
  | error fault =>
    refine .inr ⟨fault, rfl, ?_⟩
    simp [reconfigure, configure, h, Except.map]

theorem reconfigureAll_cons (ambient : Ambient) (changes : Changes) (calls : List Changes) :
    ambient.reconfigureAll (changes :: calls) =
      (ambient.reconfigure changes).1.reconfigureAll calls := rfl

variable {ambient : Ambient}

/-- A call keeps to the rules. -/
theorem valid_reconfigure (valid : ambient.config.Valid) (changes : Changes) :
    (ambient.reconfigure changes).1.config.Valid := by
  obtain ⟨merged, h, step⟩ | ⟨fault, -, step⟩ := ambient.reconfigure_cases changes
  · rw [step]
    exact Config.valid_of_merge h
  · rw [step]
    exact valid

theorem valid_reconfigureAll (valid : ambient.config.Valid) (calls : List Changes) :
    (ambient.reconfigureAll calls).config.Valid := by
  induction calls generalizing ambient with
  | nil => exact valid
  | cons changes calls ih => exact ih (valid_reconfigure valid changes)

/-- The settings after calls are the changes of those that succeed, in layers. -/
theorem settings_reconfigureAll (ambient : Ambient) (calls : List Changes) :
    (ambient.reconfigureAll calls).config.settings =
      Changes.layers ambient.config.settings (ambient.succeeding calls) := by
  induction calls generalizing ambient with
  | nil => rfl
  | cons changes calls ih =>
    obtain ⟨merged, h, step⟩ | ⟨fault, -, step⟩ := ambient.reconfigure_cases changes
    · have rest := ih { ambient with config := merged }
      have settings := Config.settings_of_merge h
      simp only [reconfigureAll_cons, succeeding, step]
      rw [rest, settings]
      rfl
    · have rest := ih ambient
      simp only [reconfigureAll_cons, succeeding, step]
      exact rest

/-- A call does not fail exactly if its changes break no rule. -/
theorem exists_reconfigure_iff (valid : ambient.config.Valid) (changes : Changes) :
    (∃ after merged, ambient.reconfigure changes = (after, .ok merged)) ↔ changes.Allowed := by
  rw [← Config.exists_merge_iff valid]
  obtain ⟨merged, h, step⟩ | ⟨fault, h, step⟩ := ambient.reconfigure_cases changes
  · exact ⟨fun _ => ⟨merged, h⟩, fun _ => ⟨_, merged, step⟩⟩
  · constructor
    · rintro ⟨after, merged, succeeded⟩
      rw [step] at succeeded
      simp at succeeded
    · rintro ⟨merged, succeeded⟩
      rw [h] at succeeded
      simp at succeeded

theorem eq_of_reconfigure_eq_error {after : Ambient} {changes : Changes} {fault : ConfigFault}
    (h : ambient.reconfigure changes = (after, .error fault)) : after = ambient := by
  obtain ⟨merged, -, step⟩ | ⟨other, -, step⟩ := ambient.reconfigure_cases changes
  · rw [step] at h
    simp at h
  · rw [step] at h
    exact (congrArg Prod.fst h).symm

end Ambient

/-! ### The whole -/

/-- What calls come to that change the configuration in force, one after another, from the state in
which nothing has been set. -/
structure ReconfiguresInLayers (calls : List Changes) : Prop where
  valid : (Ambient.initial.reconfigureAll calls).config.Valid
  layered : (Ambient.initial.reconfigureAll calls).config.Layered .standard
    (Ambient.initial.succeeding calls)
  /-- One more call succeeds exactly if its changes break no rule, -/
  accepted : ∀ changes, (∃ after merged,
    (Ambient.initial.reconfigureAll calls).reconfigure changes = (after, .ok merged)) ↔
      changes.Allowed
  /-- and if it fails, it leaves the state as these calls left it. -/
  atomic : ∀ {after changes fault},
    (Ambient.initial.reconfigureAll calls).reconfigure changes = (after, .error fault) →
      after = Ambient.initial.reconfigureAll calls

/-- Changes merged into a configuration one after another and all at once. -/
structure Config.MergesInLayers (config : Config) : Prop where
  accepted : config.Valid → ∀ changes,
    (∃ merged, config.merge changes = .ok merged) ↔ changes.Allowed
  /-- The two end alike, in one configuration or with one fault. -/
  alike : ∀ {first merged}, config.merge first = .ok merged →
    ∀ second, merged.merge second = config.merge (second.above first)

/-- For all calls, whichever of them fail, and for every configuration: what was set last counts. -/
theorem reconfigure_layers (calls : List Changes) (config : Config) :
    ReconfiguresInLayers calls ∧ config.MergesInLayers := by
  have standard : Ambient.initial.config.Valid := Config.standard_valid
  have settings := Ambient.initial.settings_reconfigureAll calls
  have valid := Ambient.valid_reconfigureAll standard calls
  refine ⟨⟨valid, ?_, ?_, ?_⟩, ⟨fun rules changes => Config.exists_merge_iff rules, ?_⟩⟩
  · exact Config.layered_of_settings settings
  · exact Ambient.exists_reconfigure_iff valid
  · intro after changes fault failed
    exact Ambient.eq_of_reconfigure_eq_error failed
  · intro first merged h second
    exact Config.merge_merge h second

/-- A call that fails sets none of its fields, and falsehood is set like any other value. -/
example : (Ambient.initial.reconfigureAll [
      { Changes.none with logDecisions := some true, maxParentDepth := some 2 },
      { Changes.none with defaultValueKey := some "orgId", maxParentDepth := some 0 },
      { Changes.none with logDecisions := some false }]).config =
    { Config.standard with maxParentDepth := 2 } := by decide

end RowSecurity
